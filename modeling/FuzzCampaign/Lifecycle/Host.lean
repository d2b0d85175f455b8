import FuzzCampaign.Lifecycle.Output
import FuzzCampaign.Lifecycle.ScriptSet
set_option autoImplicit false

/-! # The host of a dispatcher

What running lifecycle scripts needs from outside: a place for files, a shell process, its streams, and
time. A host is known only by what it answers; it holds at most one shell whose streams are attached, and
whatever that shell left behind. Times are in nanoseconds.

While a phase runs the client sleeps and wakes up. What it finds at each of its wakings, and the host as
it is then, make up a watch: a finite tree, of which the client goes as far as it needs. -/

namespace FuzzCampaign

/-- What the client finds when it wakes up. -/
structure Wake where
  /-- Lines of output that arrived since it last looked, in order. -/
  arrived : List (OutputStream × String) := []
  /-- Whether the request was cancelled. -/
  cancelled : Bool := false
  /-- Whether the shell is gone. -/
  exited : Bool := false
  /-- Whether the time for the phase is over. -/
  expired : Bool := false
deriving DecidableEq, Repr, Inhabited

/-- What the client finds while it waits. -/
inductive Watch (ω : Type) where
  /-- Nothing more is found before the time is over. -/
  | over (host : ω)
  /-- Something is found; the client may go on waiting. -/
  | wake (found : Wake) (host : ω) (later : Unit → Watch ω)

/-- A host, with states in `ω`. -/
structure ShellHost (ω : Type) where
  /-- The time. -/
  clock : ω → Nat
  /-- Time passes until an instant. -/
  passUntil : Nat → ω → ω
  /-- A nonce that was never used before. -/
  freshNonce : ω → String × ω
  /-- Makes a directory of its own for a script set. -/
  makeDirectory : ω → Except String String × ω
  /-- Writes the files of a script set. -/
  store : ScriptSet → ω → Except String Unit × ω
  /-- Removes a directory with everything in it. -/
  removeDirectory : String → ω → ω
  /-- Starts a shell on the dispatcher's script and attaches it. A shell that is attached already gives way to it: it
  is killed if it runs, and its streams are detached. -/
  spawn : ScriptSet → ω → Except String Unit × ω
  /-- Whether the shell still runs. -/
  isRunning : ω → Bool
  /-- Writes to the shell's input. -/
  write : String → ω → Except String Unit × ω
  /-- Waits for a phase: told how long, and whether the request is cancelled already. -/
  watch : Nat → Bool → ω → Watch ω
  /-- Waits for output that is still on its way when the shell is gone. -/
  linger : ω → Watch ω
  /-- Takes the lines that arrived since the last look. -/
  arrived : ω → List (OutputStream × String) × ω
  /-- Kills the shell. -/
  kill : ω → ω
  /-- Waits until the shell is gone, and makes it go when it does not. -/
  reap : ω → Except String Unit × ω
  /-- Kills the shell if it runs and detaches its streams. -/
  drop : ω → ω

end FuzzCampaign
