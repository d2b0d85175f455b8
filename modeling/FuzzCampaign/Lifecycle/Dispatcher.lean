import FuzzCampaign.Lifecycle.Host
set_option autoImplicit false

/-! # The dispatcher

A dispatcher is a shell that runs phase scripts on request. A request ends with the exit code that the
shell prints, with a cancellation, with the end of the shell or when its time is over; of several at once
the first of this list counts. A shell that ended in another way than by printing an exit code is killed
and never used again, so a code that is late can never be taken for the answer to another request. -/

namespace FuzzCampaign

/-- A dispatcher as the client knows it. -/
structure Dispatcher where
  /-- The files it was started from. -/
  scripts : ScriptSet
  markers : ControlMarkers
  /-- What was read from it. -/
  output : Demux := {}
  /-- Whether it can still take requests, as far as the client knows. -/
  alive : Bool := true
deriving DecidableEq, Repr

/-- How waiting for a phase ended. -/
inductive PhaseEnd where
  | exitCode (code : Int)
  | cancelled
  /-- The shell is gone. -/
  | exited
  /-- The time is over. -/
  | expired
deriving DecidableEq, Repr

namespace Demux

/-- Take the oldest exit code. -/
def takeCode (d : Demux) : Option (Int × Demux) :=
  match d.exitCodes with
  | [] => none
  | code :: rest => some (code, { d with exitCodes := rest })

/-- A new phase begins: its tail is empty, and exit codes that nobody took are forgotten. -/
def beginPhase (d : Demux) : Demux := { d with exitCodes := [], tail := {} }

end Demux

namespace Dispatcher

/-! ## Waiting -/

/-- Whether waiting ends with what was found on a waking, and how. -/
def select (d : Demux) (found : Wake) : Option (PhaseEnd × Demux) :=
  if found.cancelled then some (.cancelled, d)
  else
    match d.takeCode with
    | some (code, d) => some (.exitCode code, d)
    | none =>
      if found.exited then some (.exited, d)
      else if found.expired then some (.expired, d)
      else none

/-- Wait for the end of a phase. -/
def await {ω : Type} (markers : ControlMarkers) : Watch ω → Demux → PhaseEnd × Demux × ω
  | .over host, d => (.expired, d, host)
  | .wake found host later, d =>
    let d := d.lines markers found.arrived
    match select d found with
    | some (ending, d) => (ending, d, host)
    | none => await markers (later ()) d

/-- Wait for an exit code that is still on its way. -/
def awaitLate {ω : Type} (markers : ControlMarkers) : Watch ω → Demux → Option Int × Demux × ω
  | .over host, d => (none, d, host)
  | .wake found host later, d =>
    let d := d.lines markers found.arrived
    match d.takeCode with
    | some (code, d) => (some code, d, host)
    | none => awaitLate markers (later ()) d

/-! ## Requests -/

variable {ω : Type} (host : ShellHost ω)

/-- Start a dispatcher. -/
def spawn (scripts : ScriptSet) (markers : ControlMarkers) (s : ω) :
    Except CampaignError Dispatcher × ω :=
  match host.spawn scripts s with
  | (.ok (), s) => (.ok { scripts, markers }, s)
  | (.error reason, s) => (.error (.phase "dispatcher" ("failed to spawn bash: " ++ reason)), s)

/-- Read what arrived. -/
def listen (d : Dispatcher) (s : ω) : Dispatcher × ω :=
  let (lines, s) := host.arrived s
  ({ d with output := d.output.lines d.markers lines }, s)

/-- Notice whether the shell is gone. -/
def checkAlive (d : Dispatcher) (s : ω) : Dispatcher := { d with alive := d.alive && host.isRunning s }

/-- The error of a phase, with the last lines of output. -/
def phaseError (d : Dispatcher) (phase : Phase) (code : Option Int) (message : String) : CampaignError :=
  .reset phase.name code message d.output.tail.lines

/-- The result of a phase that ended with an exit code. -/
def codeResult (d : Dispatcher) (phase : Phase) (code : Int) : Except CampaignError Unit :=
  if code = 0 then .ok () else .error (d.phaseError phase (some code) "script failed")

/-- Run the script of a phase. -/
def runPhase (d : Dispatcher) (phase : Phase) (script : String) (timeout : Nat) (cancelled : Bool)
    (s : ω) : Except CampaignError Unit × Dispatcher × ω :=
  let d := d.checkAlive host s
  if !d.alive then (.error (.phase phase.name "dispatcher is not running"), d, s)
  else
    let (d, s) := d.listen host s
    let d := { d with output := d.output.beginPhase }
    match host.write (d.markers.execLine script) s with
    | (.error reason, s) =>
      let d := { d with alive := false }
      (.error (d.phaseError phase none ("cannot reach dispatcher: " ++ reason)), d, s)
    | (.ok (), s) =>
      match await d.markers (host.watch timeout cancelled s) d.output with
      | (.exitCode code, output, s) =>
        let d := { d with output }
        (d.codeResult phase code, d, s)
      | (.cancelled, output, s) =>
        (.error (.cancelled (phase.name ++ " phase cancelled")), { d with output, alive := false },
          host.kill s)
      | (.expired, output, s) =>
        let d := { d with output, alive := false }
        (.error (d.phaseError phase none
          ("timed out after " ++ toString (timeout / 1000000000) ++ "s")), d, host.kill s)
      | (.exited, output, s) =>
        match awaitLate d.markers (host.linger s) output with
        | (some code, output, s) =>
          let d := { d with output, alive := false }
          (d.codeResult phase code, d, s)
        | (none, output, s) =>
          let d := { d with output, alive := false }
          (.error (d.phaseError phase none "dispatcher exited unexpectedly"), d, host.kill s)

/-- Ask the shell to exit and see it gone. -/
def shutdown (d : Dispatcher) (s : ω) : Except CampaignError Unit × Dispatcher × ω :=
  let s := if d.alive then (host.write d.markers.exitLine s).2 else s
  let (reaped, s) := host.reap s
  let (d, s) := d.listen host s
  let result := match reaped with
    | .ok () => .ok ()
    | .error reason => .error (.phase "dispatcher" ("cannot reap bash: " ++ reason))
  (result, { d with alive := false }, host.drop s)

end Dispatcher

end FuzzCampaign
