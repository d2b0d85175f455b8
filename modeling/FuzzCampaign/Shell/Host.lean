import FuzzCampaign.Campaign.Uuid
import FuzzCampaign.Lifecycle.ShellResetter
import FuzzCampaign.Shell.Machine
import FuzzCampaign.Shell.Programs
set_option autoImplicit false

/-! # A machine as a host

A machine can be the host of a dispatcher: the shell that runs the dispatcher's script is the process that
is attached. Everything that a script can tell about its surroundings is a matter of the machine, so the
same scripts always do the same. -/

namespace FuzzCampaign.Shell

namespace Machine

/-! ## Starting -/

/-- A machine on which nothing runs yet. -/
def start : Machine := { files := Files.fresh programNames }

/-- The environment of the programs that clients start. -/
def clientEnvironment : List (String × Str) :=
  [("HOME", "/root".toList), ("PATH", "/usr/local/sbin:/usr/local/bin:/usr/sbin:/usr/bin:/sbin:/bin".toList)]

/-- The environment with other variables, the last of which counts where a name comes several times. -/
def environmentWith (given : List (String × Str)) : List (String × Str) :=
  given.foldl (fun env (name, text) => env.filter (·.1 != name) ++ [(name, text)]) clientEnvironment

/-- A name of a directory that was never used before. -/
def freshDirectory (m : Machine) : String × Machine :=
  let (n, m) := m.fresh
  let digits := Nat.toDigits 10 (n % 1000000)
  ("/tmp/campaign-resetter-" ++ String.ofList (List.replicate (6 - digits.length) '0' ++ digits), m)

/-- Make a directory. -/
def makeDirectory (m : Machine) (path : String) : Except Errno Machine :=
  match m.files.carryOut m.clock (.makeDirectory (Str.ofString path)) with
  | .ok (_, files) => .ok { m with files }
  | .error why => .error why

/-- The content of a file, when there is one. -/
def fileText? (m : Machine) (path : String) : Option Str :=
  match (m.files.at? (Str.ofString path)).map FileNode.content with
  | some (.file text) => some text
  | _ => none

/-- Write a file. -/
def storeFile (m : Machine) (path text : String) : Machine :=
  let node : FileNode := { content := .file (Str.ofString text), mode := 0o644, modified := m.clock }
  { m with files := m.files.put (Str.ofString path) node }

/-! ## Waiting -/

/-- Lines that arrived, as the client reads them. -/
def readLines (lines : List (Bool × Str)) : List (OutputStream × String) :=
  lines.map fun (isError, text) =>
    (if isError then OutputStream.errors else .standard, Demux.lineText text.bytes)

/-- Whether lines arrived that nobody took. -/
def hasArrived (m : Machine) : Bool := m.attached.any fun a => !a.arrived.isEmpty

/-- What a client finds that waits for a phase until a time. -/
def watchUntil (cancelled : Bool) (deadline : Nat) : Nat → Machine → Watch Machine
  | 0, m => .over m
  | fuel + 1, m =>
    if cancelled then .wake { cancelled := true } m fun _ => .over m
    else
      let m := runUntil (fun m => m.hasArrived || !m.isRunning) deadline patience m
      let (lines, m) := m.takeArrived
      if lines.isEmpty && m.isRunning then .wake { expired := true } m fun _ => .over m
      else
        .wake { arrived := readLines lines, exited := !m.isRunning } m fun _ =>
          watchUntil cancelled deadline fuel m

/-- What a client finds that waits for output until a time, or until nobody writes any more. -/
def lingerUntil (deadline : Nat) : Nat → Machine → Watch Machine
  | 0, m => .over m
  | fuel + 1, m =>
    let m := runUntil (fun m => m.hasArrived || m.outputEnded) deadline patience m
    let (lines, m) := m.takeArrived
    if lines.isEmpty then .over m
    else .wake { arrived := readLines lines } m fun _ => lingerUntil deadline fuel m

/-- How long a client waits for output of a shell that is gone. -/
def lingerTime : Nat := 200000000

/-- How long a shell has to end by itself, and how long after it was asked to. -/
def reapTimes : Nat × Nat := (5000000000, 2000000000)

/-- Wait until the attached process is gone, at most for some time. -/
def awaitEnd (time : Nat) (m : Machine) : Machine :=
  if m.isRunning then runUntil (fun m => !m.isRunning) (m.clock + time) patience m else m

/-- See the attached process gone: its input ends, then it is asked to end, then it is killed. -/
def reap (m : Machine) : Machine :=
  let m := m.closeInput.awaitEnd reapTimes.1
  let m := if m.isRunning then (m.signalAttached 15).awaitEnd reapTimes.2 else m
  if m.isRunning then m.signalAttached 9 else m

/-! ## The host -/

/-- The result of something that is refused or not. -/
def hostResult (m : Machine) : Except Errno Machine → Except String Unit × Machine
  | .ok m => (.ok (), m)
  | .error .brokenPipe => (.error "Broken pipe (os error 32)", m)
  | .error why => (.error (String.ofList why.message), m)

/-- A machine as a host. -/
def host (environment : List (String × Str)) : ShellHost Machine where
  clock := Machine.clock
  passUntil := Machine.passUntil
  freshNonce m :=
    let (n, m) := m.fresh
    (String.ofList (Uuid.ofRandom (BitVec.ofNat 128 (n * 0x9e3779b97f4a7c15f39cc0605cedc835))).simple, m)
  makeDirectory m :=
    let (path, m) := m.freshDirectory
    match m.makeDirectory path with
    | .ok m => (.ok path, m)
    | .error why => (.error (String.ofList why.message), m)
  store set m := (.ok (), set.files.foldl (fun m (name, text) => m.storeFile (ScriptSet.fileIn set.dir name) text) m)
  removeDirectory path m := { m with files := m.files.removeTree (Str.ofString path) }
  spawn set m :=
    let words := ["bash", "--noprofile", "--norc", set.dispatcherPath].map Str.ofString
    (.ok (), m.replaceAttached (programProcess environment (Str.ofString set.dir) "/usr/bin/bash".toList words))
  isRunning := Machine.isRunning
  write text m := hostResult m (m.feed (Str.ofString text))
  watch timeout cancelled m := watchUntil cancelled (m.clock + timeout) patience m
  linger m := lingerUntil (m.clock + lingerTime) patience m
  arrived m :=
    let (lines, m) := m.takeArrived
    (readLines lines, m)
  kill m := m.signalAttached 9
  reap m := (.ok (), m.reap)
  drop := Machine.detach

end Machine

end FuzzCampaign.Shell
