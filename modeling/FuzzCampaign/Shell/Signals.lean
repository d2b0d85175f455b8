import FuzzCampaign.Shell.Expand
import FuzzCampaign.Shell.ReadCommand
set_option autoImplicit false

/-! # Signals and traps

Names of signals, the commands that a script sets for signals and for events of the shell, and what
happens when a process of the shell begins as a copy of another one and when it ends. -/

namespace FuzzCampaign.Shell

/-! ## Names -/

/-- The signals by name. -/
def signalTable : List (String × Nat) :=
  [("HUP", 1), ("INT", 2), ("QUIT", 3), ("ILL", 4), ("TRAP", 5), ("ABRT", 6), ("BUS", 7), ("FPE", 8),
    ("KILL", 9), ("USR1", 10), ("SEGV", 11), ("USR2", 12), ("PIPE", 13), ("ALRM", 14), ("TERM", 15),
    ("STKFLT", 16), ("CHLD", 17), ("CONT", 18), ("STOP", 19), ("TSTP", 20), ("TTIN", 21), ("TTOU", 22),
    ("URG", 23), ("XCPU", 24), ("XFSZ", 25), ("VTALRM", 26), ("PROF", 27), ("WINCH", 28), ("IO", 29),
    ("PWR", 30), ("SYS", 31)]

/-- The events that are not signals. -/
def events : List String := ["EXIT", "ERR", "DEBUG", "RETURN"]

/-- The name of a signal. -/
def signalName? (n : Nat) : Option String := (signalTable.find? fun (_, m) => m == n).map (·.1)

/-- The number of a signal given by number or name. -/
def signalNumber? (s : Str) : Option Nat :=
  if !s.isEmpty && s.all Char.isDigit then
    let n := Decimal.valueFrom 0 s
    if n ≤ 64 then some n else none
  else
    let upper := s.map Char.toUpper
    let name := if "SIG".toList.isPrefixOf upper then upper.drop 3 else upper
    signalTable.lookup (String.ofList name)

/-- The name under which a trap is kept, of a signal or an event. -/
def trapName? (s : Str) : Option String :=
  let upper := String.ofList (s.map Char.toUpper)
  if s == ['0'] then some "EXIT"
  else if events.contains upper then some upper
  else (signalNumber? s).bind signalName?

/-- What is said about a process that a signal ended. -/
def signalMessage (n : Nat) : String :=
  match n with
  | 1 => "Hangup"
  | 3 => "Quit"
  | 4 => "Illegal instruction"
  | 6 => "Aborted"
  | 8 => "Floating point exception"
  | 9 => "Killed"
  | 10 => "User defined signal 1"
  | 11 => "Segmentation fault"
  | 12 => "User defined signal 2"
  | 14 => "Alarm clock"
  | 15 => "Terminated"
  | _ => "Unknown signal"

/-! ## Traces -/

section

variable (run : Runner)

/-- The pieces of a text as between double quotes. -/
def quotedParts (text : Str) : List Part :=
  match (wordReaders (commandsIn maxCommandDepth) maxWordDepth).parts
      { quoting := .double, stop := fun _ => false } { rest := text } with
  | .ok (parts, _) => parts
  | .error _ => [.quoted text]

/-- What lines of an execution trace begin with. -/
def traceFront : Sh Str := do
  let s ← Sh.getState
  let given := (s.text? "PS4").getD []
  let front ← if given.contains '$' || given.contains '\x60' then do
      Sh.change fun s => { s with options := { s.options with xtrace := false } }
      let text ← expandText run .none (quotedParts given)
      Sh.change fun s => { s with options := { s.options with xtrace := true } }
      pure text
    else pure given
  match front with
  | [] => return []
  | c :: rest => return List.replicate (s.depth + 1) c ++ rest

/-- Write a line of the execution trace, if there is one. -/
def trace (text : Str) : Sh Unit := do
  let s ← Sh.getState
  if s.options.xtrace then
    let fd := match (s.text? "BASH_XTRACEFD").bind readInt? with
      | some n => n.toNat
      | none => 2
    let front ← traceFront run
    Sh.write fd (front ++ text ++ ['\n'])
  else return ()

/-- Words as an execution trace shows them. -/
def tracedWords (words : List Str) : Str := [' '].intercalate (words.map tracedWord)

/-! ## Traps -/

/-- What the text of a trap is called in messages about it. -/
def trapTextName (name : String) : String :=
  match name with
  | "ERR" => "error trap"
  | "DEBUG" => "debug trap"
  | "RETURN" => "return trap"
  | "EXIT" => "exit trap"
  | _ => "trap"

/-- Run the commands of a trap, which keep the status. -/
def runTrap (name : String) : Sh Unit := do
  let s ← Sh.getState
  match s.traps.lookup name with
  | none => return ()
  | some text =>
    if text.isEmpty then return ()
    else
      Sh.change fun s => { s with inTrap := true, last := false, depth := s.depth + 1 }
      let _ ← Sh.ensuring (run (.text text s.line (trapTextName name)))
        (Sh.change fun now => { now with inTrap := s.inTrap, depth := s.depth })
      Sh.change fun now => { now with status := s.status, statuses := s.statuses, line := s.line }

/-- Do something like a function or a file. What was set before for the return is not for it, unless that
is asked for; what is set then runs in the end. -/
def withoutReturnTrap (act : Sh Nat) : Sh (Except Jump Nat) := do
  let s ← Sh.getState
  let names := if s.options.functrace then [] else ["RETURN", "DEBUG"]
  let aside := s.traps.filter fun (n, _) => names.contains n
  Sh.change fun s => { s with traps := s.traps.filter fun (n, _) => !names.contains n }
  let result ← Sh.catching act
  match result with
  | .error (.leaveShell _) => return result
  | _ =>
    match result with
    | .error (.comeBack status) | .ok status => Sh.change fun s => { s with status }
    | _ => pure ()
    runTrap run "RETURN"
    Sh.change fun now =>
      let missing := aside.filter fun (n, _) => (now.traps.lookup n).isNone
      { now with traps := now.traps ++ missing }
    return result

/-- Let others go on, look at the time, and run the commands set for signals that were caught. -/
def breathe : Sh Unit := do
  match ← Sh.ask .clock with
  | .number now => Sh.change fun s => { s with now }
  | _ => return ()
  match ← Sh.ask .yield with
  | .signals caught => Sh.forEach (fun n => (signalName? n).forM (runTrap run)) caught
  | _ => return ()

/-- A command of a line begins: signals that were caught come first, then the trap for every command. -/
def begin (line : Nat) : Sh Unit := do
  breathe run
  Sh.atLine line
  if !(← Sh.getState).inTrap then runTrap run "DEBUG" else return ()

/-- What comes of a status: a failure that is not tested runs the trap for it, and ends the shell when that
is asked for. -/
def settle (quiet : Bool) (status : Nat) : Sh Nat := do
  Sh.change fun s => { s with status }
  let s ← Sh.getState
  if status = 0 ∨ s.tested then return status
  else
    if !quiet && !s.inTrap then runTrap run "ERR"
    if s.options.errexit then Sh.jump (.leaveShell status) else return status

/-! ## Copies -/

/-- A process begins as a copy of the shell. Signals that were caught are handled in the standard way. -/
def enterCopy (forOutput : Bool) : Sh Unit := do
  let s ← Sh.getState
  Sh.forEach (fun (name, text) =>
    match signalTable.lookup name with
    | some n => if text.isEmpty then pure () else Sh.tell (.handle n .standard)
    | none => pure ()) s.traps
  let own ← match ← Sh.ask .identity with
    | .numbers pid _ => pure pid
    | _ => pure s.ownPid
  let kept := s.traps.filter fun (name, text) => text.isEmpty || (name == "ERR" && s.options.errtrace)
  Sh.change fun s => { s with
    ownPid := own, traps := kept, jobs := [], loops := 0, last := false, piped := false, inTrap := false
    copies := s.copies + 1, depth := if forOutput then s.depth + 1 else s.depth
    options := if forOutput && !s.extras.contains "inherit_errexit" then
        { s.options with errexit := false } else s.options }

/-- Do something to the end of a process: its trap for that runs in the end. -/
def finishing (act : Sh Nat) : Sh Nat := do
  let status ← match ← Sh.catching act with
    | .ok status => pure status
    | .error (.leaveShell status) => pure status
    | .error (.comeBack status) => pure status
    | .error _ => pure (← Sh.getState).status
  Sh.change fun s => { s with status }
  match (← Sh.getState).traps.lookup "EXIT" with
  | none => return status
  | some text =>
    Sh.change fun s => { s with traps := s.traps.filter fun (n, _) => n != "EXIT" }
    if text.isEmpty then return status
    else
      Sh.change fun s => { s with tested := false, depth := s.depth + 1 }
      match ← Sh.catching (run (.text text 1 (trapTextName "EXIT"))) with
      | .error (.leaveShell status) => return status
      | _ => return status

/-- A child that is a copy of the shell; `before` comes first there. -/
def spawnCopy (before : Sh Unit) (act : Sh Nat) : Sh Nat :=
  Sh.spawn do
    before
    enterCopy false
    finishing run act

/-- Wait for a child in the foreground; when a signal ended it, that is told. -/
def waitForeground (pid : Nat) (shown : Str) : Sh Nat := do
  match ← Sh.ask (.wait (some pid) false) with
  | .ending _ how =>
    match how with
    | .exited _ => return how.status
    | .killed signal =>
      if signal = 15 then Sh.putError "Terminated\n".toList
      else if signal = 2 ∨ signal = 13 then pure ()
      else
        let name := (signalMessage signal).toList
        let padded := name ++ List.replicate (24 - name.length) ' '
        complain (showNat pid ++ ' ' :: padded ++ shown)
      return how.status
  | _ => return 127

end

end FuzzCampaign.Shell
