import FuzzCampaign.Shell.Declaring
import FuzzCampaign.Shell.Printing
import FuzzCampaign.Shell.Signals
set_option autoImplicit false

/-! # Commands of the shell

The commands that a shell carries out itself. -/

namespace FuzzCampaign.Shell

/-! ## Finding commands -/

/-- The words that mean something to the shell where a command begins. -/
def keywords : List String :=
  ["if", "then", "else", "elif", "fi", "case", "esac", "for", "select", "while", "until", "do", "done", "in",
    "function", "time", "\x7b", "\x7d", "!", "[[", "]]", "coproc"]

/-- The names of the commands of the shell. -/
def builtinNames : List String :=
  [".", ":", "[", "alias", "bg", "bind", "break", "builtin", "caller", "cd", "command", "compgen", "complete",
    "compopt", "continue", "declare", "dirs", "disown", "echo", "enable", "eval", "exec", "exit", "export",
    "false", "fc", "fg", "getopts", "hash", "help", "history", "jobs", "kill", "let", "local", "logout",
    "mapfile", "popd", "printf", "pushd", "pwd", "read", "readarray", "readonly", "return", "set", "shift",
    "shopt", "source", "suspend", "test", "times", "trap", "true", "type", "typeset", "ulimit", "umask",
    "unalias", "unset", "wait"]

/-- Whether a path is that of a program, or why not. -/
def checkProgram (path : Str) : Sh (Except Errno Unit) := do
  match ← fileInfo? path true with
  | none => return .error .noEntry
  | some i =>
    if i.kind == .directory then return .error .isDirectory
    else if i.isExecutable then return .ok ()
    else return .error .denied

/-- The first of some directories that has a program. -/
def searchProgram (name : Str) : List Str → Sh (Option Str)
  | [] => return none
  | dir :: rest => do
    let path := (if dir.isEmpty then ['.'] else dir) ++ '/' :: name
    match ← checkProgram path with
    | .ok () => return some path
    | .error _ => searchProgram name rest

/-- The path of the program that a command names, or why there is none. -/
def findProgram (name : Str) : Sh (Except Errno Str) := do
  if name.contains '/' then return (← checkProgram name).map fun () => name
  else
    let path := ((← Sh.getState).text? "PATH").getD []
    match ← searchProgram name (Text.splitAll ':' path) with
    | some found => return .ok found
    | none => return .error .noEntry

/-- What kind of command a name stands for, in words. -/
def commandKind (w : Str) : Sh (Option String) := do
  let name := String.ofList w
  let s ← Sh.getState
  if keywords.contains name then return some "keyword"
  else if (s.functions.lookup name).isSome then return some "function"
  else if builtinNames.contains name then return some "builtin"
  else
    match ← findProgram w with
    | .ok _ => return some "file"
    | .error _ => return none

/-- The path of a program, as it is shown. -/
def shownPath (w : Str) : Sh Str := do
  match ← findProgram w with
  | .ok path => return path
  | .error _ => return w

/-- Describe what commands are. -/
def describeCommands (command : String) (words : List Str) : Sh Nat := do
  let results ← Sh.mapList (fun w => do
    match ← commandKind w with
    | some "keyword" => Sh.write 1 (w ++ " is a shell keyword\n".toList); return true
    | some "function" => Sh.write 1 (w ++ " is a function\n".toList); return true
    | some "builtin" => Sh.write 1 (w ++ " is a shell builtin\n".toList); return true
    | some _ => Sh.write 1 (w ++ " is ".toList ++ (← shownPath w) ++ ['\n']); return true
    | none => complainAs command (w ++ ": not found".toList); return false) words
  return if results.all id then 0 else 1

/-- Write the names or paths of commands that exist. -/
def locateCommands (words : List Str) : Sh Nat := do
  let results ← Sh.mapList (fun w => do
    match ← commandKind w with
    | some "file" => Sh.write 1 ((← shownPath w) ++ ['\n']); return true
    | some _ => Sh.write 1 (w ++ ['\n']); return true
    | none => return false) words
  return if results.any id then 0 else 1

/-- Tell what commands are. -/
def runType (words : List Str) : Sh Nat := do
  let (options, names) := signedOptions words
  let has (c : Char) : Bool := options.contains (true, c)
  if has 't' then
    let results ← Sh.mapList (fun w => do
      match ← commandKind w with
      | some kind => Sh.write 1 (kind.toList ++ ['\n']); return true
      | none => return false) names
    return if results.all id then 0 else 1
  else if has 'p' || has 'P' then
    let results ← Sh.mapList (fun w => do
      match ← commandKind w with
      | some "file" => Sh.write 1 ((← shownPath w) ++ ['\n']); return true
      | some _ => return true
      | none => return false) names
    return if results.all id then 0 else 1
  else describeCommands "type" names

/-! ## Leaving -/

/-- The status that words ask for; more than one, or one that is no number, is an error. -/
def statusFrom (command : String) (words : List Str) : Sh (Except Nat Nat) := do
  match words with
  | [] => return .ok (← Sh.getState).status
  | w :: more =>
    match readTestInt? w with
    | none =>
      complainAs command (w ++ ": numeric argument required".toList)
      return .ok 2
    | some n =>
      if more.isEmpty then return .ok (n % 256).toNat
      else
        complainAs command "too many arguments".toList
        return .error 1

/-- Words without the mark of the end of options. -/
def afterDashes (words : List Str) : List Str :=
  if words.head? == some "--".toList then words.drop 1 else words

/-- Leave the shell. -/
def runExit (words : List Str) : Sh Nat := do
  match ← statusFrom "exit" (afterDashes words) with
  | .ok status => Sh.jump (.leaveShell status)
  | .error status => return status

/-- Come back from a function or a file. -/
def runReturn (words : List Str) : Sh Nat := do
  match ← statusFrom "return" (afterDashes words) with
  | .error status => return status
  | .ok status =>
    if (← Sh.getState).returns = 0 then
      complainAs "return" "can only \x60return' from a function or sourced script".toList
      return 2
    else Sh.jump (.comeBack status)

/-- Leave loops or go on with their next rounds. -/
def runLeaveLoop (command : String) (leave : Bool) (words : List Str) : Sh Nat := do
  let s ← Sh.getState
  let go (n : Nat) : Sh Nat :=
    let n := min n s.loops
    Sh.jump (if leave then .leaveLoop n else .nextRound n)
  if s.loops = 0 then
    complainAs command "only meaningful in a \x60for', \x60while', or \x60until' loop".toList
    return 0
  else
    match words with
    | [] => go 1
    | w :: _ =>
      match readInt? w with
      | none => complainAs command (w ++ ": numeric argument required".toList); Sh.jump (.leaveShell 128)
      | some n =>
        if n < 1 then
          complainAs command (w ++ ": loop count out of range".toList)
          Sh.jump (if s.options.errexit && !s.tested then .leaveShell 1 else .leaveLoop s.loops)
        else go n.toNat

/-! ## Directories -/

/-- Change the directory. -/
def runCd (words : List Str) : Sh Nat := do
  let (options, rest) := signedOptions (words.map fun w => if w == ['-'] then "./-".toList else w)
  let s ← Sh.getState
  match options.find? fun (on, c) => !on || !(['L', 'P', 'e', '@'].contains c), rest with
  | some (_, c), _ => invalidOption "cd" ['-', c] "cd [-L|[-P [-e]] [-@]] [dir]"
  | none, _ :: _ :: _ => complainAs "cd" "too many arguments".toList; return 1
  | none, _ =>
    let back := words.getLast? == some ['-']
    let (target, missing) : Option Str × String :=
      if back then (s.text? "OLDPWD", "OLDPWD not set")
      else
        match rest with
        | w :: _ => (some w, "")
        | [] => (s.text? "HOME", "HOME not set")
    match target with
    | none => complainAs "cd" missing.toList; return 1
    | some dir =>
      if dir.isEmpty then return 0
      else
        let path := Files.tidy (Files.absolute s.directory dir)
        match ← fileInfo? path true with
        | none => complainAs "cd" (dir ++ ": No such file or directory".toList); return 1
        | some i =>
          if i.kind != .directory then complainAs "cd" (dir ++ ": Not a directory".toList); return 1
          else
            Sh.change fun s =>
              ({ s with directory := path }.assign "OLDPWD" none s.directory).assign "PWD" none path
            if back then Sh.write 1 (path ++ ['\n'])
            return 0

/-- Write the directory. -/
def runPwd (_ : List Str) : Sh Nat := do
  putChecked "pwd" ((← Sh.getState).directory ++ ['\n']) 0

/-- Write or set which permissions new files lack. -/
def runUmask (words : List Str) : Sh Nat := do
  match (signedOptions words).2 with
  | [] =>
    let digits := Nat.toDigits 8 (← Sh.getState).mask
    Sh.write 1 (List.replicate (4 - digits.length) '0' ++ digits ++ ['\n'])
    return 0
  | w :: _ =>
    if w.all fun c => '0' ≤ c && c ≤ '7' then
      Sh.change fun s => { s with mask := (digitsValue 8 w.length w).1 % 512 }
      return 0
    else
      complainAs "umask" (w ++ ": octal number out of range".toList)
      return 1

/-! ## Processes -/

/-- The process that a word names, a number or a job. -/
def processNamed? (s : ShellState) (w : Str) : Option Nat :=
  match w with
  | '%' :: rest =>
    if rest.isEmpty || rest == ['%'] || rest == ['+'] then (s.jobs.getLast?).map (·.1)
    else (readInt? rest).bind fun n => (s.jobs[n.toNat - 1]?).map (·.1)
  | _ => (readInt? w).map Int.natAbs

/-- Send signals. -/
def sendSignals (signal : Nat) (words : List Str) : Sh Nat := do
  let results ← Sh.mapList (fun w => do
    let s ← Sh.getState
    match processNamed? s w with
    | none =>
      let text := if w.head? == some '%' then ": no such job" else ": arguments must be process or job IDs"
      complainAs "kill" (w ++ text.toList)
      return false
    | some pid =>
      match ← Sh.ask (.signal pid signal) with
      | .refused why =>
        complainAs "kill" (['('] ++ w ++ ") - ".toList ++ why.message)
        return false
      | _ => return true) words
  return if results.all id then 0 else 1

/-- Send signals to processes. -/
def runKill (words : List Str) : Sh Nat := do
  let usage : Sh Nat := do
    Sh.putError ("kill: usage: kill [-s sigspec | -n signum | -sigspec] pid | jobspec ... or " ++
      "kill -l [sigspec]\n").toList
    return 2
  let unknown (w : Str) : Sh Nat := do
    complainAs "kill" (w ++ ": invalid signal specification".toList)
    return 1
  let send (w : Str) (rest : List Str) : Sh Nat :=
    match signalNumber? w with
    | none => unknown w
    | some n => if rest.isEmpty then usage else sendSignals n (afterDashes rest)
  match words with
  | [] => usage
  | first :: rest =>
    if first == "-l".toList then
      let names := if rest.isEmpty then signalTable.map fun (_, n) => showNat n else rest
      let results ← Sh.mapList (fun w => do
        match signalNumber? w with
        | none => let _ ← unknown w; return false
        | some n =>
          let line := if w.all Char.isDigit then ((signalName? (n % 128)).getD "EXIT").toList else showNat n
          Sh.write 1 (line ++ ['\n'])
          return true) names
      return if results.all id then 0 else 1
    else if first == "-s".toList || first == "-n".toList then
      match rest with
      | w :: rest => send w rest
      | [] => usage
    else
      match first with
      | '-' :: c :: more => if first == "--".toList then sendSignals 15 rest else send (c :: more) rest
      | _ => sendSignals 15 words

section

variable (run : Runner)

/-- Wait for the end of a child; signals that are caught meanwhile end the waiting. -/
def waitChild (pid : Nat) : Sh (Option Nat) := do
  match ← Sh.ask (.wait (some pid) true) with
  | .ending _ how =>
    Sh.change fun s => { s with jobs := s.jobs.map fun (p, old) => if p == pid then (p, some how.status) else (p, old) }
    return some how.status
  | .signals caught =>
    breathe run
    Sh.jump (.comeBack (128 + caught.headD 0))
  | _ => return none

/-- Wait for children. -/
def waitAll : List (Nat × Option Nat) → Sh Unit
  | [] => return ()
  | (pid, status) :: rest => do
    if status.isNone then
      let _ ← waitChild run pid
    waitAll rest

/-- Wait for one child after another. -/
def waitNamed : List Str → Nat → Sh Nat
  | [], status => return status
  | w :: rest, _ => do
    let s ← Sh.getState
    match processNamed? s w with
    | none =>
      if w.head? == some '%' then
        complainAs "wait" (w ++ ": no such job".toList)
        waitNamed rest 127
      else
        complainAs "wait" (['\x60'] ++ w ++ "': not a pid or valid job spec".toList)
        waitNamed rest 1
    | some pid =>
      match s.jobs.lookup pid with
      | some (some status) => waitNamed rest status
      | _ =>
        match ← waitChild run pid with
        | some status => waitNamed rest status
        | none =>
          complainAs "wait" ("pid ".toList ++ w ++ " is not a child of this shell".toList)
          waitNamed rest 127

/-- Wait for children, all or some. -/
def runWait (words : List Str) : Sh Nat := do
  let (options, names) := signedOptions words
  let act : Sh Nat := do
    let s ← Sh.getState
    if options.contains (true, 'n') then
      match ← Sh.ask (.wait none true) with
      | .ending pid how =>
        Sh.change fun s => { s with jobs := s.jobs.map fun (p, old) => if p == pid then (p, some how.status) else (p, old) }
        return how.status
      | .signals caught => breathe run; return 128 + caught.headD 0
      | _ => return 127
    else if names.isEmpty then
      waitAll run s.jobs
      Sh.change fun s => { s with jobs := [] }
      return 0
    else waitNamed run names 0
  match ← Sh.catching act with
  | .error (.comeBack status) => return status
  | result => Sh.resume result

/-! ## Traps -/

/-- A trap as it is listed. -/
def shownTrap (name : String) (text : Str) : Str :=
  let name := if events.contains name then name else "SIG" ++ name
  "trap -- ".toList ++ singleQuote text ++ ' ' :: name.toList ++ ['\n']

/-- The traps in order: that of the end, those of signals by number, then the others. -/
def sortedTraps (s : ShellState) : List (String × Str) :=
  let place (name : String) : Nat := (signalTable.lookup name).getD (if name == "EXIT" then 0 else 100)
  s.traps.mergeSort fun a b => place a.1 ≤ place b.1

/-- Set one trap; no text means the standard behaviour. -/
def setTrap (name : String) (text : Option Str) : Sh Unit := do
  Sh.change fun s =>
    let others := s.traps.filter fun (n, _) => n != name
    { s with traps := match text with
      | some t => others ++ [(name, t)]
      | none => others }
  match signalTable.lookup name with
  | some n =>
    Sh.tell (.handle n (match text with
      | none => .standard
      | some t => if t.isEmpty then .ignored else .caught))
  | none => return ()

/-- Set or list traps. -/
def runTrapCommand (words : List Str) : Sh Nat := do
  let s ← Sh.getState
  match words with
  | [] =>
    Sh.write 1 ((sortedTraps s).flatMap fun (n, t) => shownTrap n t)
    return 0
  | first :: rest =>
    if first == "-p".toList then
      let wanted := rest.filterMap trapName?
      let listed := (sortedTraps s).filter fun (n, _) => rest.isEmpty || wanted.contains n
      Sh.write 1 (listed.flatMap fun (n, t) => shownTrap n t)
      return 0
    else if first == "-l".toList then runKill ["-l".toList]
    else
      let words := afterDashes words
      let (text, names) : Option Str × List Str := match words with
        | [one] => (none, [one])
        | t :: names =>
          if t == ['-'] then (none, names)
          else if !t.isEmpty && t.all Char.isDigit then (none, t :: names)
          else (some t, names)
        | [] => (none, [])
      let results ← Sh.mapList (fun w => do
        match trapName? w with
        | some name => setTrap name text; return true
        | none =>
          complainAs "trap" (w ++ ": invalid signal specification".toList)
          return false) names
      return if results.all id then 0 else 1

/-! ## Running text -/

/-- Run words as text. -/
def runEval (words : List Str) : Sh Nat := do
  let text := [' '].intercalate (afterDashes words)
  let s ← Sh.getState
  Sh.change fun s => { s with depth := s.depth + 1 }
  Sh.ensuring (run (.text text s.line "eval")) (Sh.change fun now => { now with depth := s.depth })

/-- The path of a file to run: a name without slashes is looked for in the directories of programs. -/
def sourcePath (name : Str) : Sh Str := do
  if name.contains '/' then return name
  else
    let s ← Sh.getState
    let dirs := Text.splitAll ':' ((s.text? "PATH").getD [])
    let found ← Sh.mapList (fun dir => do
      let path := dir ++ '/' :: name
      return if (← fileInfo? path true).any fun i => i.kind == .file then [path] else []) dirs
    return found.flatten.headD name

/-- Run what a file contains. -/
def runSource (command : String) (words : List Str) : Sh Nat := do
  match afterDashes words with
  | [] =>
    complainAs command "filename argument required".toList
    Sh.putError (command ++ ": usage: " ++ command ++ " filename [arguments]\n").toList
    return 2
  | name :: args =>
    let path ← sourcePath name
    let s ← Sh.getState
    match ← Sh.ask (.openFile (Files.absolute s.directory path) .read) with
    | .number fd =>
      match ← fileInfo? path true with
      | some { kind := .directory, .. } =>
        Sh.tell (.close fd)
        complainAs command (name ++ ": is a directory".toList)
        return 1
      | _ =>
        let text ← Sh.readAll fd Sh.manyReads []
        Sh.tell (.close fd)
        let frame : Frame := { name := "source", file := path, calledAt := s.line }
        Sh.change fun s => { s with
          frames := frame :: s.frames, depth := s.depth + 1, returns := s.returns + 1
          params := if args.isEmpty then s.params else args, loops := 0 }
        match ← withoutReturnTrap run (run (.text text 1 "")) with
        | .error (.leaveShell status) => Sh.jump (.leaveShell status)
        | result =>
          Sh.change fun now => { now with
            frames := s.frames, depth := s.depth, returns := s.returns, loops := s.loops, line := s.line
            params := if args.isEmpty then now.params else s.params }
          match result with
          | .error (.comeBack status) => return status
          | result => Sh.resume result
    | .refused why => complain (name ++ ": ".toList ++ why.message); return 1
    | _ => return 1

/-- Evaluate expressions; the status tells whether the last one is zero. -/
def runLet : List Str → Int → Sh Nat
  | [], n => return if n = 0 then 1 else 0
  | w :: rest, _ => do
    let s ← Sh.getState
    match s.evaluate w with
    | .ok (n, s) => Sh.change fun _ => s; runLet rest n
    | .error (.wrong message) => complainAs "let" message; return 1
    | .error (.unbound name) => die 1 (name.toList ++ ": unbound variable".toList)
    | .error (.fixed name) => die 1 (fixedMessage name)

/-- Run a command that is no function, or tell what it is. -/
def runCommandCommand (words : List Str) : Sh Nat := do
  let (options, rest) := signedOptions (match words with
    | ('-' :: _) :: _ => words
    | _ => "--".toList :: words)
  if options.contains (true, 'v') then locateCommands rest
  else if options.contains (true, 'V') then describeCommands "command" rest
  else if rest.isEmpty then return 0
  else run (.words rest true)

/-- Run a command of the shell. -/
def runBuiltinCommand (words : List Str) : Sh Nat := do
  match words with
  | [] => return 0
  | w :: _ =>
    if builtinNames.contains (String.ofList w) then run (.words words false)
    else
      complainAs "builtin" (w ++ ": not a shell builtin".toList)
      return 1

/-- Become another program. -/
def runExec (words : List Str) : Sh Nat := do
  match afterDashes words with
  | [] => return 0
  | name :: args =>
    match ← findProgram name with
    | .ok path =>
      let status ← run (.program path (name :: args))
      Sh.change fun s => { s with traps := [] }
      Sh.jump (.leaveShell status)
    | .error why =>
      if name.contains '/' then
        match why with
        | .noEntry =>
          complain (Files.absolute (← Sh.getState).directory name ++ ": ".toList ++ why.message)
          Sh.jump (.leaveShell 127)
        | _ =>
          complain (name ++ ": ".toList ++ why.message)
          complainAs "exec" (name ++ ": cannot execute: ".toList ++ why.message)
          Sh.jump (.leaveShell 126)
      else
        complainAs "exec" (name ++ ": not found".toList)
        Sh.jump (.leaveShell 127)

/-- The line and the file from which what is running was called. -/
def runCaller (_ : List Str) : Sh Nat := do
  match (← Sh.getState).frames with
  | f :: g :: _ =>
    Sh.write 1 (showNat f.calledAt ++ ' ' :: g.file ++ ['\n'])
    return 0
  | _ => return 1

/-- The command of the shell that has a name. -/
def builtin? (name : String) : Option (List Str → Sh Nat) :=
  match name with
  | ":" => some fun _ => return 0
  | "true" => some fun _ => return 0
  | "false" => some fun _ => return 1
  | "echo" => some fun words => putChecked "echo" (echoText words) 0
  | "printf" => some runPrintf
  | "test" => some (runTest "test")
  | "[" => some fun words =>
    if words.getLast? == some [']'] then runTest "[" words.dropLast
    else do
      complainAs "[" "missing \x60]'".toList
      return 2
  | "export" => some runExport
  | "readonly" => some runReadonly
  | "declare" => some (runDeclare "declare")
  | "typeset" => some (runDeclare "typeset")
  | "local" => some (runDeclare "local")
  | "unset" => some runUnset
  | "set" => some runSet
  | "shopt" => some runShopt
  | "shift" => some runShift
  | "read" => some runRead
  | "mapfile" => some runMapfile
  | "readarray" => some runMapfile
  | "getopts" => some runGetopts
  | "exit" => some runExit
  | "logout" => some runExit
  | "return" => some runReturn
  | "break" => some (runLeaveLoop "break" true)
  | "continue" => some (runLeaveLoop "continue" false)
  | "cd" => some runCd
  | "pwd" => some runPwd
  | "umask" => some runUmask
  | "kill" => some runKill
  | "wait" => some (runWait run)
  | "trap" => some runTrapCommand
  | "eval" => some (runEval run)
  | "." => some (runSource run ".")
  | "source" => some (runSource run "source")
  | "let" => some fun words =>
    if words.isEmpty then do
      complainAs "let" "expression expected".toList
      return 1
    else runLet words 0
  | "type" => some runType
  | "command" => some (runCommandCommand run)
  | "builtin" => some (runBuiltinCommand run)
  | "exec" => some (runExec run)
  | "caller" => some runCaller
  | name => if builtinNames.contains name then some fun _ => return 0 else none

end

end FuzzCampaign.Shell
