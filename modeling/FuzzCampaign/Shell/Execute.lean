import FuzzCampaign.Shell.Builtins
import FuzzCampaign.Shell.Redirecting
set_option autoImplicit false

/-! # Running commands

How commands run, given a runner for the commands inside them. Loops go on for a number of rounds that no
script reaches, because a process makes a request in every round and is never run to its end at once. -/

namespace FuzzCampaign.Shell

/-- More rounds than any loop makes. -/
def manyRounds : Nat := 1000000000000

section

variable (run : Runner)

/-! ## Programs -/

/-- Run a program in a child, or in place of the shell when that has nothing else to do. -/
def runProgram (path : Str) (words : List Str) (redirects : List Redirect) (last : Bool) : Sh Nat := do
  let act : Sh Nat := do
    let (done, _) ← redirectAll run redirects []
    if done then run (.program path words) else return 1
  if last then
    let status ← act
    Sh.jump (.leaveShell status)
  else
    let pid ← Sh.spawn act
    waitForeground pid ([' '].intercalate words)

/-- The message about a command that is no program, and its status. -/
def notFound (name : Str) (why : Errno) : Sh Nat := do
  if name.contains '/' then
    complain (name ++ ": ".toList ++ why.message)
    return if why = .noEntry then 127 else 126
  else
    let shown := if hasUnprintable name then dollarQuote name else name
    complain (shown ++ ": command not found".toList)
    return 127

/-- Call a function. What ends the shell leaves everything as it is inside the function. -/
def callFunction (name : String) (f : Function) (args : List Str) : Sh Nat := do
  let s ← Sh.getState
  let frame : Frame := { name, file := f.file, calledAt := s.line }
  Sh.change fun s => { s with
    frames := frame :: s.frames, params := args, hidden := [] :: s.hidden, returns := s.returns + 1
    loops := 0, lineShift := f.lineShift }
  let result ← withoutReturnTrap run (run (.commands [f.body]))
  match result with
  | .error (.leaveShell status) => Sh.jump (.leaveShell status)
  | result =>
    Sh.change fun now =>
      let restored := showHidden (now.hidden.headD []) now
      { restored with
        frames := s.frames, params := s.params, hidden := s.hidden, returns := s.returns, loops := s.loops
        line := s.line, lineShift := s.lineShift }
    match result with
    | .error (.comeBack status) => return status
    | result => Sh.resume result

/-! ## Assignments -/

/-- The name of what an assignment gives a value, as it is written. -/
def shownTarget (name : String) (key : Option Str) (append : Bool) : Str :=
  let front := match key with
    | some k => name.toList ++ ['['] ++ k ++ [']']
    | none => name.toList
  if append then front ++ ['+'] else front

/-- Carry out an assignment; it is traced. -/
def runAssign : Assign → Sh Unit
  | .mk name index append value => do
    match value with
    | [.elements items] =>
      let raw := [' '].intercalate (items.map fun item =>
        match item with
        | .mk raw _ _ _ => raw.toList)
      trace run (shownTarget name none append ++ "=(".toList ++ raw ++ [')'])
      assignElements run name append items
    | parts =>
      let text ← expandText run .value parts
      let key ← expandSubscript run name index
      let shownKey := key.map fun k =>
        match k with
        | .index i => showInt i
        | .name k => k
      trace run (shownTarget name shownKey append ++ '=' :: tracedValue text)
      assignText name key append text

/-- Do something with assignments that hold only meanwhile and are inherited by programs. -/
def withAssigns (assigns : List Assign) (act : Sh Nat) : Sh Nat := do
  if assigns.isEmpty then act
  else
    let names := assigns.map fun a =>
      match a with
      | .mk name _ _ _ => name
    let s ← Sh.getState
    let old := names.map fun n => (n, s.entry? n)
    Sh.forEach (runAssign run) assigns
    Sh.change fun s => names.foldl (fun s n => s.setVariable n { s.variableOrNew n with exported := true }) s
    Sh.ensuring act (Sh.change (showHidden old))

/-! ## Simple commands -/

/-- The words of a command that declares variables: an argument that is an assignment is one word, and
elements of arrays are assigned in the end. -/
def declaringWords : List Word → Sh (List Str × List (String × Bool × List Assign))
  | [] => return ([], [])
  | w :: rest => do
    match w.parts with
    | [.plain front, .elements items] =>
      let append := front.dropLast.getLast? == some '+'
      let name := front.takeWhile isNameChar
      let (words, pending) ← declaringWords rest
      return (name :: words, (String.ofList name, append, items) :: pending)
    | .plain s :: more =>
      let (words, pending) ← do
        match assignmentWord? s with
        | some { value := some value, .. } =>
          let front := s.take (s.length - value.length)
          let text ← expandText run .value (if value.isEmpty then more else .plain value :: more)
          let (words, pending) ← declaringWords rest
          pure ((front ++ text) :: words, pending)
        | _ =>
          let first ← expandPieces run (.plain s :: more)
          let (words, pending) ← declaringWords rest
          pure (first ++ words, pending)
      return (words, pending)
    | parts =>
      let first ← expandPieces run parts
      let (words, pending) ← declaringWords rest
      return (first ++ words, pending)

/-- The words of a command, and the arrays that it declares. -/
def commandWords (words : List Word) : Sh (List Str × List (String × Bool × List Assign)) := do
  match words with
  | [] => return ([], [])
  | first :: rest =>
    if declaring.any fun d => d.toList == first.raw then
      let front ← expandPieces run first.parts
      let (args, pending) ← declaringWords run rest
      return (front ++ args, pending)
    else return (← expandWords run words, [])

/-- The assignments among the arguments of a command are traced as well. -/
def traceDeclared (words : List Str) : Sh Unit := do
  match words with
  | name :: args =>
    if name == "export".toList || name == "readonly".toList then
      Sh.forEach (fun w =>
        match assignmentWord? w with
        | some { name, append, value := some text, .. } =>
          trace run (shownTarget name none append ++ '=' :: tracedValue text)
        | _ => pure ()) args
    else return ()
  | [] => return ()

/-- Give arrays that were declared their elements, also when they may not be changed. -/
def assignPending : List (String × Bool × List Assign) → Sh Unit
  | [] => return ()
  | (name, append, items) :: rest => do
    let isFixed := (← Sh.getState).isFixed name
    let setFixed (b : Bool) : Sh Unit :=
      Sh.change fun s => s.setVariable name { s.variableOrNew name with fixed := b }
    if isFixed then setFixed false
    assignElements run name append items
    if isFixed then setFixed true
    assignPending rest

/-- Run the command that words call: a function, a command of the shell or a program. -/
def runWords (words : List Str) (redirects : List Redirect) (pending : List (String × Bool × List Assign))
    (mayCall mayBeProgram last : Bool) : Sh Nat := do
  match words with
  | [] => return 0
  | name :: args =>
    let s ← Sh.getState
    let key := String.ofList name
    match if mayCall then s.functions.lookup key else none with
    | some f => redirecting run redirects (callFunction run key f args)
    | none =>
      match builtin? run key with
      | some act =>
        if key = "exec" && args.isEmpty then
          let (done, kept) ← redirectAll run redirects []
          if done then
            forgetKept kept
            return 0
          else
            putBack kept
            return 1
        else
          redirecting run redirects do
            traceDeclared run words
            let status ← act args
            assignPending run pending
            return status
      | none =>
        if !mayBeProgram then return 127
        else
          match ← findProgram name with
          | .ok path => runProgram run path words redirects last
          | .error why => redirecting run redirects (notFound name why)

/-- Run a simple command. Without words its assignments last; otherwise they hold for the command. -/
def runSimple (line : Nat) (assigns : List Assign) (words : List Word) (redirects : List Redirect) : Sh Nat := do
  let s ← Sh.getState
  Sh.change fun s => { s with outputStatus := none, last := false, piped := false }
  begin run line
  let (words, pending) ← commandWords run words
  let status ← if words.isEmpty then do
      Sh.forEach (runAssign run) assigns
      let status ← redirecting run redirects (return 0)
      if status = 0 then pure ((← Sh.getState).outputStatus.getD 0) else pure status
    else do
      let status ← withAssigns run assigns do
        trace run (tracedWords words)
        runWords run words redirects pending true true s.last
      Sh.change fun s => { s with lastArgument := (words.getLast?).getD [] }
      pure status
  Sh.change fun s => { s with statuses := [status] }
  settle run s.piped status

/-! ## Pipelines -/

/-- Start the stages of a pipeline; each reads what the one before it writes. -/
def startStages : List Command → Option Nat → List Nat → Sh (List Nat)
  | [], _, pids => return pids
  | [c], input, pids => do
    announce c
    let pid ← spawnCopy run (connect input none none) (stage c)
    closeInput input
    return pids ++ [pid]
  | c :: rest, input, pids => do
    announce c
    match ← Sh.ask .pipe with
    | .numbers r w =>
      let pid ← spawnCopy run (connect input (some w) (some r)) (stage c)
      closeInput input
      Sh.tell (.close w)
      startStages rest (some r) (pids ++ [pid])
    | _ => return pids
where
  /-- The trap for every command runs before the stage is started. -/
  announce : Command → Sh Unit
    | .simple line _ _ _ => begin run line
    | _ => pure ()
  /-- The shell itself does not read from the stage before. -/
  closeInput (input : Option Nat) : Sh Unit :=
    match input with
    | some fd => Sh.tell (.close fd)
    | none => pure ()
  /-- A stage reads and writes where the pipeline says. -/
  connect (input output other : Option Nat) : Sh Unit := do
    match input with
    | some fd => moveDescriptor fd 0
    | none => pure ()
    match output with
    | some fd => moveDescriptor fd 1
    | none => pure ()
    match other with
    | some fd => Sh.tell (.close fd)
    | none => pure ()
  /-- What a stage does. -/
  stage (c : Command) : Sh Nat := do
    Sh.change fun s => { s with last := true, piped := true }
    run (.commands [c])

/-- The status of a pipeline: that of its last stage, or of the last one that failed. -/
def pipelineStatus (pipefail : Bool) (statuses : List Nat) : Nat :=
  let last := (statuses.getLast?).getD 0
  if pipefail then ((statuses.filter (· != 0)).getLast?).getD 0 else last

/-- Run a pipeline. -/
def runPipeline (stages : List Command) : Sh Nat := do
  breathe run
  Sh.change fun s => { s with last := false, piped := false }
  let pids ← startStages run stages none []
  let statuses ← Sh.mapList waitStatus pids
  let s ← Sh.getState
  Sh.change fun s => { s with statuses }
  settle run false (pipelineStatus s.options.pipefail statuses)

/-! ## Copies of the shell -/

/-- Run a command in the background. -/
def runBackground (line : Nat) (c : Command) : Sh Nat := do
  Sh.atLine line
  let pid ← spawnCopy run (do
      Sh.tell (.handle 2 .ignored)
      Sh.tell (.handle 3 .ignored)
      match ← Sh.ask (.openFile "/dev/null".toList .read) with
      | .number fd => moveDescriptor fd 0
      | _ => pure ()) do
    Sh.change fun s => { s with last := true, tested := false }
    run (.commands [c])
  Sh.change fun s => { s with lastBackground := some pid, jobs := s.jobs ++ [(pid, none)], status := 0 }
  return 0

/-- Run commands in a copy of the shell, whose redirections are its own. -/
def runSubshell (line : Nat) (body : List Command) (redirects : List Redirect) : Sh Nat := do
  let s ← Sh.getState
  Sh.atLine line
  Sh.change fun s => { s with last := false, piped := false }
  let copy := redirecting run redirects (run (.copy body false))
  if s.last then copy
  else
    let pid ← Sh.spawn copy
    let status ← waitForeground pid "( ... )".toList
    Sh.change fun s => { s with statuses := [status] }
    settle run s.piped status

/-- Run commands as a copy of the shell, up to its end. -/
def runCopy (body : List Command) (forOutput : Bool) : Sh Nat := do
  enterCopy forOutput
  finishing run do
    match body with
    | [.simple _ _ _ _] => Sh.change fun s => { s with last := true }
    | _ => pure ()
    run (.commands body)

/-! ## Loops -/

/-- One round of a loop: whether to go on, with the status. -/
def loopRound (body : List Command) : Sh (Bool × Nat) := do
  match ← Sh.catching (run (.commands body)) with
  | .ok status => return (true, status)
  | .error (.leaveLoop n) =>
    if 1 < n then Sh.jump (.leaveLoop (n - 1)) else return (false, 0)
  | .error (.nextRound n) =>
    if 1 < n then Sh.jump (.nextRound (n - 1)) else return (true, 0)
  | .error j => Sh.jump j

/-- Do something as the body of a loop. -/
def inLoop (act : Sh Nat) : Sh Nat := do
  Sh.change fun s => { s with loops := s.loops + 1, last := false, piped := false }
  Sh.ensuring act (Sh.change fun s => { s with loops := s.loops - 1 })

/-- Do something whose status is tested. -/
def testing {α : Type} (act : Sh α) : Sh α := do
  let old := (← Sh.getState).tested
  Sh.change fun s => { s with tested := true }
  Sh.ensuring act (Sh.change fun s => { s with tested := old })

/-- The rounds of a loop over words. -/
def forRounds (line : Nat) (name shown : Str) (body : List Command) : List Str → Nat → Sh Nat
  | [], status => return status
  | w :: rest, _ => do
    begin run line
    trace run ("for ".toList ++ name ++ shown)
    assignText (String.ofList name) none false w
    breathe run
    let (goesOn, status) ← loopRound run body
    if goesOn then forRounds line name shown body rest status else return status

/-- A loop over words. -/
def runFor (line : Nat) (name : Str) (words : List Word) (body : List Command) : Sh Nat := do
  Sh.atLine line
  Sh.change fun s => { s with last := false, piped := false }
  if !isName name then
    complain (['\x60'] ++ name ++ "': not a valid identifier".toList)
    Sh.change fun s => { s with status := 1 }
    return 1
  else
    let items ← expandWords run words
    let shown := " in".toList ++ words.flatMap fun w => ' ' :: w.raw
    inLoop (forRounds run line name shown body items 0)

/-- The rounds of a loop with a test. -/
def whileRounds (whileTrue : Bool) (test body : List Command) : Nat → Nat → Sh Nat
  | 0, status => return status
  | fuel + 1, status => do
    breathe run
    let (goesOn, result) ← testing (loopRound run test)
    if !goesOn then return 0
    else if (result == 0) != whileTrue then return status
    else
      let (goesOn, status) ← loopRound run body
      if goesOn then whileRounds whileTrue test body fuel status else return status

/-- The value of an expression of an arithmetic loop; nothing stands for one. -/
def loopExpr (expr : List Part) : Sh (Option Int) := do
  let text ← expandText run .none expr
  let text := ((text.dropWhile isArithBlank).reverse.dropWhile isArithBlank).reverse
  if text.isEmpty then return some 1
  else
    trace run ("(( ".toList ++ text ++ " ))".toList)
    let s ← Sh.getState
    match s.evaluate text with
    | .ok (n, s) => Sh.change fun _ => s; return some n
    | .error (.wrong message) => complain ("((: ".toList ++ message); return none
    | .error (.unbound name) => die 1 (name.toList ++ ": unbound variable".toList)
    | .error (.fixed name) => die 1 (fixedMessage name)

/-- The rounds of an arithmetic loop. -/
def arithRounds (line : Nat) (test step : List Part) (body : List Command) : Nat → Nat → Sh Nat
  | 0, status => return status
  | fuel + 1, status => do
    breathe run
    Sh.atLine line
    match ← loopExpr run test with
    | none => return 1
    | some 0 => return status
    | some _ =>
      let (goesOn, status) ← loopRound run body
      if !goesOn then return status
      else
        Sh.atLine line
        match ← loopExpr run step with
        | none => return 1
        | some _ => arithRounds line test step body fuel status

/-- An arithmetic loop. -/
def runForArith (line : Nat) (start test step : List Part) (body : List Command) : Sh Nat := do
  Sh.atLine line
  match ← loopExpr run start with
  | none => return 1
  | some _ => inLoop (arithRounds run line test step body manyRounds 0)

/-! ## Choices -/

/-- Whether a text matches one of some patterns. -/
def matchesAny (text : Str) : List Word → Sh Bool
  | [] => return false
  | w :: rest => do
    let p ← expandPattern run w.parts
    if matchGlobs (globs p) text then return true else matchesAny text rest

/-- Run the alternatives of a `case`, from the first that matches, or from the first one when told so. -/
def runClauses (text : Str) : Bool → Nat → List Clause → Sh Nat
  | _, status, [] => return status
  | chosen, status, .mk patterns body ending :: rest => do
    if chosen || (← matchesAny run text patterns) then
      let status ← if body.isEmpty then pure 0 else run (.commands body)
      match ending with
      | .leave => return status
      | .fallThrough => runClauses text true status rest
      | .testNext => runClauses text false status rest
    else runClauses text false status rest

/-! ## Commands -/

/-- The status of an expression as a command. -/
def runArith (expr : List Part) : Sh Nat := do
  let text ← expandText run .none expr
  trace run ("(( ".toList ++ text ++ " ))".toList)
  let s ← Sh.getState
  match s.evaluate text with
  | .ok (n, s) => Sh.change fun _ => s; return if n = 0 then 1 else 0
  | .error (.wrong message) => complain ("((: ".toList ++ message); return 1
  | .error (.unbound name) => die 1 (name.toList ++ ": unbound variable".toList)
  | .error (.fixed name) => die 1 (fixedMessage name)

/-- Run a command. -/
def runCommandHere : Command → Sh Nat
  | .simple line assigns words redirects => runSimple run line assigns words redirects
  | .pipeline stages => runPipeline run stages
  | .negation c => do
    Sh.change fun s => { s with last := false, piped := false }
    let status ← testing (run (.commands [c]))
    let status := if status = 0 then 1 else 0
    Sh.change fun s => { s with status }
    return status
  | .both first second => do
    Sh.change fun s => { s with last := false, piped := false }
    let status ← testing (run (.commands [first]))
    if status = 0 then run (.commands [second]) else return status
  | .either first second => do
    Sh.change fun s => { s with last := false, piped := false }
    let status ← testing (run (.commands [first]))
    if status = 0 then return 0 else run (.commands [second])
  | .background line c => runBackground run line c
  | .subshell line body => runSubshell run line body []
  | .group body => do
    Sh.change fun s => { s with last := false, piped := false }
    run (.commands body)
  | .redirected line (.subshell _ body) redirects => runSubshell run line body redirects
  | .redirected line c redirects => do
    breathe run
    Sh.atLine line
    Sh.change fun s => { s with last := false, piped := false }
    let (done, kept) ← redirectAll run redirects []
    if done then Sh.ensuring (run (.commands [c])) (putBack kept)
    else
      putBack kept
      settle run false 1
  | .ifThen test body otherwise => do
    Sh.change fun s => { s with last := false, piped := false }
    let status ← testing (run (.commands test))
    if status = 0 then run (.commands body)
    else if otherwise.isEmpty then return 0
    else run (.commands otherwise)
  | .forIn line name words body => runFor run line name words body
  | .forArith line start test step body => runForArith run line start test step body
  | .loop whileTrue test body => inLoop (whileRounds run whileTrue test body manyRounds 0)
  | .choose line word clauses => do
    Sh.change fun s => { s with last := false, piped := false }
    begin run line
    trace run ("case ".toList ++ word.raw ++ " in".toList)
    let text ← expandText run .front word.parts
    runClauses run text false 0 clauses
  | .define _ name body => do
    let key := String.ofList name
    Sh.change fun s =>
      let file := s.file
      let f : Function := { body, file, lineShift := s.lineShift }
      { s with functions := (key, f) :: s.functions.filter fun (n, _) => n != key }
    return 0
  | .arith line expr => do
    Sh.change fun s => { s with last := false, piped := false }
    begin run line
    let status ← runArith run expr
    settle run false status
  | .test line condition => do
    Sh.change fun s => { s with last := false, piped := false }
    begin run line
    let status ← runCondition run (trace run) false condition
    settle run false status

/-- Run commands one after the other. -/
def runCommands : List Command → Nat → Sh Nat
  | [], status => return status
  | c :: rest, _ => do
    let s ← Sh.getState
    let status ← if s.options.noexec then pure s.status else runCommandHere run c
    Sh.change fun s => { s with status }
    runCommands rest status

/-! ## Text -/

/-- Say what was noticed about here-documents. -/
def warnUnfinished (found : List UnfinishedHere) : Sh Unit :=
  Sh.forEach (fun here => do
    let s ← Sh.getState
    Sh.putError (s.file ++ ": line ".toList ++ showNat here.ended ++ ": warning: here-document at line ".toList ++
      showNat here.begun ++ " delimited by end-of-file (wanted \x60".toList ++ here.stop ++ "')\n".toList)) found

/-- Say that a text cannot be read. That ends the shell when failures end it; otherwise more is said. -/
def complainSyntax (givenTo : String) (text : Source) (e : SyntaxError) : Sh Unit := do
  warnUnfinished e.unfinished
  let s ← Sh.getState
  let front := if givenTo.isEmpty then s.file else s.file ++ ": ".toList ++ givenTo.toList
  let say (message : Str) : Sh Unit :=
    Sh.putError (front ++ ": line ".toList ++ showNat e.line ++ ": ".toList ++ message ++ ['\n'])
  say (e.fault.messages.headD [])
  if s.options.errexit && !s.tested then Sh.jump (.leaveShell 2)
  else
    Sh.forEach say (e.fault.messages.drop 1)
    if e.fault.showsLine then
      let written := (Text.splitAll '\n' text.rest).getD (e.line - text.line) []
      say (['\x60'] ++ written ++ ['\x27'])
    else return ()

/-- Run what is left of a text line by line. -/
def runLines (givenTo : String) (text : Source) : Nat → Source → Nat → Sh Nat
  | 0, _, status => return status
  | fuel + 1, src, status => do
    match nextLine src with
    | .error e =>
      complainSyntax givenTo text e
      Sh.change fun s => { s with status := 2 }
      return 2
    | .ok none => return status
    | .ok (some (body, rest)) =>
      warnUnfinished rest.unfinished
      let status ← run (.commands body)
      runLines givenTo text fuel { rest with unfinished := [] } status

/-- Run a text whose first line has a number. The end of the text ends its last line. -/
def runText (givenTo : String) (body : Str) (line : Nat) : Sh Nat := do
  let rest := if body.getLast? == some '\n' || body.isEmpty then body else body ++ ['\n']
  let shift := (← Sh.getState).lineShift
  Sh.change fun s => { s with lineShift := 0 }
  Sh.ensuring (runLines run givenTo { rest, line } (rest.length + 1) { rest, line } 0)
    (Sh.change fun s => { s with lineShift := shift })

end

end FuzzCampaign.Shell
