import FuzzCampaign.Shell.Execute
import FuzzCampaign.Shell.FileTools
import FuzzCampaign.Shell.StreamEditor
set_option autoImplicit false

/-! # Programs

The programs of the system, and what it takes to run one: the environment that it inherits, and the
interpreter of a script. -/

namespace FuzzCampaign.Shell

/-! ## Time -/

/-- A duration such as `1.5m` in nanoseconds. -/
def durationNanos? (w : Str) : Option Nat :=
  let (number, unit) : Str × Nat := match w.getLast? with
    | some 's' => (w.dropLast, 1)
    | some 'm' => (w.dropLast, 60)
    | some 'h' => (w.dropLast, 3600)
    | some 'd' => (w.dropLast, 86400)
    | _ => (w, 1)
  match decimalNumber? number with
  | some (false, n, places) => some (n * unit * 1000000000 / 10 ^ places)
  | _ => none

/-- Let time pass. -/
def sleep (words : List Str) : Sh Nat := do
  if words.isEmpty then missingOperand "sleep" "operand"
  else
    match words.find? fun w => (durationNanos? w).isNone with
    | some bad =>
      note "sleep" ("invalid time interval ".toList ++ quotedName bad)
      Sh.putError "Try 'sleep --help' for more information.\n".toList
      return 1
    | none =>
      Sh.tell (.sleep ((words.filterMap durationNanos?).foldl (· + ·) 0))
      return 0

/-- The year, month and day of a number of days since 1970. -/
def dateOfDays (days : Nat) : Nat × Nat × Nat :=
  let z := days + 719468
  let era := z / 146097
  let doe := z % 146097
  let yoe := (doe - doe / 1460 + doe / 36524 - doe / 146096) / 365
  let doy := doe - (365 * yoe + yoe / 4 - yoe / 100)
  let mp := (5 * doy + 2) / 153
  let day := doy - (153 * mp + 2) / 5 + 1
  let month := if mp < 10 then mp + 3 else mp - 9
  (yoe + era * 400 + (if month ≤ 2 then 1 else 0), month, day)

/-- A number with at least so many digits. -/
def padded (width n : Nat) : Str := paddedInt width n

/-- What a letter of a format of dates stands for. -/
def dateField (nanos : Nat) (c : Char) : Str :=
  let total := bootSeconds + seconds nanos
  let days := total / 86400
  let (year, month, day) := dateOfDays days
  let rest := total % 86400
  let weekdays := ["Thu", "Fri", "Sat", "Sun", "Mon", "Tue", "Wed"]
  let months := ["Jan", "Feb", "Mar", "Apr", "May", "Jun", "Jul", "Aug", "Sep", "Oct", "Nov", "Dec"]
  let ymd := padded 4 year ++ '-' :: padded 2 month ++ '-' :: padded 2 day
  let hms := padded 2 (rest / 3600) ++ ':' :: padded 2 (rest / 60 % 60) ++ ':' :: padded 2 (rest % 60)
  match c with
  | 's' => showNat total
  | 'Y' => padded 4 year
  | 'y' => padded 2 (year % 100)
  | 'm' => padded 2 month
  | 'd' => padded 2 day
  | 'H' => padded 2 (rest / 3600)
  | 'M' => padded 2 (rest / 60 % 60)
  | 'S' => padded 2 (rest % 60)
  | 'N' => padded 9 (nanos % 1000000000)
  | 'F' => ymd
  | 'T' => hms
  | 'Z' => "UTC".toList
  | 'z' => "+0000".toList
  | 'a' => (weekdays.getD (days % 7) "").toList
  | 'b' => (months.getD (month - 1) "").toList
  | 'n' => ['\n']
  | 't' => ['\t']
  | '%' => ['%']
  | c => ['%', c]

/-- Text in which letters behind percent signs stand for parts of a date. -/
def dateText (nanos : Nat) : Str → Str
  | [] => []
  | '%' :: c :: rest => dateField nanos c ++ dateText nanos rest
  | c :: rest => c :: dateText nanos rest

/-- Write the date. -/
def date (words : List Str) : Sh Nat := do
  let now ← match ← Sh.ask .clock with
    | .number n => pure n
    | _ => pure 0
  match words.find? fun w => w.head? == some '+' with
  | some format => Sh.write 1 (dateText now (format.drop 1) ++ ['\n'])
  | none => Sh.write 1 (dateText now "%a %b %d %T %Z %Y".toList ++ ['\n'])
  return 0

/-! ## Expressions -/

/-- What an operator of `expr` makes of two values, or the message about it. -/
def exprOperation (op : String) (a b : Str) : Except String Str :=
  let isTrue (s : Str) : Bool := !s.isEmpty && readInt? s != some 0
  let number (f : Int → Int → Except String Int) : Except String Str :=
    match readInt? a, readInt? b with
    | some m, some n => (f m n).map showInt
    | _, _ => .error "non-integer argument"
  let compare (f : Bool → Bool → Bool) : Except String Str :=
    let (le, ge) := match readInt? a, readInt? b with
      | some m, some n => (decide (m ≤ n), decide (n ≤ m))
      | _, _ => (textLe a b, textLe b a)
    .ok (if f le ge then ['1'] else ['0'])
  match op with
  | "|" => .ok (if isTrue a then a else if isTrue b then b else ['0'])
  | "&" => .ok (if isTrue a && isTrue b then a else ['0'])
  | "=" => compare fun le ge => le && ge
  | "==" => compare fun le ge => le && ge
  | "!=" => compare fun le ge => !(le && ge)
  | "<" => compare fun _ ge => !ge
  | "<=" => compare fun le _ => le
  | ">" => compare fun le _ => !le
  | ">=" => compare fun _ ge => ge
  | "+" => number fun m n => .ok (m + n)
  | "-" => number fun m n => .ok (m - n)
  | "*" => number fun m n => .ok (m * n)
  | "/" => number fun m n => if n = 0 then .error "division by zero" else .ok (m.tdiv n)
  | "%" => number fun m n => if n = 0 then .error "division by zero" else .ok (m.tmod n)
  | _ =>
    let text := a.toArray
    match Regex.read? false b with
    | none => .error "Invalid regular expression"
    | some r =>
      let hasGroup := "\\(".toList.isPrefixOf (b.dropWhile (· != '\\'))
      match Regex.longestAt r text 0 with
      | some p => .ok (if hasGroup then Regex.groupText text p 1 else showNat p.place)
      | none => .ok (if hasGroup then [] else ['0'])

/-- How strongly an operator of `expr` binds. -/
def exprStrength (w : Str) : Nat :=
  match String.ofList w with
  | "|" => 1
  | "&" => 2
  | "=" => 3
  | "==" => 3
  | "!=" => 3
  | "<" => 3
  | "<=" => 3
  | ">" => 3
  | ">=" => 3
  | "+" => 4
  | "-" => 4
  | "*" => 5
  | "/" => 5
  | "%" => 5
  | ":" => 6
  | _ => 0

/-- The value of an expression with operators of at least some strength, and what is left. -/
def exprValue : Nat → Nat → List Str → Except String (Str × List Str)
  | 0, _, _ => .error "syntax error"
  | fuel + 1, least, words => do
    let (first, rest) ← operand fuel words
    more fuel least first rest
where
  /-- A value or an expression between parentheses. -/
  operand : Nat → List Str → Except String (Str × List Str)
    | 0, _ => .error "syntax error"
    | fuel + 1, words =>
      match words with
      | [] => .error "syntax error: missing argument"
      | ['('] :: rest => do
        let (value, rest) ← exprValue fuel 1 rest
        match rest with
        | [')'] :: rest => return (value, rest)
        | _ => .error "syntax error: expecting ')'"
      | w :: rest => .ok (w, rest)
  /-- Operators after a value. -/
  more : Nat → Nat → Str → List Str → Except String (Str × List Str)
    | 0, _, value, rest => .ok (value, rest)
    | fuel + 1, least, value, rest =>
      match rest with
      | op :: after =>
        let own := exprStrength op
        if own = 0 ∨ own < least then .ok (value, rest)
        else do
          let (right, rest) ← exprValue fuel (own + 1) after
          let value ← exprOperation (String.ofList op) value right
          more fuel least value rest
      | [] => .ok (value, [])

/-- Evaluate words as an expression. -/
def expr (words : List Str) : Sh Nat := do
  if words.isEmpty then missingOperand "expr" "operand"
  else
    match exprValue (8 * words.length + 8) 1 words with
    | .ok (value, []) =>
      Sh.write 1 (value ++ ['\n'])
      return if value.isEmpty || readInt? value == some 0 then 1 else 0
    | .ok (_, w :: _) =>
      note "expr" ("syntax error: unexpected argument ".toList ++ quotedName w)
      return 2
    | .error message => note "expr" message.toList; return 2

/-! ## Programs that run programs -/

section

variable (run : Runner)

/-- Become the program that words call. -/
def becomeProgram (caller : String) (words : List Str) : Sh Nat := do
  match words with
  | [] => return 0
  | name :: _ =>
    match ← findProgram name with
    | .ok path => run (.program path words)
    | .error why =>
      let shown := if caller == "xargs" then name else quotedName name
      note caller (shown ++ ": ".toList ++ why.message)
      return if why = .noEntry then 127 else 126

/-- Set variables that a program inherits. -/
def setInherited : List Str → Sh (List Str)
  | [] => return []
  | w :: rest =>
    if w.contains '=' && w.head? != some '=' then do
      let name := w.takeWhile (· != '=')
      let value := w.drop (name.length + 1)
      Sh.change fun s => s.setVariable (String.ofList name) { value := .text value, exported := true }
      setInherited rest
    else return w :: rest

/-- Options of `env` at the front of words. -/
def environmentOptions : Nat → List Str → Sh (List Str)
  | 0, words => return words
  | fuel + 1, words => do
    match words with
    | w :: rest =>
      if w == "-i".toList || w == ['-'] || w == "--ignore-environment".toList then
        Sh.change fun s => { s with bindings := s.bindings.filter fun (_, v) => !v.exported }
        environmentOptions fuel rest
      else if w == "-u".toList then
        Sh.change fun s => s.dropVariable (String.ofList (rest.headD []))
        environmentOptions fuel (rest.drop 1)
      else if w == "--".toList || w == "-S".toList then return rest
      else return words
    | [] => return []

/-- Write the environment, or run a program in another one. -/
def environment (words : List Str) : Sh Nat := do
  let words ← setInherited (← environmentOptions (words.length + 1) words)
  if words.isEmpty then
    let s ← Sh.getState
    Sh.write 1 (s.environment.flatMap fun (name, text) => name.toList ++ '=' :: text ++ ['\n'])
    return 0
  else becomeProgram run "env" words

/-- Write variables of the environment. -/
def printEnvironment (words : List Str) : Sh Nat := do
  let s ← Sh.getState
  if words.isEmpty then
    Sh.write 1 (s.environment.flatMap fun (name, text) => name.toList ++ '=' :: text ++ ['\n'])
    return 0
  else
    let found := words.map fun w => s.environment.lookup (String.ofList w)
    Sh.write 1 (unlines (found.filterMap id))
    return if found.all Option.isSome then 0 else 1

/-- Items cut to groups of some size. -/
def chunks {α : Type} (size : Nat) : Nat → List α → List (List α)
  | 0, _ => []
  | fuel + 1, items => if items.isEmpty then [] else items.take size :: chunks size fuel (items.drop size)

/-- A text with a word in the place of a mark. -/
def putInPlace (place value : Str) : Nat → Str → Str
  | 0, s => s
  | fuel + 1, s =>
    match s with
    | [] => []
    | c :: rest =>
      if !place.isEmpty && place.isPrefixOf s then value ++ putInPlace place value fuel (s.drop place.length)
      else c :: putInPlace place value fuel rest

/-- The options of `xargs` at the front of words. -/
def batchOptions : Nat → List (Char × Str) → List Str → List (Char × Str) × List Str
  | 0, found, words => (found, words)
  | fuel + 1, found, words =>
    match words with
    | ('-' :: c :: more) :: rest =>
      if ['n', 'I', 'L', 'P', 'd', 's'].contains c then
        if more.isEmpty then batchOptions fuel ((c, rest.headD []) :: found) (rest.drop 1)
        else batchOptions fuel ((c, more) :: found) rest
      else batchOptions fuel ((c, []) :: found) rest
    | _ => (found, words)

/-- Run a program with words that are read. -/
def batch (words : List Str) : Sh Nat := do
  let (options, command) := batchOptions (words.length + 1) [] words
  let command := if command.isEmpty then ["echo".toList] else command
  let text ← Sh.readInput
  let place := options.lookup 'I'
  let items :=
    if (options.lookup '0').isSome then (Text.splitAll (Char.ofNat 0) text).filter fun w => !w.isEmpty
    else if place.isSome then (linesOf text).filter fun l => !l.isEmpty
    else
      let marks := text.map fun c => (c, false)
      let blank := [' ', '\t', '\n']
      allFields blank (text.length + 1) (marks.dropWhile (isFieldBlank blank))
  let commands := match place with
    | some p => items.map fun item => command.map fun w => putInPlace p item (w.length + 1) w
    | none =>
      match options.lookup 'n' with
      | some n => (chunks (max 1 (Decimal.valueFrom 0 n)) (items.length + 1) items).map fun c => command ++ c
      | none => if items.isEmpty && (options.lookup 'r').isSome then [] else [command ++ items]
  let statuses ← Sh.mapList (fun ws => do
    let pid ← Sh.spawn (becomeProgram run "xargs" ws)
    waitStatus pid) commands
  let worst := statuses.foldl max 0
  return if worst = 0 then 0 else if worst = 126 ∨ worst = 127 then worst else 123

/-- Run a program for a limited time. -/
def limited (words : List Str) : Sh Nat := do
  let (options, words) := batchOptions (words.length + 1) [] words
  let signal := ((options.lookup 's').bind signalNumber?).getD 15
  match words with
  | limit :: command =>
    match durationNanos? limit with
    | none =>
      note "timeout" ("invalid time interval ".toList ++ quotedName limit)
      return 125
    | some nanos =>
      let before ← clock
      let child ← Sh.spawn (becomeProgram run "timeout" command)
      let guard ← Sh.spawn do
        Sh.tell (.sleep nanos)
        Sh.tell (.signal child signal)
        return 0
      let status ← waitStatus child
      let after ← clock
      Sh.tell (.signal guard 9)
      let _ ← waitStatus guard
      if before + nanos ≤ after && nanos ≠ 0 && 128 < status then
        if signal = 9 then
          if let .numbers pid _ ← Sh.ask .identity then Sh.tell (.signal pid 9)
        return 124
      else return status
  | [] => missingOperand "timeout" "operand"
where
  /-- The time. -/
  clock : Sh Nat := do
    match ← Sh.ask .clock with
    | .number n => return n
    | _ => return 0

/-- Write a line without end. -/
def repeatLine (line : Str) : Nat → Sh Nat
  | 0 => return 0
  | fuel + 1 => do
    match ← Sh.ask (.write 1 line) with
    | .refused _ => return 1
    | _ => repeatLine line fuel

/-- Write where programs are. -/
def which (words : List Str) : Sh Nat :=
  forWords (fun w => do
    match ← findProgram w with
    | .ok path => Sh.write 1 (path ++ ['\n']); return true
    | .error _ => return false) (splitOptions [] words).2

/-- Write a line that is always the same. -/
def constant (line : String) : Sh Nat := do
  Sh.write 1 (line.toList ++ ['\n'])
  return 0

/-! ## The shell as a program -/

/-- The options of a shell at the front of its words: options to set, whether a text is given. -/
def shellOptions : Nat → List Str → Bool → List Str → List Str × Bool × List Str
  | 0, found, isText, words => (found, isText, words)
  | fuel + 1, found, isText, words =>
    match words with
    | ['-', '-'] :: rest => (found, isText, rest)
    | ('-' :: '-' :: _) :: rest => shellOptions fuel found isText rest
    | ('-' :: c :: more) :: rest =>
      let letters := (c :: more).filter fun c => c != 'c' && c != 'i' && c != 'l' && c != 's'
      let isText := isText || (c :: more).contains 'c'
      if letters.contains 'o' then shellOptions fuel (found ++ ['-' :: letters, rest.headD []]) isText (rest.drop 1)
      else if letters.isEmpty then shellOptions fuel found isText rest
      else shellOptions fuel (found ++ ['-' :: letters]) isText rest
    | _ => (found, isText, words)

/-- The variables that a shell has when it starts, given those it inherits. -/
def startVariables (s : ShellState) (parent : Nat) : List (String × Variable) :=
  let own : List (String × Variable) := [
    ("BASH", { value := .text "/usr/bin/bash".toList }),
    ("BASH_VERSION", { value := .text "5.2.21(1)-release".toList }),
    ("BASH_VERSINFO", { value := Value.ofList (["5", "2", "21", "1", "release", "x86_64-pc-linux-gnu"].map String.toList), fixed := true }),
    ("SHELLOPTS", { value := .text "braceexpand:hashall:interactive-comments".toList, fixed := true }),
    ("EUID", { value := .text ['0'], integer := true, fixed := true }),
    ("UID", { value := .text ['0'], integer := true, fixed := true }),
    ("PPID", { value := .text (showNat parent), integer := true, fixed := true }),
    ("HOSTNAME", { value := .text "localhost".toList }),
    ("HOSTTYPE", { value := .text "x86_64".toList }),
    ("MACHTYPE", { value := .text "x86_64-pc-linux-gnu".toList }),
    ("OSTYPE", { value := .text "linux-gnu".toList }),
    ("IFS", { value := .text [' ', '\t', '\n'] }),
    ("OPTERR", { value := .text ['1'] }),
    ("OPTIND", { value := .text ['1'] }),
    ("PS4", { value := .text "+ ".toList }),
    ("TERM", { value := .text "dumb".toList })]
  let level := (((s.text? "SHLVL").bind readInt?).getD 0).toNat + 1
  let inherited := (s.bindings.filter fun (n, v) => v.exported && n != "_" && n != "PWD" && n != "SHLVL" &&
    n != "OLDPWD").map fun (n, v) => (n, { v with fixed := false, integer := false, letters := .kept })
  let places : List (String × Variable) := [("PWD", { value := .text s.directory, exported := true }),
    ("OLDPWD", { value := (s.value "OLDPWD"), exported := true }),
    ("SHLVL", { value := .text (showNat level), exported := true })]
  (own.filter fun (n, _) => (inherited.lookup n).isNone) ++ inherited ++ places

/-- Run the shell. -/
def shell (words : List Str) : Sh Nat := do
  let (options, isText, rest) := shellOptions (words.length + 1) [] false words
  let (pid, parent) ← match ← Sh.ask .identity with
    | .numbers pid parent => pure (pid, parent)
    | _ => pure (1, 0)
  let now ← match ← Sh.ask .clock with
    | .number n => pure n
    | _ => pure 0
  let old ← Sh.getState
  let fresh (name : Str) (params : List Str) (frames : List Frame) : Sh Unit := do
    Sh.change fun _ => {
      bindings := startVariables old parent, functions := old.functions, name, params, frames, pid, ownPid := pid
      directory := old.directory, started := now, now, random := pid * 7919 + 12345 }
    if !options.isEmpty then
      let _ ← setWords (options.length + 2) options
  if isText then
    match rest with
    | text :: more =>
      fresh (more.headD "bash".toList) (more.drop 1) []
      finishing run (run (.text text 1 "-c"))
    | [] =>
      Sh.putError "bash: -c: option requires an argument\n".toList
      return 2
  else
    match rest with
    | [] =>
      let text ← Sh.readInput
      fresh "bash".toList [] []
      finishing run (run (.text text 1 ""))
    | file :: params =>
      match ← readPath file with
      | .error why =>
        Sh.putError ("bash: ".toList ++ file ++ ": ".toList ++ why.message ++ ['\n'])
        return if why = .noEntry then 127 else 126
      | .ok text =>
        fresh file params [{ name := "main", file }]
        finishing run (run (.text text 1 ""))

/-! ## The programs by name -/

/-- The program that has a name, as an action on the words after it. -/
def program? (name : String) : Option (List Str → Sh Nat) :=
  match name with
  | "bash" => some (shell run)
  | "sh" => some (shell run)
  | "cat" => some cat
  | "tee" => some tee
  | "head" => some (frontOrBack "head")
  | "tail" => some (frontOrBack "tail")
  | "wc" => some wc
  | "tac" => some (backwards "tac")
  | "rev" => some (backwards "rev")
  | "sort" => some sortLines
  | "uniq" => some uniqueLines
  | "cut" => some cutLines
  | "tr" => some translate
  | "seq" => some sequence
  | "grep" => some (grep 'B')
  | "egrep" => some (grep 'E')
  | "fgrep" => some (grep 'F')
  | "sed" => some streamEditor
  | "touch" => some touch
  | "mkdir" => some makeDirectories
  | "mktemp" => some makeTemporary
  | "rm" => some removeFiles
  | "rmdir" => some removeDirectories
  | "cp" => some copyFiles
  | "mv" => some moveFiles
  | "ln" => some linkFiles
  | "ls" => some listFiles
  | "chmod" => some changeModes
  | "basename" => some baseName
  | "dirname" => some directoryName
  | "readlink" => some (resolvePaths "readlink")
  | "realpath" => some (resolvePaths "realpath")
  | "find" => some findFiles
  | "cmp" => some (compareContents "cmp")
  | "diff" => some (compareContents "diff")
  | "sleep" => some sleep
  | "date" => some date
  | "expr" => some expr
  | "env" => some (environment run)
  | "printenv" => some printEnvironment
  | "xargs" => some (batch run)
  | "timeout" => some (limited run)
  | "nohup" => some (becomeProgram run "nohup")
  | "which" => some which
  | "yes" => some fun words =>
    let line := (if words.isEmpty then ['y'] else [' '].intercalate words) ++ ['\n']
    repeatLine (List.replicate 500 line).flatten Sh.manyReads
  | "true" => some fun _ => return 0
  | "false" => some fun _ => return 1
  | "echo" => some fun words => putChecked "echo" (echoText words) 0
  | "printf" => some runPrintf
  | "test" => some (runTest "test")
  | "[" => some fun words => runTest "[" words.dropLast
  | "pwd" => some runPwd
  | "kill" => some runKill
  | "sync" => some fun _ => return 0
  | "whoami" => some fun _ => constant "root"
  | "hostname" => some fun _ => constant "localhost"
  | "uname" => some fun _ => constant "Linux"
  | "nproc" => some fun _ => constant "1"
  | "id" => some fun words => constant (if words.isEmpty then "uid=0(root) gid=0(root) groups=0(root)" else "0")
  | _ => none

/-- The names of the programs. -/
def programNames : List String :=
  ["bash", "sh", "cat", "tee", "head", "tail", "wc", "tac", "rev", "sort", "uniq", "cut", "tr", "seq", "grep",
    "egrep", "fgrep", "sed", "touch", "mkdir", "mktemp", "rm", "rmdir", "cp", "mv", "ln", "ls", "chmod",
    "basename", "dirname", "readlink", "realpath", "find", "cmp", "diff", "sleep", "date", "expr", "env",
    "printenv", "xargs", "timeout", "nohup", "which", "yes", "true", "false", "echo", "printf", "test", "[",
    "pwd", "kill", "sync", "whoami", "hostname", "uname", "nproc", "id"]

/-- The interpreter that the first line of a script names, with its argument. -/
def interpreter? (text : Str) : Option (List Str) :=
  match text with
  | '#' :: '!' :: rest =>
    let words := (Text.splitAll ' ' (rest.takeWhile (· != '\n'))).filter fun w => !w.isEmpty
    if words.isEmpty then none else some words
  | _ => none

/-- Run the program of a path: one of the system's own, or a script. Only variables that are inherited are
left. -/
def runFile (path : Str) (words : List Str) : Sh Nat := do
  Sh.tell .become
  let args := words.drop 1
  Sh.change fun s => {
    bindings := ((s.bindings.filter fun (n, v) => v.exported && n != "_").map fun (n, v) =>
      (n, { value := v.value, exported := true })) ++
      [("_", { value := .text (Files.absolute s.directory path), exported := true })]
    name := words.headD path, directory := s.directory, pid := s.pid, ownPid := s.ownPid }
  match ← fileInfo? path true with
  | some { program := some name, .. } =>
    match program? run name with
    | some act => act args
    | none => return 127
  | _ =>
    match ← readPath path with
    | .error _ => return 126
    | .ok text =>
      match interpreter? text with
      | some (interpreter :: more) => run (.program interpreter (interpreter :: more ++ path :: args))
      | _ => shell run (path :: args)

end

/-! ## Running -/

/-- The runner whose jobs nest at most so deep. -/
def runJobs : Nat → Runner
  | 0, _ => die 1 "maximum nesting level exceeded".toList
  | n + 1, job =>
    match job with
    | .commands body => runCommands (runJobs n) body 0
    | .copy body forOutput => runCopy (runJobs n) body forOutput
    | .text body line givenTo => runText (runJobs n) givenTo body line
    | .words words mayBeProgram => runWords (runJobs n) words [] [] false mayBeProgram false
    | .program path words => runFile (runJobs n) path words

/-- How deep jobs nest at most. -/
def maxJobDepth : Nat := 100000

/-- The process that a program is, given its environment and its directory. -/
def programProcess (environment : List (String × Str)) (directory path : Str) (words : List Str) : Process :=
  let bindings := environment.map fun (n, text) => (n, { value := .text text, exported := true : Variable })
  Sh.toProcess (runJobs maxJobDepth (.program path words)) { bindings, directory }

end FuzzCampaign.Shell
