import FuzzCampaign.Shell.TextTools
set_option autoImplicit false

/-! # The stream editor

A program that edits text line by line: every line goes through the commands of a script, each of which
may be for some lines only. -/

namespace FuzzCampaign.Shell

/-! ## Scripts -/

/-- Which lines are meant. -/
inductive LineAddress where
  | number (n : Nat)
  | last
  | pattern (r : Regex)

/-- What is done to a line. -/
inductive EditAction where
  /-- Replaces matches: from a number on, and then all of them or only that one. -/
  | substitute (r : Regex) (replacement : Str) (number : Nat) (all prints : Bool)
  | transliterate (source target : Str)
  | print
  | delete
  | quit
  | lineNumber
  | append (text : Str)
  | insert (text : Str)
  | exchange (text : Str)
  | nothing

/-- A command for the lines from one address to another, or for all the others. -/
structure EditCommand where
  first : Option LineAddress := none
  last : Option LineAddress := none
  negated : Bool := false
  action : EditAction

/-- The text up to a delimiter that is not behind a backslash, and what follows it. -/
def delimited (stop : Char) : Nat → Str → Str → Option (Str × Str)
  | 0, _, _ => none
  | fuel + 1, s, found =>
    match s with
    | [] => none
    | '\\' :: c :: rest =>
      if c == stop then delimited stop fuel rest (c :: found) else delimited stop fuel rest (c :: '\\' :: found)
    | c :: rest => if c == stop then some (found.reverse, rest) else delimited stop fuel rest (c :: found)

/-- An address at the front of a text, and what follows it. -/
def readAddress (extended : Bool) (s : Str) : Option (Option LineAddress × Str) :=
  match s with
  | '$' :: rest => some (some .last, rest)
  | '/' :: rest => do
    let (pattern, rest) ← delimited '/' (rest.length + 1) rest []
    let r ← Regex.read? extended pattern
    return (some (.pattern r), rest)
  | s =>
    let digits := s.takeWhile Char.isDigit
    if digits.isEmpty then some (none, s)
    else some (some (.number (Decimal.valueFrom 0 digits)), s.drop digits.length)

/-- Blanks at the front of a text are passed over. -/
def skipBlanks (s : Str) : Str := s.dropWhile fun c => c == ' ' || c == '\t'

/-- The action at the front of a text, and what follows it. -/
def readAction (extended : Bool) (s : Str) : Option (EditAction × Str) :=
  let line (s : Str) : Str × Str :=
    let s := match skipBlanks s with
      | '\\' :: '\n' :: rest => rest
      | '\\' :: rest => rest
      | s => s
    (s.takeWhile (· != '\n'), s.dropWhile (· != '\n'))
  match s with
  | 's' :: stop :: rest => do
    let (pattern, rest) ← delimited stop (rest.length + 1) rest []
    let (replacement, rest) ← delimited stop (rest.length + 1) rest []
    let flags := rest.takeWhile fun c => c.isDigit || c == 'g' || c == 'p' || c == 'i' || c == 'I'
    let r ← Regex.read? extended pattern
    let number := Decimal.valueFrom 0 (flags.filter Char.isDigit)
    return (.substitute r replacement (max 1 number) (flags.contains 'g') (flags.contains 'p'),
      rest.drop flags.length)
  | 'y' :: stop :: rest => do
    let (source, rest) ← delimited stop (rest.length + 1) rest []
    let (target, rest) ← delimited stop (rest.length + 1) rest []
    return (.transliterate source target, rest)
  | 'p' :: rest => some (.print, rest)
  | 'd' :: rest => some (.delete, rest)
  | 'q' :: rest => some (.quit, rest)
  | '=' :: rest => some (.lineNumber, rest)
  | 'a' :: rest => some (.append (line rest).1, (line rest).2)
  | 'i' :: rest => some (.insert (line rest).1, (line rest).2)
  | 'c' :: rest => some (.exchange (line rest).1, (line rest).2)
  | '#' :: rest => some (.nothing, rest.dropWhile (· != '\n'))
  | _ => none

/-- The commands of a script. -/
def readEdits (extended : Bool) : Nat → Str → Option (List EditCommand)
  | 0, _ => none
  | fuel + 1, s => do
    let s := s.dropWhile fun c => c == ' ' || c == '\t' || c == '\n' || c == ';'
    if s.isEmpty then return []
    else
      let (first, s) ← readAddress extended s
      let (last, s) ← match skipBlanks s with
        | ',' :: rest => readAddress extended (skipBlanks rest)
        | s => some (none, s)
      let s := skipBlanks s
      let (negated, s) := match s with
        | '!' :: rest => (true, skipBlanks rest)
        | _ => (false, s)
      let (action, s) ← readAction extended s
      let more ← readEdits extended fuel s
      return { first, last, negated, action } :: more

/-! ## Editing -/

/-- A line on its way through a script. -/
structure EditState where
  text : Str
  number : Nat
  isLast : Bool
  quiet : Bool
  before : Str := []
  after : Str := []
  printed : Str := []
  deleted : Bool := false
  quits : Bool := false
  /-- For each command, whether it is inside its lines. -/
  inside : List Bool

/-- Whether an address means a line. -/
def LineAddress.means (a : LineAddress) (s : EditState) : Bool :=
  match a with
  | .number n => s.number = n
  | .last => s.isLast
  | .pattern r => r.matchesIn s.text

/-- What takes the place of a match. -/
def replacementText (text : Array Char) (start : Nat) (p : Regex.Point) : Nat → Str → Str
  | 0, _ => []
  | fuel + 1, s =>
    match s with
    | [] => []
    | '&' :: rest => (text.extract start p.place).toList ++ replacementText text start p fuel rest
    | '\\' :: 'n' :: rest => '\n' :: replacementText text start p fuel rest
    | '\\' :: 't' :: rest => '\t' :: replacementText text start p fuel rest
    | '\\' :: c :: rest =>
      if c == '0' then (text.extract start p.place).toList ++ replacementText text start p fuel rest
      else if c.isDigit then Regex.groupText text p (c.toNat - 48) ++ replacementText text start p fuel rest
      else c :: replacementText text start p fuel rest
    | c :: rest => c :: replacementText text start p fuel rest

/-- A line with matches replaced, from a place on; whether any was. -/
def replaceFrom (r : Regex) (replacement : Str) (all : Bool) (text : Array Char) :
    Nat → Nat → Nat → Str × Bool
  | 0, _, start => ((text.extract start text.size).toList, false)
  | fuel + 1, number, start =>
    match r.find? text start with
    | none => ((text.extract start text.size).toList, false)
    | some (first, p) =>
      let between := (text.extract start first).toList
      let matched := (text.extract first p.place).toList
      let isEmpty := p.place = first
      let next := if isEmpty then first + 1 else p.place
      let step := if isEmpty then (text.extract first next).toList else []
      if 1 < number then
        let (rest, any) := if text.size < next then ([], false)
          else replaceFrom r replacement all text fuel (number - 1) next
        (between ++ matched ++ step ++ rest, any)
      else
        let new := replacementText text first p (replacement.length + 1) replacement
        if all && next ≤ text.size then
          let (rest, _) := replaceFrom r replacement all text fuel 1 next
          (between ++ new ++ step ++ rest, true)
        else (between ++ new ++ step ++ (text.extract next text.size).toList, true)

/-- Whether a command is for a line, and whether it stays inside its lines. -/
def EditCommand.applies (c : EditCommand) (inside : Bool) (s : EditState) : Bool × Bool :=
  let (hit, stays) := match c.first, c.last with
    | none, _ => (true, false)
    | some a, none => (a.means s, false)
    | some a, some b =>
      if inside then (true, !b.means s)
      else if a.means s then
        (true, match b with
          | .number n => s.number < n
          | _ => !s.isLast)
      else (false, false)
  (hit != c.negated, stays)

/-- Do something to a line. -/
def EditAction.run (action : EditAction) (s : EditState) : EditState :=
  match action with
  | .substitute r replacement number all prints =>
    let text := s.text.toArray
    let (new, any) := replaceFrom r replacement all text (text.size + 2) number 0
    let s := { s with text := new }
    if any && prints then { s with printed := s.printed ++ new ++ ['\n'] } else s
  | .transliterate source target =>
    { s with text := s.text.map fun c =>
        match source.findIdx? (· == c) with
        | some i => target.getD i c
        | none => c }
  | .print => { s with printed := s.printed ++ s.text ++ ['\n'] }
  | .delete => { s with deleted := true }
  | .quit => { s with quits := true }
  | .lineNumber => { s with printed := s.printed ++ showNat s.number ++ ['\n'] }
  | .append text => { s with after := s.after ++ text ++ ['\n'] }
  | .insert text => { s with printed := s.printed ++ text ++ ['\n'] }
  | .exchange text => { s with printed := s.printed ++ text ++ ['\n'], deleted := true }
  | .nothing => s

/-- A line goes through the commands of a script. -/
def editLine : List EditCommand → List Bool → EditState → EditState
  | [], _, s => s
  | c :: rest, flags, s =>
    if s.deleted || s.quits then { s with inside := s.inside ++ flags }
    else
      let (hit, stays) := c.applies (flags.headD false) s
      let s := { s with inside := s.inside ++ [stays] }
      editLine rest (flags.drop 1) (if hit then c.action.run s else s)

/-- The lines of a text go through a script. -/
def editLines (commands : List EditCommand) (quiet : Bool) : List Str → Nat → List Bool → Str
  | [], _, _ => []
  | l :: rest, number, inside =>
    let s := editLine commands inside { text := l, number, isLast := rest.isEmpty, quiet, inside := [] }
    let own := if s.deleted || quiet then [] else s.text ++ ['\n']
    let output := s.printed ++ own ++ s.after
    if s.quits then output else output ++ editLines commands quiet rest (number + 1) s.inside

/-- Edit files or the standard input. -/
def streamEditor (words : List Str) : Sh Nat := do
  let (options, rest) := splitOptions ['e', 'f'] words
  let given := (options.filter fun (n, _) => n == ['e'] || n == "expression".toList).map (·.2)
  let (script, paths) := if given.isEmpty then (rest.headD [], rest.drop 1) else (['\n'].intercalate given, rest)
  let extended := hasOption options ["E", "r", "regexp-extended"]
  let quiet := hasOption options ["n", "quiet", "silent"]
  match readEdits extended (script.length + 2) script with
  | none =>
    note "sed" "-e expression #1, char 1: unknown command".toList
    return 1
  | some commands =>
    let refusal (path : Str) (why : Errno) : Sh Unit :=
      note "sed" ("can't read ".toList ++ path ++ ": ".toList ++ why.message)
    let (files, complete) ← readFiles refusal paths
    if hasOption options ["i", "in-place"] then
      Sh.forEach (fun (path, text) => do
        let s ← Sh.getState
        match ← Sh.ask (.openFile (Files.absolute s.directory path) .write) with
        | .number fd =>
          Sh.write fd (editLines commands quiet (linesOf text) 1 [])
          Sh.tell (.close fd)
        | _ => pure ()) files
    else Sh.write 1 (editLines commands quiet (linesOf (files.flatMap (·.2))) 1 [])
    return if complete then 0 else 2

end FuzzCampaign.Shell
