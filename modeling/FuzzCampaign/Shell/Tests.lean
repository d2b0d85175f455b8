import FuzzCampaign.Shell.Expand
import FuzzCampaign.Shell.Regex
set_option autoImplicit false

/-! # Tests

The conditions that commands test: properties of files, of texts and of numbers. They are written as the
arguments of a command, or between double brackets. -/

namespace FuzzCampaign.Shell

/-! ## Single tests -/

/-- What is known of the file of a path. -/
def fileInfo? (path : Str) (followLink : Bool) : Sh (Option FileInfo) := do
  if path.isEmpty then return none
  else
    let s ← Sh.getState
    match ← Sh.ask (.files (.info (Files.absolute s.directory path) followLink)) with
    | .info i => return some i
    | _ => return none

/-- Whether anyone may execute a file. -/
def FileInfo.isExecutable (i : FileInfo) : Bool := i.kind == .directory || i.mode &&& 0o111 != 0

/-- A test of one text. -/
def unaryTest (op : Char) (arg : Str) : Sh Bool := do
  match op with
  | 'n' => return !arg.isEmpty
  | 'z' => return arg.isEmpty
  | 'v' =>
    let (name, index, key) := namedParam arg
    let s ← Sh.getState
    let value := s.value name
    match index with
    | .absent => return value.text?.isSome
    | .at _ =>
      match value with
      | .keyed _ => return (value.element? (.name key)).isSome
      | _ => return ((readInt? key).bind fun i => value.element? (.index i)).isSome
    | _ => return !value.texts.isEmpty
  | 'o' =>
    let s ← Sh.getState
    return optionTable.any fun (name, _, isOn, _) => name.toList == arg && isOn s.options
  | 't' => return false
  | 'h' => return (← fileInfo? arg false).any fun i => i.kind == .link
  | 'L' => return (← fileInfo? arg false).any fun i => i.kind == .link
  | _ =>
    match ← fileInfo? arg true with
    | none => return false
    | some i =>
      match op with
      | 'f' => return i.kind == .file
      | 'd' => return i.kind == .directory
      | 'p' => return i.kind == .pipe
      | 'c' => return i.kind == .device
      | 's' => return i.size != 0
      | 'x' => return i.isExecutable
      | 'b' => return false
      | 'S' => return false
      | 'g' => return i.mode &&& 0o2000 != 0
      | 'u' => return i.mode &&& 0o4000 != 0
      | 'k' => return i.mode &&& 0o1000 != 0
      | _ => return true

/-- A whole number with blanks around it. -/
def readTestInt? (s : Str) : Option Int :=
  let trimmed := ((s.dropWhile isArithBlank).reverse.dropWhile isArithBlank).reverse
  readInt? trimmed

/-- What an operator on numbers says. -/
def compareInts (op : Str) (a b : Int) : Bool :=
  match String.ofList op with
  | "-eq" => a == b
  | "-ne" => a != b
  | "-lt" => a < b
  | "-le" => a ≤ b
  | "-gt" => b < a
  | _ => b ≤ a

/-- The operators on numbers. -/
def isIntOperator (op : Str) : Bool :=
  ["-eq", "-ne", "-lt", "-le", "-gt", "-ge"].any fun o => o.toList == op

/-- A test of two files. -/
def compareFiles (op a b : Str) : Sh Bool := do
  let x ← fileInfo? a true
  let y ← fileInfo? b true
  match String.ofList op, x, y with
  | "-nt", some i, some j => return j.modified < i.modified
  | "-nt", some _, none => return true
  | "-ot", some i, some j => return i.modified < j.modified
  | "-ot", none, some _ => return true
  | "-ef", some i, some j => return i.id == j.id
  | _, _, _ => return false

/-! ## Tests as arguments -/

/-- A test. -/
inductive TestTree where
  | word (s : Str)
  | unary (op : Char) (s : Str)
  | binary (op a b : Str)
  | negation (t : TestTree)
  | both (a b : TestTree)
  | either (a b : TestTree)

namespace TestTree

/-- The operator of tests of one text that a word is. -/
def unaryOp? (s : Str) : Option Char :=
  match s with
  | ['-', c] => if unaryTests.any fun u => u.toList == s then some c else none
  | _ => none

/-- Whether a word is an operator of tests of two texts. -/
def isBinaryOp (s : Str) : Bool := binaryTests.any fun b => b != "=~" && b.toList == s

/-- A test on one text, or the message about it. -/
def ofTwo (a b : Str) : Except Str TestTree :=
  if a == ['!'] then .ok (.negation (.word b))
  else
    match unaryOp? a with
    | some c => .ok (.unary c b)
    | none => .error (a ++ ": unary operator expected".toList)

/-- A test on three words, or the message about it. -/
def ofThree (a b c : Str) : Except Str TestTree :=
  if isBinaryOp b then .ok (.binary b a c)
  else if b == "-a".toList then .ok (.both (.word a) (.word c))
  else if b == "-o".toList then .ok (.either (.word a) (.word c))
  else if a == ['!'] then do return .negation (← ofTwo b c)
  else if a == ['('] && c == [')'] then .ok (.word b)
  else .error (b ++ ": binary operator expected".toList)

/-- A test on many words: alternatives, and what is left. -/
def alternatives : Nat → List Str → Except Str (TestTree × List Str)
  | 0, _ => .error "too many arguments".toList
  | fuel + 1, words => do
    let (first, rest) ← conjunction fuel words
    match rest with
    | op :: more =>
      if op == "-o".toList then
        let (second, rest) ← alternatives fuel more
        return (.either first second, rest)
      else return (first, rest)
    | [] => return (first, [])
where
  /-- Tests joined by `-a`. -/
  conjunction : Nat → List Str → Except Str (TestTree × List Str)
    | 0, _ => .error "too many arguments".toList
    | fuel + 1, words => do
      let (first, rest) ← term fuel words
      match rest with
      | op :: more =>
        if op == "-a".toList then
          let (second, rest) ← conjunction fuel more
          return (.both first second, rest)
        else return (first, rest)
      | [] => return (first, [])
  /-- A single test, a negated one or one between parentheses. -/
  term : Nat → List Str → Except Str (TestTree × List Str)
    | 0, _ => .error "too many arguments".toList
    | fuel + 1, words =>
      match words with
      | [] => .error "argument expected".toList
      | a :: rest =>
        if a == ['!'] then do
          let (t, rest) ← term fuel rest
          return (.negation t, rest)
        else if a == ['('] then do
          let (t, rest) ← alternatives fuel rest
          match rest with
          | [')'] :: rest => return (t, rest)
          | _ => .error "`)' expected".toList
        else
          match rest with
          | op :: c :: more =>
            if isBinaryOp op then .ok (.binary op a c, more) else single a rest
          | _ => single a rest
  /-- A test of one word. -/
  single (a : Str) (rest : List Str) : Except Str (TestTree × List Str) :=
    match unaryOp? a, rest with
    | some c, b :: more => .ok (.unary c b, more)
    | _, _ => .ok (.word a, rest)

/-- The test that words are, or the message about them. -/
def read? (words : List Str) : Except Str TestTree :=
  let general : Except Str TestTree := do
    let (t, rest) ← alternatives (4 * words.length + 4) words
    if rest.isEmpty then return t else .error "too many arguments".toList
  match words with
  | [] => .ok (.word [])
  | [a] => .ok (.word a)
  | [a, b] => ofTwo a b
  | [a, b, c] => ofThree a b c
  | [a, b, c, d] =>
    if a == ['!'] then do return .negation (← ofThree b c d)
    else if a == ['('] && d == [')'] then ofTwo b c
    else general
  | _ => general

/-- What a test says, or the message about it. -/
def holds : TestTree → Sh (Except Str Bool)
  | .word s => return .ok (!s.isEmpty)
  | .unary op s => return .ok (← unaryTest op s)
  | .binary op a b => do
    if isIntOperator op then
      match readTestInt? a, readTestInt? b with
      | some m, some n => return .ok (compareInts op m n)
      | none, _ => return .error (a ++ ": integer expression expected".toList)
      | _, none => return .error (b ++ ": integer expression expected".toList)
    else
      match String.ofList op with
      | "=" => return .ok (a == b)
      | "==" => return .ok (a == b)
      | "!=" => return .ok (a != b)
      | "<" => return .ok (textLe a b && a != b)
      | ">" => return .ok (textLe b a && a != b)
      | _ => return .ok (← compareFiles op a b)
  | .negation t => return (← holds t).map not
  | .both a b => do
    match ← holds a with
    | .ok true => holds b
    | result => return result
  | .either a b => do
    match ← holds a with
    | .ok false => holds b
    | result => return result

end TestTree

/-- The status of a test; `name` is what the command was called. -/
def runTest (name : String) (words : List Str) : Sh Nat := do
  let result ← match TestTree.read? words with
    | .error message => pure (Except.error message)
    | .ok t => t.holds
  match result with
  | .ok b => return if b then 0 else 1
  | .error message => complainAs name message; return 2

/-! ## Conditions between double brackets -/

/-- A pattern as an execution trace shows it: quoted characters behind backslashes. -/
def tracedPattern (p : List Marked) : Str := p.flatMap fun (c, isQuoted) => if isQuoted then ['\\', c] else [c]

/-- A pattern as a regular expression, in which quoted characters stand for themselves. -/
def regexOf (p : List Marked) : Str :=
  p.flatMap fun (c, isQuoted) =>
    if isQuoted && !c.isAlphanum && c != '_' && c != ' ' then ['\\', c] else [c]

section

variable (run : Runner) (trace : Str → Sh Unit)

/-- The value of a side of a comparison of numbers; a failure is told. -/
def conditionInt (text : Str) : Sh (Option Int) := do
  let s ← Sh.getState
  match s.evaluate text with
  | .ok (n, s) => Sh.change fun _ => s; return some n
  | .error (.wrong message) => complain ("[[: ".toList ++ message); return none
  | .error (.unbound name) => die 1 (name.toList ++ ": unbound variable".toList)
  | .error (.fixed name) => die 1 (fixedMessage name)

/-- Text in a trace of a condition. -/
def shownText (s : Str) : Str := if s.isEmpty then "''".toList else s

/-- What a match of a regular expression leaves behind. -/
def rememberMatch (text : Array Char) (start : Nat) (p : Regex.Point) (groups : Nat) : Sh Unit :=
  let whole := (text.extract start p.place).toList
  let parts := (List.range groups).map fun i => Regex.groupText text p (i + 1)
  Sh.change fun s => s.assignValue "BASH_REMATCH" (Value.ofList (whole :: parts))

/-- The status of a condition; `negated` is for the trace. -/
def runCondition (negated : Bool) : Condition → Sh Nat
  | .negation c => do
    match ← runCondition (!negated) c with
    | 0 => return 1
    | 1 => return 0
    | n => return n
  | .both a b => do
    match ← runCondition negated a with
    | 0 => runCondition negated b
    | n => return n
  | .either a b => do
    match ← runCondition negated a with
    | 0 => return 0
    | 1 => runCondition negated b
    | n => return n
  | .word w => do
    let text ← expandText run .front w.parts
    traced ("-n ".toList ++ shownText text)
    return if text.isEmpty then 1 else 0
  | .unary op w => do
    let text ← expandText run .front w.parts
    traced (op ++ ' ' :: shownText text)
    return if ← unaryTest (op.getD 1 'n') text then 0 else 1
  | .binary op left right => do
    let a ← expandText run .front left.parts
    let name := String.ofList op
    if name = "==" ∨ name = "=" ∨ name = "!=" ∨ name = "=~" then
      let p ← expandPattern run right.parts
      traced (shownText a ++ ' ' :: op ++ ' ' :: shownText (tracedPattern p))
      if name = "=~" then
        let source := regexOf p
        match Regex.read? true source with
        | none => return 2
        | some r =>
          let text := a.toArray
          match r.find? text 0 with
          | some (start, point) =>
            rememberMatch text start point (source.filter (· == '(')).length
            return 0
          | none =>
            Sh.change fun s => s.assignValue "BASH_REMATCH" (.indexed [])
            return 1
      else
        let found := matchGlobs (globs p) a
        return if found == (name != "!=") then 0 else 1
    else
      let b ← expandText run .front right.parts
      traced (shownText a ++ ' ' :: op ++ ' ' :: shownText b)
      if isIntOperator op then
        match ← conditionInt a with
        | none => return 1
        | some m =>
          match ← conditionInt b with
          | none => return 1
          | some n => return if compareInts op m n then 0 else 1
      else
        let result ← match name with
          | "<" => pure (textLe a b && a != b)
          | ">" => pure (textLe b a && a != b)
          | _ => compareFiles op a b
        return if result then 0 else 1
where
  /-- Traces a single condition. -/
  traced (text : Str) : Sh Unit :=
    trace ("[[ ".toList ++ (if negated then "! ".toList else []) ++ text ++ " ]]".toList)

end

end FuzzCampaign.Shell
