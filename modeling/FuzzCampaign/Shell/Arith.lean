import FuzzCampaign.Shell.Variables
set_option autoImplicit false

/-! # Arithmetic

Expressions over whole numbers of 64 bits, which wrap around. Names stand for variables, whose texts are
expressions themselves. An expression is read into a tree, and the tree is evaluated in the state of a
shell, which assignments change. -/

namespace FuzzCampaign.Shell

/-! ## Trees -/

/-- A variable or an element of one, with the text of its subscript. -/
structure VariableRef where
  name : String
  key : Option Str := none

/-- An expression. Where its evaluation can fail it holds the text that the message shows. -/
inductive Arith where
  | number (n : Int)
  | read (v : VariableRef)
  | unary (op : Char) (a : Arith)
  | binary (op : String) (a b : Arith) (shown : Str)
  | choice (test a b : Arith)
  /-- An assignment, with the operation that gives the new value. -/
  | assign (op : Option String) (v : VariableRef) (value : Arith) (shown : Str)
  /-- One more or less; the result is the value before or after. -/
  | count (up before : Bool) (v : VariableRef)

/-! ## Tokens -/

/-- A token. -/
inductive ArithToken where
  | number (n : Int)
  | name (v : VariableRef)
  | op (s : String)
  | stop
deriving Inhabited

/-- What is left to read: the token at the front, the text from it on, and the text after it. -/
structure ArithSource where
  token : ArithToken
  shown : Str
  rest : Str

/-- Reads something from an expression; a failure is told by a message and the text it is about. -/
abbrev ArithParse (α : Type) : Type := StateT ArithSource (Except (Str × Str)) α

/-- Keep 64 bits. -/
def wrap (n : Int) : Int := Int.bmod n 18446744073709551616

/-- The operators, longer ones first. -/
def arithOperators : List String :=
  ["<<=", ">>=", "**", "++", "--", "&&", "||", "==", "!=", "<=", ">=", "<<", ">>", "+=", "-=", "*=", "/=",
    "%=", "&=", "^=", "|=", "+", "-", "*", "/", "%", "=", "<", ">", "!", "~", "&", "|", "^", "?", ":", ",",
    "(", ")"]

/-- Whether a character is a blank of an expression. -/
def isArithBlank (c : Char) : Bool := c == ' ' || c == '\t' || c == '\n'

/-- The value of a digit in a base. -/
def digitIn (base : Nat) (c : Char) : Nat :=
  if c.isDigit then c.toNat - 48
  else if c.isLower then c.toNat - 87
  else if c.isUpper then if base ≤ 36 then c.toNat - 55 else c.toNat - 29
  else if c == '@' then 62
  else 63

/-- The number that digits of a base stand for, or the message about them. -/
def digitsIn (base : Nat) : Str → Int → Except Str Int
  | [], n => .ok n
  | c :: rest, n =>
    if c == '#' then .error "invalid number".toList
    else
      let d := digitIn base c
      if base ≤ d then .error "value too great for base".toList
      else digitsIn base rest (wrap (base * n + d))

/-- The number that a text stands for, or the message about it. -/
def arithNumber (s : Str) : Except Str Int :=
  match s with
  | '0' :: 'x' :: digits => if digits.isEmpty then .ok 0 else digitsIn 16 digits 0
  | '0' :: 'X' :: digits => if digits.isEmpty then .ok 0 else digitsIn 16 digits 0
  | '0' :: digits => digitsIn 8 digits 0
  | _ =>
    let front := s.takeWhile Char.isDigit
    match s.drop front.length with
    | '#' :: digits =>
      let base := Decimal.valueFrom 0 front
      if base < 2 ∨ 64 < base then .error "invalid arithmetic base".toList
      else if digits.isEmpty then .error "invalid integer constant".toList
      else digitsIn base digits 0
    | _ => digitsIn 10 s 0

/-- The text up to the bracket that closes a subscript. -/
def subscriptText : Nat → Nat → Str → Str → Option (Str × Str)
  | 0, _, _, _ => none
  | fuel + 1, depth, found, s =>
    match s with
    | [] => none
    | ']' :: rest =>
      if depth = 0 then some (found.reverse, rest) else subscriptText fuel (depth - 1) (']' :: found) rest
    | '[' :: rest => subscriptText fuel (depth + 1) ('[' :: found) rest
    | c :: rest => subscriptText fuel depth (c :: found) rest

/-- The tokens after which an operand must follow. -/
def wantsOperand : ArithToken → Bool
  | .op ")" => false
  | .op _ => true
  | .stop => true
  | _ => false

namespace ArithParse

/-- A failure about the text at the front. -/
def fault {α : Type} (message : String) : ArithParse α := fun src => .error (message.toList, src.shown)

/-- The source after its front token. -/
def advance (src : ArithSource) : Except (Str × Str) ArithSource :=
  let s := src.rest.dropWhile isArithBlank
  match s with
  | [] => .ok { src with token := .stop, rest := [] }
  | c :: _ =>
    if isNameStart c then
      let name := s.takeWhile isNameChar
      let rest := s.drop name.length
      match rest with
      | '[' :: inner =>
        match subscriptText (inner.length + 1) 0 [] inner with
        | some (key, after) => .ok ⟨.name ⟨String.ofList name, some key⟩, s, after⟩
        | none => .error ("bad array subscript".toList, s)
      | _ => .ok ⟨.name ⟨String.ofList name, none⟩, s, rest⟩
    else if c.isDigit then
      let text := s.takeWhile fun c => c.isAlphanum || c == '#' || c == '@' || c == '_'
      match arithNumber text with
      | .ok n => .ok ⟨.number n, s, s.drop text.length⟩
      | .error message => .error (message, s)
    else
      match arithOperators.find? fun op => op.toList.isPrefixOf s with
      | none =>
        .error ((if wantsOperand src.token then "syntax error: operand expected"
          else "syntax error: invalid arithmetic operator").toList, s)
      | some op =>
        let rest := s.drop op.length
        if op == "++" || op == "--" then
          let afterName := match src.token with
            | .name _ => true
            | _ => false
          let beforeName := (rest.dropWhile isArithBlank).head?.any isNameStart
          if afterName || beforeName then .ok ⟨.op op, s, rest⟩
          else .ok ⟨.op (String.singleton c), s, s.drop 1⟩
        else .ok ⟨.op op, s, rest⟩

/-- Pass over the front token. -/
def next : ArithParse Unit := fun src =>
  match advance src with
  | .ok src => .ok ((), src)
  | .error e => .error e

/-- The front token. -/
def token : ArithParse ArithToken := return (← get).token

/-- The text that a message at this point shows. -/
def shown : ArithParse Str := return (← get).shown

/-- Pass over an operator if it is at the front. -/
def accept (op : String) : ArithParse Bool := do
  match ← token with
  | .op found => if found == op then next; return true else return false
  | _ => return false

/-- How strongly an operator of two operands binds; stronger ones have greater numbers. -/
def strength : String → Nat
  | "||" => 1
  | "&&" => 2
  | "|" => 3
  | "^" => 4
  | "&" => 5
  | "==" => 6
  | "!=" => 6
  | "<" => 7
  | ">" => 7
  | "<=" => 7
  | ">=" => 7
  | "<<" => 8
  | ">>" => 8
  | "+" => 9
  | "-" => 9
  | "*" => 10
  | "/" => 10
  | "%" => 10
  | _ => 0

/-- The operation of an assignment. -/
def assignment? : String → Option (Option String)
  | "=" => some none
  | "+=" => some (some "+")
  | "-=" => some (some "-")
  | "*=" => some (some "*")
  | "/=" => some (some "/")
  | "%=" => some (some "%")
  | "<<=" => some (some "<<")
  | ">>=" => some (some ">>")
  | "&=" => some (some "&")
  | "^=" => some (some "^")
  | "|=" => some (some "|")
  | _ => none

section

variable (whole : ArithParse Arith)

/-- A number, a variable or an expression between parentheses. -/
def operand : ArithParse Arith := do
  match ← token with
  | .number n => next; return .number n
  | .name v =>
    next
    if ← accept "++" then return .count true false v
    else if ← accept "--" then return .count false false v
    else return .read v
  | .op "++" =>
    next
    match ← token with
    | .name v => next; return .count true true v
    | _ => fault "syntax error: operand expected"
  | .op "--" =>
    next
    match ← token with
    | .name v => next; return .count false true v
    | _ => fault "syntax error: operand expected"
  | .op "(" =>
    next
    let inner ← whole
    if ← accept ")" then return inner else fault "missing \x60)'"
  | _ => fault "syntax error: operand expected"

/-- An operand with operators in front of it. -/
def signed : Nat → ArithParse Arith
  | 0 => fault "expression recursion level exceeded"
  | fuel + 1 => do
    match ← token with
    | .op "!" => next; return .unary '!' (← signed fuel)
    | .op "~" => next; return .unary '~' (← signed fuel)
    | .op "-" => next; return .unary '-' (← signed fuel)
    | .op "+" => next; signed fuel
    | _ => operand whole

/-- Powers, which are taken from the right. -/
def power : Nat → ArithParse Arith
  | 0 => fault "expression recursion level exceeded"
  | fuel + 1 => do
    let base ← signed whole fuel
    if ← accept "**" then
      let exponent ← power fuel
      return .binary "**" base exponent (← shown)
    else return base

/-- Operands joined by operators of at least some strength, after the first of them. -/
def joined : Nat → Nat → Arith → ArithParse Arith
  | 0, _, _ => fault "expression recursion level exceeded"
  | fuel + 1, least, left => do
    match ← token with
    | .op op =>
      let own := strength op
      if own = 0 ∨ own < least then return left
      else
        let behind := (← get).rest.dropWhile isArithBlank
        next
        let first ← power whole fuel
        let right ← joined fuel (own + 1) first
        joined fuel least (.binary op left right behind)
    | _ => return left

/-- A choice between two expressions, or neither. -/
def choice : Nat → ArithParse Arith
  | 0 => fault "expression recursion level exceeded"
  | fuel + 1 => do
    let first ← power whole fuel
    let test ← joined whole fuel 1 first
    if ← accept "?" then
      match ← token with
      | .stop => fault "expression expected"
      | .op ":" => fault "expression expected"
      | _ =>
        let a ← whole
        if ← accept ":" then
          match ← token with
          | .stop => fault "expression expected"
          | _ => return .choice test a (← choice fuel)
        else fault "\x60:' expected for conditional expression"
    else return test

/-- An assignment, or none. -/
def assignment : Nat → ArithParse Arith
  | 0 => fault "expression recursion level exceeded"
  | fuel + 1 => do
    let left ← choice whole fuel
    match ← token with
    | .op op =>
      match assignment? op with
      | none => return left
      | some how =>
        match left with
        | .read v =>
          let behind := (← get).rest.dropWhile isArithBlank
          next
          return .assign how v (← assignment fuel) behind
        | _ => fault "attempted assignment to non-variable"
    | _ => return left

/-- Expressions after one another, after the first of them. -/
def sequence : Nat → Arith → ArithParse Arith
  | 0, first => return first
  | fuel + 1, first => do
    if ← accept "," then
      let second ← assignment whole fuel
      sequence fuel (.binary "," first second [])
    else return first

end

/-- An expression in which parentheses nest at most `depth` deep. -/
def expression (size : Nat) : Nat → ArithParse Arith
  | 0 => fault "expression recursion level exceeded"
  | depth + 1 => do
    let first ← assignment (expression size depth) size
    sequence (expression size depth) size first

/-- How deep parentheses and variables nest at most. -/
def maxDepth : Nat := 1024

end ArithParse

/-- Read an expression; nothing at all stands for zero. -/
def Arith.read? (s : Str) : Except (Str × Str) Arith := do
  let src ← ArithParse.advance ⟨.stop, [], s⟩
  match src.token with
  | .stop => return .number 0
  | _ =>
    let (tree, src) ← ArithParse.expression (s.length + 10) (min (s.length + 2) ArithParse.maxDepth) src
    match src.token with
    | .stop => return tree
    | _ => .error ("syntax error in expression".toList, src.shown)

/-! ## Values -/

/-- Why an expression has no value. -/
inductive ArithFault where
  /-- Something is wrong with the expression. -/
  | wrong (message : Str)
  /-- A name stands for nothing. -/
  | unbound (name : String)
  /-- A variable may not be changed. -/
  | fixed (name : String)

/-- Evaluates something in the state of a shell. -/
abbrev ArithEval (α : Type) : Type := StateT ShellState (Except ArithFault) α

/-- What a message says about an expression. -/
def wrongMessage (expr message shown : Str) : Str :=
  expr.dropWhile (fun c => c == ' ' || c == '\t') ++ ": ".toList ++ message ++ " (error token is \"".toList ++ shown ++ "\")".toList

/-- A number as a truth value. -/
def truth (b : Bool) : Int := if b then 1 else 0

/-- A power of a number, by squaring. -/
def wrappedPower : Nat → Int → Nat → Int
  | 0, _, _ => 1
  | fuel + 1, base, n =>
    if n = 0 then 1
    else
      let half := wrappedPower fuel (wrap (base * base)) (n / 2)
      if n % 2 = 1 then wrap (base * half) else half

/-- The 64 bits of a number. -/
def word64 (n : Int) : Nat := (n % 18446744073709551616).toNat

/-- What an operator makes of two numbers, or the message about it. -/
def combine (op : String) (a b : Int) : Except Str Int :=
  match op with
  | "+" => .ok (wrap (a + b))
  | "-" => .ok (wrap (a - b))
  | "*" => .ok (wrap (a * b))
  | "/" => if b = 0 then .error "division by 0".toList else .ok (wrap (a.tdiv b))
  | "%" => if b = 0 then .error "division by 0".toList else .ok (a.tmod b)
  | "**" => if b < 0 then .error "exponent less than 0".toList else .ok (wrappedPower 64 a b.toNat)
  | "<<" => .ok (wrap (a * 2 ^ (word64 b % 64)))
  | ">>" => .ok (a.fdiv (2 ^ (word64 b % 64)))
  | "<" => .ok (truth (a < b))
  | ">" => .ok (truth (b < a))
  | "<=" => .ok (truth (a ≤ b))
  | ">=" => .ok (truth (b ≤ a))
  | "==" => .ok (truth (a == b))
  | "!=" => .ok (truth (a != b))
  | "&" => .ok (wrap (word64 a &&& word64 b))
  | "|" => .ok (wrap (word64 a ||| word64 b))
  | "^" => .ok (wrap (word64 a ^^^ word64 b))
  | _ => .ok b

namespace ArithEval

/-- A failure. -/
def fault {α : Type} (f : ArithFault) : ArithEval α := fun _ => .error f

section

variable (expr : Str) (evalText : Str → ArithEval Int)

/-- Which element is meant. -/
def keyOf (v : VariableRef) : ArithEval (Option Key) := do
  match v.key with
  | none => return none
  | some text =>
    match (← get).value v.name with
    | .keyed _ => return some (.name (text.filter fun c => c != '"' && c != '\x27'))
    | _ => return some (.index (← evalText text))

/-- The value of a variable. -/
def readVariable (v : VariableRef) : ArithEval Int := do
  let key ← keyOf evalText v
  let s ← get
  let text := match key with
    | none => (s.value v.name).text?
    | some k => (s.value v.name).element? k
  set (s.looked v.name)
  match text with
  | some t => evalText t
  | none => if s.options.nounset then fault (.unbound v.name) else return 0

/-- Give a variable a value. -/
def writeVariable (v : VariableRef) (n : Int) : ArithEval Unit := do
  if (← get).isFixed v.name then fault (.fixed v.name)
  else
    let key ← keyOf evalText v
    modify fun s => s.assign v.name key (showInt n)

/-- What an operator makes of two numbers. -/
def combined (op : String) (a b : Int) (shown : Str) : ArithEval Int :=
  match combine op a b with
  | .ok n => return n
  | .error message => fault (.wrong (wrongMessage expr message shown))

/-- The value of a tree. -/
def tree : Arith → ArithEval Int
  | .number n => return n
  | .read v => readVariable evalText v
  | .unary op a => do
    let n ← tree a
    return if op = '!' then truth (n == 0) else if op = '~' then wrap (-n - 1) else wrap (-n)
  | .binary op a b shown => do
    let m ← tree a
    if op = "&&" then
      if m = 0 then return 0 else return truth ((← tree b) != 0)
    else if op = "||" then
      if m = 0 then return truth ((← tree b) != 0) else return 1
    else
      let n ← tree b
      combined expr op m n shown
  | .choice test a b => do
    if (← tree test) = 0 then tree b else tree a
  | .assign how v value shown => do
    let n ← match how with
      | none => tree value
      | some op => do
        let old ← readVariable evalText v
        let new ← tree value
        combined expr op old new shown
    writeVariable evalText v n
    return n
  | .count up before v => do
    let old ← readVariable evalText v
    let new := wrap (if up then old + 1 else old - 1)
    writeVariable evalText v new
    return if before then new else old

end

/-- The value of an expression in which variables nest at most so deep. -/
def text : Nat → Str → ArithEval Int
  | 0, s => fault (.wrong (wrongMessage s "expression recursion level exceeded".toList s))
  | depth + 1, s =>
    match Arith.read? s with
    | .error (message, shown) => fault (.wrong (wrongMessage s message shown))
    | .ok t => tree s (text depth) t

end ArithEval

/-- The value of an expression in a state, and the state after it. -/
def ShellState.evaluate (s : ShellState) (expr : Str) : Except ArithFault (Int × ShellState) :=
  ArithEval.text ArithParse.maxDepth expr s

end FuzzCampaign.Shell
