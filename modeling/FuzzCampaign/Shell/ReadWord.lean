import FuzzCampaign.Json.Term
import FuzzCampaign.Shell.Source
set_option autoImplicit false

/-! # Reading shell programs: words

A word is a sequence of pieces up to a character that separates words. The reader of commands is a
parameter, because the output of commands may stand in a word. -/

namespace FuzzCampaign.Shell

open Parse

/-- How the text around a piece is quoted. -/
inductive Quoting where
  | bare
  /-- Between double quotes. -/
  | double
  /-- In a here-document, where double quotes are nothing special. -/
  | here
deriving DecidableEq

/-- Where a sequence of pieces stands. -/
structure Place where
  quoting : Quoting := .bare
  /-- The characters before which it ends. -/
  stop : Char → Bool
  /-- Whether it stands between braces. -/
  braced : Bool := false

/-- Whether pieces of a place count as quoted. -/
def Place.quotes (p : Place) : Bool := p.quoting != .bare

/-- A character of a place, as a piece. -/
def Place.literal (p : Place) (c : Char) : Part := if p.quotes then .quoted [c] else .plain [c]

/-- Put a piece in front, joining literal text. -/
def joinPart (p : Part) (rest : List Part) : List Part :=
  match p, rest with
  | .plain a, .plain b :: rest => .plain (a ++ b) :: rest
  | .quoted a, .quoted b :: rest => .quoted (a ++ b) :: rest
  | p, rest => p :: rest

/-- Pieces with neighbouring literal text joined. -/
def joinParts (parts : List Part) : List Part := parts.foldr joinPart []

/-! ## Escapes of dollar quotes -/

/-- The value of up to `width` digits of a base, and how many there are. -/
def digitsValue (base width : Nat) (s : Str) : Nat × Nat :=
  let digits := (s.take width).takeWhile fun c =>
    match Json.hexValue? c with
    | some d => d < base
    | none => false
  (digits.foldl (fun n c => base * n + (Json.hexValue? c).getD 0) 0, digits.length)

/-- The bytes of a character given by its number. -/
def charBytes (n : Nat) : Str := Str.ofString (String.singleton (Char.ofNat n))

/-- The meaning of an escape after its backslash, as `echo -e`, `printf` and dollar quotes have it, and
how many characters it takes. -/
def escapeText (s : Str) : Str × Nat :=
  match s with
  | [] => (['\\'], 0)
  | 'a' :: _ => ([Char.ofNat 7], 1)
  | 'b' :: _ => ([Char.ofNat 8], 1)
  | 'e' :: _ => ([Char.ofNat 27], 1)
  | 'E' :: _ => ([Char.ofNat 27], 1)
  | 'f' :: _ => ([Char.ofNat 12], 1)
  | 'n' :: _ => (['\n'], 1)
  | 'r' :: _ => (['\r'], 1)
  | 't' :: _ => (['\t'], 1)
  | 'v' :: _ => ([Char.ofNat 11], 1)
  | '\\' :: _ => (['\\'], 1)
  | '\x27' :: _ => (['\x27'], 1)
  | '"' :: _ => (['"'], 1)
  | '?' :: _ => (['?'], 1)
  | 'x' :: rest =>
    let (n, k) := digitsValue 16 2 rest
    if k = 0 then (['\\', 'x'], 1) else ([Char.ofNat n], k + 1)
  | 'u' :: rest =>
    let (n, k) := digitsValue 16 4 rest
    if k = 0 then (['\\', 'u'], 1) else (charBytes n, k + 1)
  | 'U' :: rest =>
    let (n, k) := digitsValue 16 8 rest
    if k = 0 then (['\\', 'U'], 1) else (charBytes n, k + 1)
  | c :: _ =>
    let (n, k) := digitsValue 8 3 s
    if k = 0 then (['\\', c], 1) else ([Char.ofNat (n % 256)], k)

/-- The text between dollar quotes, after the opening quote, and the source after the closing one. -/
def dollarQuoted : Nat → Str → Parse Str
  | 0, _ => fault (.unclosed ['\x27'])
  | fuel + 1, found => do
    match ← rest with
    | [] => fault (.unclosed ['\x27'])
    | '\x27' :: _ => drop 1; return found
    | '\\' :: 'c' :: c :: _ => drop 3; dollarQuoted fuel (found ++ [Char.ofNat (c.toNat % 32)])
    | '\\' :: more =>
      let (text, size) := escapeText more
      drop (size + 1)
      dollarQuoted fuel (found ++ text)
    | c :: _ => drop 1; dollarQuoted fuel (found ++ [c])

/-! ## Back quotes -/

/-- The commands between back quotes, after the opening one: a backslash only matters before another
backslash, a dollar or a back quote, and before a double quote between double quotes. -/
def backQuoted (inDouble : Bool) : Nat → Str → Parse Str
  | 0, _ => fault (.unclosed ['\x60'])
  | fuel + 1, found => do
    match ← rest with
    | [] => fault (.unclosed ['\x60'])
    | '\x60' :: _ => drop 1; return found
    | '\\' :: c :: _ =>
      drop 2
      if c = '\\' ∨ c = '$' ∨ c = '\x60' ∨ (inDouble ∧ c = '"') then backQuoted inDouble fuel (found ++ [c])
      else backQuoted inDouble fuel (found ++ ['\\', c])
    | c :: _ => drop 1; backQuoted inDouble fuel (found ++ [c])

/-! ## Pieces -/

/-- Parameters whose names are single characters that do not begin a name. -/
def isSpecialParam (c : Char) : Bool :=
  c == '@' || c == '*' || c == '#' || c == '?' || c == '-' || c == '$' || c == '!'

/-- The name of a parameter between braces. -/
def paramName : Parse String := do
  match ← peek with
  | some c =>
    if isNameStart c then return String.ofList (← takeWhile isNameChar)
    else if c.isDigit then return String.ofList (← takeWhile Char.isDigit)
    else if isSpecialParam c then drop 1; return String.singleton c
    else return ""
  | none => return ""

/-- The closing brace of a parameter; without it the parameter is malformed. -/
def closeBrace (op : ParamOp) : Parse (Option ParamOp) := do
  if ← accept "\x7d" then return some op else return none

section

/-- The readers that words are read with. -/
structure WordReaders where
  /-- Reads pieces in a place. -/
  parts : Place → Parse (List Part)
  /-- Reads commands up to a closing parenthesis, which is not read. -/
  commands : Parse (List Command)

variable (readers : WordReaders)

/-- Pieces between braces, up to a character. -/
def braced (quoting : Quoting) (stop : Char → Bool) : Parse (List Part) :=
  readers.parts { quoting, stop := fun c => c == '\x7d' || stop c, braced := true }

/-- A subscript, when there is one. -/
def subscript : Parse Subscript := do
  match ← rest with
  | '[' :: '@' :: ']' :: _ => drop 3; return .each
  | '[' :: '*' :: ']' :: _ => drop 3; return .joined
  | '[' :: _ =>
    drop 1
    let expr ← readers.parts { stop := (· == ']'), braced := true }
    if ← accept "]" then return .at expr else fault (.unclosed [']'])
  | _ => return .absent

/-- What follows the name of a parameter between braces, with the closing brace. -/
def paramOp (quoting : Quoting) : Parse (Option ParamOp) := do
  match ← rest with
  | '\x7d' :: _ => closeBrace .value
  | ':' :: kind :: _ =>
    if kind = '-' ∨ kind = '=' ∨ kind = '?' ∨ kind = '+' then
      drop 2
      closeBrace (.fallback true kind (← braced readers quoting fun _ => false))
    else
      drop 1
      let offset ← braced readers .double (· == ':')
      if ← accept ":" then closeBrace (.slice offset (← braced readers .double fun _ => false))
      else closeBrace (.dropTo offset)
  | '#' :: '#' :: _ => drop 2; closeBrace (.trim false true (← braced readers .bare fun _ => false))
  | '#' :: _ => drop 1; closeBrace (.trim false false (← braced readers .bare fun _ => false))
  | '%' :: '%' :: _ => drop 2; closeBrace (.trim true true (← braced readers .bare fun _ => false))
  | '%' :: _ => drop 1; closeBrace (.trim true false (← braced readers .bare fun _ => false))
  | '/' :: next :: _ =>
    let which := if next = '/' then 'a' else if next = '#' ∨ next = '%' then next else '/'
    drop (if which = '/' then 1 else 2)
    let pattern ← braced readers .bare (· == '/')
    if ← accept "/" then closeBrace (.replace which pattern (← braced readers .bare fun _ => false))
    else closeBrace (.replace which pattern [])
  | '^' :: '^' :: _ => drop 2; closeBrace (.recase true true (← braced readers .bare fun _ => false))
  | '^' :: _ => drop 1; closeBrace (.recase true false (← braced readers .bare fun _ => false))
  | ',' :: ',' :: _ => drop 2; closeBrace (.recase false true (← braced readers .bare fun _ => false))
  | ',' :: _ => drop 1; closeBrace (.recase false false (← braced readers .bare fun _ => false))
  | '@' :: kind :: _ => drop 2; closeBrace (.transform kind)
  | kind :: _ =>
    if kind = '-' ∨ kind = '=' ∨ kind = '?' ∨ kind = '+' then
      drop 1
      closeBrace (.fallback false kind (← braced readers quoting fun _ => false))
    else return none
  | [] => return none

/-- A parameter between braces, after the opening one. -/
def bracedParam (quoting : Quoting) : Parse (Option Param) := do
  match ← rest with
  | '#' :: '\x7d' :: _ => drop 2; return some (.mk "#" .absent false .value)
  | '#' :: c :: _ =>
    if isNameStart c || c.isDigit || isSpecialParam c then
      let measured ← tryParse do
        drop 1
        let name ← paramName
        let index ← subscript readers
        match ← closeBrace .length with
        | some op => return Param.mk name index false op
        | none => fault .endOfFile
      match measured with
      | some p => return some p
      | none =>
        drop 1
        return (← paramOp readers quoting).map fun op => .mk "#" .absent false op
    else
      drop 1
      return (← paramOp readers quoting).map fun op => .mk "#" .absent false op
  | '!' :: c :: _ =>
    if isNameStart c || c.isDigit then
      drop 1
      let name ← paramName
      match ← rest with
      | '@' :: '\x7d' :: _ => drop 2; return some (.mk name .absent false (.names false))
      | '*' :: '\x7d' :: _ => drop 2; return some (.mk name .absent false (.names true))
      | '[' :: '@' :: ']' :: '\x7d' :: _ => drop 4; return some (.mk name .each false (.names false))
      | '[' :: '*' :: ']' :: '\x7d' :: _ => drop 4; return some (.mk name .joined false (.names true))
      | _ =>
        let index ← subscript readers
        return (← paramOp readers quoting).map fun op => .mk name index true op
    else
      drop 1
      return (← paramOp readers quoting).map fun op => .mk "!" .absent false op
  | _ =>
    let name ← paramName
    if name.isEmpty then return none
    else
      let index ← subscript readers
      return (← paramOp readers quoting).map fun op => .mk name index false op

/-- A parameter between braces, or what is written there in its place. -/
def bracedPart (place : Place) : Parse Part := do
  let start ← get
  drop 2
  match ← tryParse (bracedParam readers place.quoting) with
  | some (some p) => return .param p place.quotes
  | _ =>
    set start
    drop 2
    let _ ← readers.parts { quoting := place.quoting, stop := (· == '\x7d'), braced := true }
    if ← accept "\x7d" then
      return .param (.mk "" .absent false (.malformed (between start (← get)))) place.quotes
    else faultAt start.line (.unclosed ['\x7d'])

/-- An arithmetic expression up to two closing parentheses; parentheses inside come in pairs. -/
def arithText : Nat → Nat → List Part → Parse (Option (List Part))
  | 0, _, _ => return none
  | fuel + 1, depth, found => do
    let piece ← readers.parts { quoting := .double, stop := fun c => c == '(' || c == ')' }
    let found := found ++ piece
    match ← rest with
    | '(' :: _ => drop 1; arithText fuel (depth + 1) (found ++ [.quoted ['(']])
    | ')' :: ')' :: _ =>
      if depth = 0 then drop 2; return some found
      else drop 1; arithText fuel (depth - 1) (found ++ [.quoted [')']])
    | ')' :: _ =>
      if depth = 0 then return none
      else drop 1; arithText fuel (depth - 1) (found ++ [.quoted [')']])
    | _ => return none

/-- The output of commands, after the dollar and the opening parenthesis. -/
def outputPart (place : Place) : Parse Part := do
  drop 2
  blankLines
  let start ← line
  let body ← readers.commands
  blankLines
  match ← peek with
  | some ')' => drop 1; return .output start body place.quotes
  | _ => fault (.unclosed [')'])

/-- A piece that begins with a dollar. -/
def dollarPart (place : Place) : Parse Part := do
  let start ← get
  match start.rest with
  | '$' :: '(' :: '(' :: _ =>
    drop 3
    match ← arithText readers start.rest.length 0 [] with
    | some expr => return .arith (joinParts expr) place.quotes
    | none =>
      set start
      match ← tryParse (outputPart readers place) with
      | some part => return part
      | none => faultAt start.line (.unclosed [')'])
  | '$' :: '(' :: _ => outputPart readers place
  | '$' :: '\x7b' :: _ => bracedPart readers place
  | '$' :: '\x27' :: _ =>
    if place.quotes then drop 1; return .quoted ['$']
    else
      drop 2
      return .quoted (← dollarQuoted (start.rest.length + 1) [])
  | '$' :: '"' :: _ =>
    drop 1
    if place.quotes then return .quoted ['$'] else return .plain []
  | '$' :: c :: _ =>
    if isNameStart c then
      drop 1
      return .param (.mk (String.ofList (← takeWhile isNameChar)) .absent false .value) place.quotes
    else if c.isDigit || isSpecialParam c then
      drop 2
      return .param (.mk (String.singleton c) .absent false .value) place.quotes
    else drop 1; return place.literal '$'
  | _ => drop 1; return place.literal '$'

/-- The text between single quotes. -/
def singleQuoted : Parse Part := do
  let start ← get
  drop 1
  let text ← takeWhile (· != '\x27')
  if ← accept "'" then return .quoted text
  else faultAt start.line (.unclosed ['\x27'])

/-- The pieces between double quotes. -/
def doubleQuoted : Parse (List Part) := do
  let start ← get
  drop 1
  let inner ← readers.parts { quoting := .double, stop := (· == '"') }
  if ← accept "\"" then return if inner.isEmpty then [.quoted []] else inner
  else faultAt start.line (.unclosed ['"'])

/-- A piece that begins with a backslash. -/
def escapedPart (place : Place) : Parse (List Part) := do
  match ← rest with
  | '\\' :: '\n' :: _ => drop 2; return []
  | '\\' :: c :: _ =>
    drop 2
    if !place.quotes then return [.quoted [c]]
    else if c = '$' ∨ c = '\x60' ∨ c = '\\' ∨ (c = '"' ∧ place.quoting ≠ .here) ∨ (c = '\x7d' ∧ place.braced) then
      return [.quoted [c]]
    else return [.quoted ['\\', c]]
  | _ => drop 1; return [place.literal '\\']

/-- The output of commands between back quotes; `parse` reads the commands. -/
def backQuotedPart (place : Place) : Parse Part := do
  let start ← get
  drop 1
  let text ← fun src =>
    match backQuoted (place.quoting = .double) (start.rest.length + 1) [] src with
    | .error e => .error { e with line := start.line }
    | ok => ok
  match readers.commands { rest := text ++ [')'], line := start.line } with
  | .ok (body, _) => return .output start.line body place.quotes
  | .error e => fun _ => .error e

/-- The next pieces of a place, up to where it ends. -/
def nextParts (place : Place) : Parse (Option (List Part)) := do
  match ← peek with
  | none => return none
  | some c =>
    if place.stop c then return none
    else if c = '\\' then return some (← escapedPart place)
    else if c = '$' then return some [← dollarPart readers place]
    else if c = '\x60' then return some [← backQuotedPart readers place]
    else if c = '"' ∧ (place.quoting = .bare ∨ (place.quoting = .double ∧ place.braced)) then
      return some (← doubleQuoted readers)
    else if c = '\x27' ∧ place.quoting = .bare then return some [← singleQuoted]
    else drop 1; return some [place.literal c]

/-- The pieces of a place. -/
def allParts (place : Place) : Nat → List Part → Parse (List Part)
  | 0, found => return found
  | fuel + 1, found => do
    match ← nextParts readers place with
    | none => return found
    | some parts => allParts place fuel (found ++ parts)

end

/-- The readers of words whose pieces nest at most `depth` deep; `commands` reads commands. -/
def wordReaders (commands : Parse (List Command)) : Nat → WordReaders
  | 0 => { parts := fun _ => fault .endOfFile, commands }
  | depth + 1 =>
    { parts := fun place => do
        let found ← allParts (wordReaders commands depth) place ((← rest).length + 1) []
        return joinParts found
      commands }

/-- How deep the pieces of words nest at most. -/
def maxWordDepth : Nat := 200

/-- A word in a place. -/
def wordIn (commands : Parse (List Command)) (place : Place) : Parse Word := do
  let (raw, parts) ← withRaw ((wordReaders commands maxWordDepth).parts place)
  return .mk raw parts

/-- A word of a command. -/
def word (commands : Parse (List Command)) : Parse Word := wordIn commands { stop := isMeta }

end FuzzCampaign.Shell
