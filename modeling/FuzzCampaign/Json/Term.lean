import FuzzCampaign.Json.Value
set_option autoImplicit false

/-! # JSON text

Reading the text of a JSON document. The result is a term: the document as written, with every member of
an object in its place, repeated names included. What has no value, a number beyond binary64 or half of a
surrogate pair, is still a term, because a field that nobody reads may hold it. A term that is read as
free JSON (`Term.value?`) must have a value in every place; of members with one name the last counts.

A document nests at most 127 containers. -/

namespace FuzzCampaign.Json

/-- A JSON document as written. A string or a number without a value is `none`. -/
inductive Term where
  | null
  | bool (value : Bool)
  | int (value : WireInt)
  | float (value : Option Binary64)
  | str (value : Option String)
  | arr (items : List Term)
  | obj (members : List (Option String × Term))
deriving Inhabited

/-! ## Blanks -/

/-- The blanks between the tokens of a document. -/
def isSpace (c : Char) : Bool := c == ' ' || c == '\n' || c == '\t' || c == '\r'

/-- Without blanks at the front. -/
def skipSpace (cs : List Char) : List Char := cs.dropWhile isSpace

/-! ## Strings -/

/-- The value of a digit of base sixteen. -/
def hexValue? (c : Char) : Option Nat :=
  let n := c.toNat
  if 48 ≤ n ∧ n ≤ 57 then some (n - 48)
  else if 97 ≤ n ∧ n ≤ 102 then some (n - 87)
  else if 65 ≤ n ∧ n ≤ 70 then some (n - 55)
  else none

/-- The value of four digits of base sixteen. -/
def hexQuad? (a b c d : Char) : Option Nat := do
  return (((← hexValue? a) * 16 + (← hexValue? b)) * 16 + (← hexValue? c)) * 16 + (← hexValue? d)

/-- The short escapes. -/
def shortEscape? (c : Char) : Option Char :=
  if c = '"' ∨ c = '\\' ∨ c = '/' then some c
  else if c = 'b' then some (Char.ofNat 8)
  else if c = 'f' then some (Char.ofNat 12)
  else if c = 'n' then some '\n'
  else if c = 'r' then some '\r'
  else if c = 't' then some '\t'
  else none

/-- One element of a string: a character, or a code unit given by four digits. -/
inductive Unit16 where
  | char (c : Char)
  | code (n : Nat)

/-- The characters that the elements of a string stand for, given in reverse; `none` when half of a
surrogate pair stands alone. -/
def joinUnits : List Unit16 → List Char → Option (List Char)
  | [], text => some text
  | .char c :: rest, text => joinUnits rest (c :: text)
  | .code n :: rest, text =>
    if 0xDC00 ≤ n ∧ n ≤ 0xDFFF then
      match rest with
      | .code m :: before =>
        if 0xD800 ≤ m ∧ m ≤ 0xDBFF then
          joinUnits before (Char.ofNat (0x10000 + (m - 0xD800) * 0x400 + (n - 0xDC00)) :: text)
        else none
      | _ => none
    else if 0xD800 ≤ n ∧ n ≤ 0xDBFF then none
    else joinUnits rest (Char.ofNat n :: text)

/-- The elements of a string in reverse, up to the closing quote, and what follows it. -/
def readUnits : List Char → List Unit16 → Option (List Unit16 × List Char)
  | [], _ => none
  | '"' :: rest, units => some (units, rest)
  | '\\' :: 'u' :: a :: b :: c :: d :: rest, units =>
    match hexQuad? a b c d with
    | some n => readUnits rest (.code n :: units)
    | none => none
  | '\\' :: c :: rest, units =>
    match shortEscape? c with
    | some e => readUnits rest (.char e :: units)
    | none => none
  | c :: rest, units => if c.toNat < 32 then none else readUnits rest (.char c :: units)

/-- A string after its opening quote. -/
def readText (cs : List Char) : Option (Option String × List Char) :=
  match readUnits cs [] with
  | some (units, rest) => some ((joinUnits units []).map String.ofList, rest)
  | none => none

/-! ## Numbers

An integer is exact when it fits sixty-four bits. Any other number is a significand below `2 ^ 64`, whose
later digits only count as powers of ten, multiplied or divided by a power of ten in binary64. -/

/-- `x / 10 ^ places` by one division for every 308 places and one for what is left. Three divisions
take a significand below `2 ^ 64` to zero, so at most `fuel` of them matter. -/
def scaleDown : Nat → Binary64 → Nat → Binary64
  | 0, x, _ => x
  | fuel + 1, x, places =>
    if 308 < places then scaleDown fuel (x.div (.ofDecimal false 1 308)) (places - 308)
    else x.div (.ofDecimal false 1 places)

/-- `significand * 10 ^ exponent` in binary64 arithmetic; `none` beyond the largest finite number. -/
def scaled? (significand : Nat) (exponent : Int) : Option Binary64 :=
  let x := Binary64.ofRatio false significand 1
  if exponent < 0 then some (scaleDown 4 x (-exponent).toNat)
  else if 308 < exponent then (if x.isZero then some x else none)
  else
    let product := x.mul (.ofDecimal false 1 exponent)
    if product.isFinite then some product else none

/-- A number with its sign. -/
def signed (negative : Bool) (x : Binary64) : Binary64 := if negative then x.neg else x

/-- Digits taken into a significand as long as it stays below `2 ^ 64`: the significand, the number of
digits taken, the digits not taken. -/
def takeDigits : List Char → Nat → Nat → Nat × Nat × List Char
  | [], significand, taken => (significand, taken, [])
  | c :: rest, significand, taken =>
    let next := significand * 10 + (c.toNat - 48)
    if next < 2 ^ 64 then takeDigits rest next (taken + 1) else (significand, taken, c :: rest)

/-- The largest written power of ten that is told apart from greater ones. -/
def maxPower : Nat := 2 ^ 31 - 1

/-- The value of the digits of a power of ten, `none` when it is above `maxPower`. -/
def power? (digits : List Char) : Option Nat :=
  digits.foldl (fun n c => n.bind fun n =>
    let next := n * 10 + (c.toNat - 48)
    if next ≤ maxPower then some next else none) (some 0)

/-- A number from its parts: the digits before the point, those after it, and the power of ten with its
sign, the last two when they are written. -/
def ofParts (negative : Bool) (whole : List Char) (fraction : Option (List Char))
    (power : Option (Bool × List Char)) : Term :=
  let (significand, _, extra) := takeDigits whole 0 0
  if fraction.isNone ∧ power.isNone ∧ extra.isEmpty then
    if negative then
      match if significand = 0 then none else WireInt.ofInt? (-significand) with
      | some n => .int n
      | none => .float (some (signed true (.ofRatio false significand 1)))
    else
      match WireInt.ofInt? significand with
      | some n => .int n
      | none => .float none
  else
    let (significand, taken, _) := takeDigits (fraction.getD []) significand 0
    let base : Int := (extra.length : Int) - taken
    let value : Option Binary64 :=
      match power with
      | none => scaled? significand base
      | some (down, digits) =>
        match power? digits with
        | some p => scaled? significand (if down then base - p else base + p)
        | none => if significand ≠ 0 ∧ !down then none else some (.zero false)
    .float (value.map (signed negative))

/-- A number and what follows it. -/
def readNumber (cs : List Char) : Option (Term × List Char) := do
  let (negative, cs) := match cs with
    | '-' :: rest => (true, rest)
    | _ => (false, cs)
  let whole := cs.takeWhile Char.isDigit
  let cs := cs.dropWhile Char.isDigit
  match whole with
  | [] => none
  | '0' :: _ :: _ => none
  | _ => pure ()
  let (fraction, cs) ← match cs with
    | '.' :: rest =>
      let digits := rest.takeWhile Char.isDigit
      if digits.isEmpty then none else pure (some digits, rest.dropWhile Char.isDigit)
    | _ => pure (none, cs)
  let (power, cs) ← match cs with
    | c :: rest =>
      if c = 'e' ∨ c = 'E' then
        let (down, rest) := match rest with
          | '-' :: r => (true, r)
          | '+' :: r => (false, r)
          | _ => (false, rest)
        let digits := rest.takeWhile Char.isDigit
        if digits.isEmpty then none else pure (some (down, digits), rest.dropWhile Char.isDigit)
      else pure (none, cs)
    | [] => pure (none, cs)
  return (ofParts negative whole fraction power, cs)

/-! ## Documents -/

/-- The elements of a list after the first blank-free position: `read` reads one. -/
def readItems (read : List Char → Option (Term × List Char)) :
    Nat → List Char → List Term → Option (List Term × List Char)
  | 0, _, _ => none
  | fuel + 1, cs, items =>
    match read cs with
    | none => none
    | some (item, rest) =>
      match skipSpace rest with
      | ']' :: rest => some ((item :: items).reverse, rest)
      | ',' :: rest => readItems read fuel rest (item :: items)
      | _ => none

/-- The members of an object. -/
def readMembers (read : List Char → Option (Term × List Char)) :
    Nat → List Char → List (Option String × Term) → Option (List (Option String × Term) × List Char)
  | 0, _, _ => none
  | fuel + 1, cs, members =>
    match skipSpace cs with
    | '"' :: cs =>
      match readText cs with
      | none => none
      | some (key, rest) =>
        match skipSpace rest with
        | ':' :: rest =>
          match read rest with
          | none => none
          | some (value, rest) =>
            match skipSpace rest with
            | '\x7d' :: rest => some (((key, value) :: members).reverse, rest)
            | ',' :: rest => readMembers read fuel rest ((key, value) :: members)
            | _ => none
        | _ => none
    | _ => none

/-- A value that nests at most `room` containers, and what follows it. -/
def readTerm (room : Nat) (cs : List Char) : Option (Term × List Char) :=
  match skipSpace cs with
  | 'n' :: 'u' :: 'l' :: 'l' :: rest => some (.null, rest)
  | 't' :: 'r' :: 'u' :: 'e' :: rest => some (.bool true, rest)
  | 'f' :: 'a' :: 'l' :: 's' :: 'e' :: rest => some (.bool false, rest)
  | '"' :: rest => (readText rest).map fun (text, rest) => (.str text, rest)
  | '[' :: rest =>
    match room with
    | 0 => none
    | room + 1 =>
      match skipSpace rest with
      | ']' :: rest => some (.arr [], rest)
      | rest => (readItems (readTerm room) (rest.length + 1) rest []).map
          fun (items, rest) => (.arr items, rest)
  | '\x7b' :: rest =>
    match room with
    | 0 => none
    | room + 1 =>
      match skipSpace rest with
      | '\x7d' :: rest => some (.obj [], rest)
      | rest => (readMembers (readTerm room) (rest.length + 1) rest []).map
          fun (members, rest) => (.obj members, rest)
  | cs => readNumber cs

/-- The containers that a document may nest. -/
def maxDepth : Nat := 127

/-- The term of a whole document. -/
def Term.parse? (text : String) : Option Term :=
  match readTerm maxDepth text.toList with
  | some (term, rest) => if (skipSpace rest).isEmpty then some term else none
  | none => none

/-! ## Free JSON -/

mutual

/-- The value of a term, when every place has one. -/
def Term.value? : Term → Option Json
  | .null => some .null
  | .bool b => some (.bool b)
  | .int n => some (.int n)
  | .float x => x.map .float
  | .str s => s.map .str
  | .arr items => (itemValues? items).map .arr
  | .obj members => (memberValues? members).map fun ms => .obj (Entries.ofList ms)

/-- The values of elements. -/
def itemValues? : List Term → Option (List Json)
  | [] => some []
  | item :: rest =>
    match item.value?, itemValues? rest with
    | some v, some vs => some (v :: vs)
    | _, _ => none

/-- The values of members, in the order of the text. -/
def memberValues? : List (Option String × Term) → Option (List (String × Json))
  | [] => some []
  | (key, value) :: rest =>
    match key, value.value?, memberValues? rest with
    | some k, some v, some vs => some ((k, v) :: vs)
    | _, _, _ => none

end

/-- The value of a whole document. -/
def parse? (text : String) : Option Json := (Term.parse? text).bind Term.value?

end FuzzCampaign.Json
