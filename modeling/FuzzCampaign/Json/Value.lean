import FuzzCampaign.Number.Decimal
import FuzzCampaign.Ordered
set_option autoImplicit false

/-! # JSON values

Free JSON as models and orchestrators exchange it. Integers from `-2 ^ 63` to below `2 ^ 64` are kept
exactly, every other number is a finite binary64. The members of an object are in the order of their
names. -/

namespace FuzzCampaign

/-- An integer that a message can hold exactly. -/
structure WireInt where
  val : Int
  lower : -2 ^ 63 ≤ val
  upper : val < 2 ^ 64
deriving DecidableEq, Repr

/-- The integer as a wire integer, when it is in range. -/
def WireInt.ofInt? (n : Int) : Option WireInt :=
  if h : -2 ^ 63 ≤ n ∧ n < 2 ^ 64 then some ⟨n, h.1, h.2⟩ else none

/-- A natural number below `2 ^ 64`. -/
def WireInt.ofUInt64 (n : UInt64) : WireInt :=
  ⟨n.toNat, by have := n.toNat_lt; omega, by have := n.toNat_lt; omega⟩

/-- An integer of 64 bits. -/
def WireInt.ofInt64 (n : Int64) : WireInt :=
  ⟨n.toInt, n.le_toInt, by have := n.toInt_lt; omega⟩

/-- Free JSON. -/
inductive Json where
  | null
  | bool (value : Bool)
  | int (value : WireInt)
  | float (value : Binary64)
  | str (value : String)
  | arr (items : List Json)
  | obj (members : List (String × Json))
deriving Repr, Inhabited

namespace Json

/-- A natural number below `2 ^ 32`. -/
def ofUInt32 (n : UInt32) : Json := .int (.ofUInt64 n.toUInt64)

/-- A natural number below `2 ^ 64`. -/
def ofUInt64 (n : UInt64) : Json := .int (.ofUInt64 n)

/-- Bytes as a list of numbers. -/
def ofBytes (bytes : List UInt8) : Json := .arr (bytes.map fun b => .int (.ofUInt64 b.toUInt64))

/-- Texts as a list. -/
def ofTexts (texts : List String) : Json := .arr (texts.map .str)

/-! ## Printing

One line without blanks. Quotes, backslashes and control characters are escaped, the five that have
a short escape with it; everything else stands for itself. -/

/-- A control character as an escape of four digits. -/
def escapeCode (n : Nat) : List Char :=
  let digit (d : Nat) : Char := if d < 10 then Char.ofNat (48 + d) else Char.ofNat (87 + d)
  ['\\', 'u', '0', '0', digit (n / 16), digit (n % 16)]

/-- A character inside a string. -/
def escapeChar (c : Char) : List Char :=
  if c = '"' then ['\\', '"']
  else if c = '\\' then ['\\', '\\']
  else if c = '\n' then ['\\', 'n']
  else if c = '\r' then ['\\', 'r']
  else if c = '\t' then ['\\', 't']
  else if c.toNat = 8 then ['\\', 'b']
  else if c.toNat = 12 then ['\\', 'f']
  else if c.toNat < 32 then escapeCode c.toNat
  else [c]

/-- A string between quotes. -/
def printText (text : String) : List Char := '"' :: text.toList.flatMap escapeChar ++ ['"']

mutual

/-- The text of a value. -/
def print : Json → List Char
  | .null => "null".toList
  | .bool true => "true".toList
  | .bool false => "false".toList
  | .int n => Decimal.ofInt n.val
  | .float x => x.toChars
  | .str s => printText s
  | .arr items => '[' :: printItems items
  | .obj members => '\x7b' :: printMembers members

/-- Elements and the closing bracket. -/
def printItems : List Json → List Char
  | [] => [']']
  | [item] => item.print ++ [']']
  | item :: rest => item.print ++ ',' :: printItems rest

/-- Members and the closing brace. -/
def printMembers : List (String × Json) → List Char
  | [] => ['\x7d']
  | [(key, value)] => printText key ++ ':' :: value.print ++ ['\x7d']
  | (key, value) :: rest => printText key ++ ':' :: value.print ++ ',' :: printMembers rest

end

/-- The text of a value. -/
def render (value : Json) : String := String.ofList value.print

/-! ## Structure -/

mutual

/-- The number of containers around the innermost value. -/
def depth : Json → Nat
  | .arr items => depthItems items + 1
  | .obj members => depthMembers members + 1
  | _ => 0

/-- The greatest depth of the elements. -/
def depthItems : List Json → Nat
  | [] => 0
  | item :: rest => max item.depth (depthItems rest)

/-- The greatest depth of the members. -/
def depthMembers : List (String × Json) → Nat
  | [] => 0
  | (_, value) :: rest => max value.depth (depthMembers rest)

end

mutual

/-- The same value: floats are compared by value, everything else exactly. -/
def same : Json → Json → Bool
  | .null, .null => true
  | .bool a, .bool b => a == b
  | .int a, .int b => a == b
  | .float a, .float b => a.same b
  | .str a, .str b => a == b
  | .arr a, .arr b => sameItems a b
  | .obj a, .obj b => sameMembers a b
  | _, _ => false

/-- Elements pairwise the same. -/
def sameItems : List Json → List Json → Bool
  | [], [] => true
  | a :: as, b :: bs => same a b && sameItems as bs
  | _, _ => false

/-- Members pairwise the same. -/
def sameMembers : List (String × Json) → List (String × Json) → Bool
  | [], [] => true
  | (k, a) :: as, (l, b) :: bs => k == l && same a b && sameMembers as bs
  | _, _ => false

end

end Json

end FuzzCampaign
