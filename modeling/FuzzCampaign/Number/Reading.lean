import FuzzCampaign.Number.Decimal
set_option autoImplicit false

/-! # Reading numbers

Decimal text as an integer of limited size, or as the nearest number in binary, with the words for what is no
number and for infinity. -/

namespace FuzzCampaign

/-- A decimal integer of 32 bits, with an optional sign. -/
def Decimal.int32? (cs : List Char) : Option Int :=
  let (negative, digits) := match cs with
    | '-' :: rest => (true, rest)
    | '+' :: rest => (false, rest)
    | _ => (false, cs)
  if digits.isEmpty || !digits.all Char.isDigit then none
  else
    let magnitude : Nat := digits.foldl (fun n c => min (10 * n + (c.toNat - 48)) (2 ^ 40)) 0
    let n : Int := if negative then -magnitude else magnitude
    if -2 ^ 31 ≤ n ∧ n < 2 ^ 31 then some n else none

namespace Binary64

/-- The digits at the front of a text, and the rest. -/
def takeDigits (cs : List Char) : List Char × List Char := (cs.takeWhile Char.isDigit, cs.dropWhile Char.isDigit)

/-- The power of ten behind an `e`, zero without one. -/
def powerOf : List Char → Int
  | 'e' :: '-' :: digits => -(Decimal.valueFrom 0 digits)
  | 'e' :: '+' :: digits => Decimal.valueFrom 0 digits
  | 'e' :: digits => Decimal.valueFrom 0 digits
  | _ => 0

/-- The number that a text without a sign, in small letters, stands for. -/
def ofUnsigned (negative : Bool) (cs : List Char) : Binary64 :=
  if cs = "nan".toList then .nan
  else if cs = "inf".toList ∨ cs = "infinity".toList then .infinity negative
  else
    let (whole, rest) := takeDigits cs
    let (places, rest) := match rest with
      | '.' :: rest => takeDigits rest
      | _ => ([], rest)
    .ofDecimal negative (Decimal.valueFrom 0 (whole ++ places)) (powerOf rest - places.length)

/-- The number that a text stands for. -/
def ofText (text : String) : Binary64 :=
  match text.toList.map Char.toLower with
  | '-' :: cs => ofUnsigned true cs
  | '+' :: cs => ofUnsigned false cs
  | cs => ofUnsigned false cs

end Binary64

end FuzzCampaign
