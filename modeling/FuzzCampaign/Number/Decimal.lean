import FuzzCampaign.Number.Binary64
set_option autoImplicit false

/-! # Decimal text of numbers

Naturals and integers in decimal, and the text of a finite binary64 number: the fewest significant
digits that round back to it, of those the ones nearest to it, laid out positionally for moderate
exponents and with a power of ten otherwise. -/

namespace FuzzCampaign

namespace Decimal

/-! ## Naturals and integers -/

/-- The character of a digit below ten. -/
def digitChar (d : Nat) : Char := Char.ofNat (48 + d)

/-- The value of a decimal digit. -/
def digitValue? (c : Char) : Option Nat :=
  if c.isDigit then some (c.toNat - 48) else none

/-- The decimal digits of a natural number, without leading zeros. -/
def ofNat (n : Nat) : List Char :=
  if n < 10 then [digitChar n] else ofNat (n / 10) ++ [digitChar (n % 10)]
termination_by n

/-- The decimal digits of an integer, with a minus sign when it is negative. -/
def ofInt (n : Int) : List Char :=
  if n < 0 then '-' :: ofNat n.natAbs else ofNat n.natAbs

/-- The number that digits stand for, read after a number already read. -/
def valueFrom (start : Nat) (digits : List Char) : Nat :=
  digits.foldl (fun n c => 10 * n + (c.toNat - 48)) start

/-- `n` in decimal with at least `width` digits. -/
def padded (width n : Nat) : List Char :=
  let digits := ofNat n
  List.replicate (width - digits.length) '0' ++ digits

end Decimal

namespace Binary64

/-! ## Shortest digits -/

/-- Digits and the power of ten of the last of them. -/
structure Digits where
  value : Nat
  exponent : Int
deriving DecidableEq, Repr

/-- Compare `a / b` with `c / d`. -/
def compareRatio (a b c d : Nat) : Ordering := compare (a * d) (c * b)

/-- `value * 10 ^ exponent` as a quotient. -/
def Digits.ratio (d : Digits) : Nat × Nat :=
  if 0 ≤ d.exponent then (d.value * 10 ^ d.exponent.toNat, 1)
  else (d.value, 10 ^ (-d.exponent).toNat)

/-- Whether a decimal lies among the reals that round to the positive finite number `x`. The ends of
that interval are half-way points and belong to it when the significand of `x` is even. Below a power
of two the neighbour is only half as far. -/
def roundsTo (x : Binary64) (d : Digits) : Bool :=
  let m := x.significand
  let (a, b) := d.ratio
  let low := if x.fraction = 0 ∧ 1 < x.exponentField then 4 * m - 1 else 4 * m - 2
  let (up, down) := if 2 ≤ x.scale then (2 ^ (x.scale - 2).toNat, 1) else (1, 2 ^ (2 - x.scale).toNat)
  let fromLow := compareRatio (low * up) down a b
  let fromHigh := compareRatio a b ((4 * m + 2) * up) down
  if m % 2 = 0 then fromLow != .gt && fromHigh != .gt else fromLow == .lt && fromHigh == .lt

/-- Without trailing zeros. -/
def Digits.trim (value : Nat) (exponent : Int) : Digits :=
  if value = 0 then ⟨0, 0⟩
  else if value % 10 = 0 then Digits.trim (value / 10) (exponent + 1)
  else ⟨value, exponent⟩
termination_by value

/-- The largest `k` with `10 ^ k ≤ num / den`, at most `fuel` steps above or below `start`. -/
def decadeFrom (num den : Nat) : Nat → Int → Int
  | 0, k => k
  | fuel + 1, k =>
    let reaches (j : Int) : Bool :=
      if 0 ≤ j then den * 10 ^ j.toNat ≤ num else den ≤ num * 10 ^ (-j).toNat
    if !reaches k then decadeFrom num den fuel (k - 1)
    else if reaches (k + 1) then decadeFrom num den fuel (k + 1)
    else k

/-- The largest `k` with `10 ^ k ≤ num / den`, for a positive quotient. -/
def decade (num den : Nat) : Int :=
  decadeFrom num den 400 ((((num.log2 : Int) - den.log2) * 30103) / 100000)

/-- The two multiples of `10 ^ exponent` around `x`, and which of them round to it: the nearer one
when both do, the even one at the same distance. -/
def onGrid? (x : Binary64) (exponent : Int) : Option Digits :=
  let (num, den) := x.ratio
  let (top, bottom) := if 0 ≤ exponent then (num, den * 10 ^ exponent.toNat)
    else (num * 10 ^ (-exponent).toNat, den)
  let below : Digits := ⟨top / bottom, exponent⟩
  let above : Digits := ⟨top / bottom + 1, exponent⟩
  match below.value != 0 && roundsTo x below, roundsTo x above with
  | true, true =>
    if roundDiv top bottom = below.value then some below else some above
  | true, false => some below
  | false, true => some above
  | false, false => none

/-- The first grid, from coarse to fine, that holds a decimal rounding to `x`. -/
def shortestFrom (x : Binary64) : Nat → Int → Digits
  | 0, k => ((onGrid? x k).getD ⟨0, 0⟩)
  | fuel + 1, k =>
    match onGrid? x k with
    | some d => d
    | none => shortestFrom x fuel (k - 1)

/-- The fewest digits that round to the finite number `x`, sign aside. -/
def shortest (x : Binary64) : Digits :=
  if x.isZero then ⟨0, 0⟩
  else
    let (num, den) := x.ratio
    let found := shortestFrom x 17 (decade num den)
    Digits.trim found.value found.exponent

/-! ## Layout -/

/-- How decimal digits are laid out. -/
structure Layout where
  /-- Smallest decimal exponent written positionally. -/
  lowest : Int
  /-- Largest decimal exponent written positionally. -/
  highest : Int
  /-- Sign before a positive power of ten. -/
  plus : List Char
deriving DecidableEq, Repr

/-- Numbers in messages are positional from `10 ^ -5` to below `10 ^ 16`; a power of ten has a sign. -/
def Layout.json : Layout := ⟨-5, 15, ['+']⟩

/-- The text of `digits * 10 ^ exponent`. A positional text always has a point. -/
def Layout.apply (layout : Layout) (d : Digits) : List Char :=
  let digits := Decimal.ofNat d.value
  let count : Int := digits.length
  let leading := d.exponent + count - 1
  if leading < layout.lowest ∨ layout.highest < leading then
    let tail := digits.drop 1
    let power := if leading < 0 then '-' :: Decimal.ofNat leading.natAbs
      else layout.plus ++ Decimal.ofNat leading.natAbs
    digits.take 1 ++ (if tail.isEmpty then [] else '.' :: tail) ++ 'e' :: power
  else if 0 ≤ d.exponent then
    digits ++ List.replicate d.exponent.toNat '0' ++ ['.', '0']
  else if 0 ≤ leading then
    let whole := (leading + 1).toNat
    digits.take whole ++ '.' :: digits.drop whole
  else
    '0' :: '.' :: List.replicate (-leading - 1).toNat '0' ++ digits

/-- The text of a finite number. -/
def toChars (x : Binary64) : List Char :=
  let text := Layout.json.apply x.shortest
  if x.negative then '-' :: text else text

/-- The text of any number: `NaN`, `inf` and `-inf` besides the finite ones. -/
def display (x : Binary64) : String :=
  if x.isNaN then "NaN"
  else if x.isInfinite then (if x.negative then "-inf" else "inf")
  else String.ofList x.toChars

end Binary64

end FuzzCampaign
