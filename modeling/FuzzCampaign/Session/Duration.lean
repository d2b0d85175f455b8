import FuzzCampaign.Number.Decimal
set_option autoImplicit false

/-! # Durations

The text of a duration: its largest unit among seconds, milliseconds, microseconds and nanoseconds, with
as many decimals as it needs. -/

namespace FuzzCampaign.Duration

/-- Without zeros at the end. -/
def dropZeros (digits : List Char) : List Char := (digits.reverse.dropWhile (· == '0')).reverse

/-- `nanos` in units of `10 ^ places` nanoseconds. -/
def inUnit (nanos places : Nat) (unit : String) : String :=
  let decimals := dropZeros (Decimal.padded places (nanos % 10 ^ places))
  String.ofList (Decimal.ofNat (nanos / 10 ^ places) ++
    (if nanos % 10 ^ places = 0 then [] else '.' :: decimals) ++ unit.toList)

/-- The text of a duration in nanoseconds. -/
def text (nanos : Nat) : String :=
  if 10 ^ 9 ≤ nanos then inUnit nanos 9 "s"
  else if 10 ^ 6 ≤ nanos then inUnit nanos 6 "ms"
  else if 10 ^ 3 ≤ nanos then inUnit nanos 3 "µs"
  else inUnit nanos 0 "ns"

end FuzzCampaign.Duration
