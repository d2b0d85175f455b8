import FuzzCampaign.Number.Decimal
import FuzzCampaign.Text.Blank
set_option autoImplicit false

/-! # Timestamps

Instants in universal time, to the nanosecond. They are written as date, `T`, time, as many of three, six
or nine decimals as are needed, and `Z`. They are read with any offset; fields may be short and blanks may
stand around them. A leap second is the fifty-ninth second with a thousand million nanoseconds more. -/

namespace FuzzCampaign

namespace Calendar

/-- Leap years of the Gregorian calendar. -/
def isLeap (year : Int) : Bool := year % 4 == 0 && (year % 100 != 0 || year % 400 == 0)

/-- The days of a month. -/
def monthDays (year : Int) (month : Nat) : Nat :=
  if month = 2 then (if isLeap year then 29 else 28)
  else if month = 4 ∨ month = 6 ∨ month = 9 ∨ month = 11 then 30
  else 31

/-- A date of the proleptic calendar, and a time of day. -/
def Valid (year : Int) (month day hour minute second nanos : Nat) : Prop :=
  (-262143 ≤ year ∧ year ≤ 262142) ∧ (1 ≤ month ∧ month ≤ 12) ∧ (1 ≤ day ∧ day ≤ monthDays year month) ∧
    hour < 24 ∧ minute < 60 ∧ second < 60 ∧ nanos < 2000000000

instance (year : Int) (month day hour minute second nanos : Nat) :
    Decidable (Valid year month day hour minute second nanos) :=
  inferInstanceAs (Decidable (_ ∧ _))

/-- The day after. -/
def nextDay (year : Int) (month day : Nat) : Int × Nat × Nat :=
  if day < monthDays year month then (year, month, day + 1)
  else if month < 12 then (year, month + 1, 1)
  else (year + 1, 1, 1)

/-- The day before. -/
def previousDay (year : Int) (month day : Nat) : Int × Nat × Nat :=
  if 1 < day then (year, month, day - 1)
  else if 1 < month then (year, month - 1, monthDays year (month - 1))
  else (year - 1, 12, 31)

end Calendar

/-- An instant in universal time. -/
structure Timestamp where
  year : Int
  month : Nat
  day : Nat
  hour : Nat
  minute : Nat
  second : Nat
  nanos : Nat
  valid : Calendar.Valid year month day hour minute second nanos
deriving DecidableEq, Repr

namespace Timestamp

/-- The instant of a valid date and time. -/
def of? (year : Int) (month day hour minute second nanos : Nat) : Option Timestamp :=
  if h : Calendar.Valid year month day hour minute second nanos then
    some ⟨year, month, day, hour, minute, second, nanos, h⟩
  else none

/-! ## Writing -/

/-- Four digits, or a sign and at least four digits outside the years 0 to 9999. -/
def yearText (year : Int) : List Char :=
  if 0 ≤ year ∧ year ≤ 9999 then Decimal.padded 4 year.toNat
  else (if year < 0 then '-' else '+') :: Decimal.padded 4 year.natAbs

/-- The decimals of a second. -/
def fractionText (nanos : Nat) : List Char :=
  if nanos = 0 then []
  else if nanos % 1000000 = 0 then '.' :: Decimal.padded 3 (nanos / 1000000)
  else if nanos % 1000 = 0 then '.' :: Decimal.padded 6 (nanos / 1000)
  else '.' :: Decimal.padded 9 nanos

/-- The written form. -/
def toChars (t : Timestamp) : List Char :=
  let leap := 1000000000 ≤ t.nanos
  let second := if leap then t.second + 1 else t.second
  let nanos := if leap then t.nanos - 1000000000 else t.nanos
  yearText t.year ++ '-' :: Decimal.padded 2 t.month ++ '-' :: Decimal.padded 2 t.day ++
    'T' :: Decimal.padded 2 t.hour ++ ':' :: Decimal.padded 2 t.minute ++
    ':' :: Decimal.padded 2 second ++ fractionText nanos ++ ['Z']

/-- The written form. -/
def toText (t : Timestamp) : String := String.ofList t.toChars

/-! ## Reading -/

/-- A number of one to `width` digits. -/
def readNumber? (width : Nat) (cs : List Char) : Option (Nat × List Char) :=
  let digits := (cs.take width).takeWhile Char.isDigit
  if digits.isEmpty then none else some (Decimal.valueFrom 0 digits, cs.drop digits.length)

/-- A field of at most two digits, after blanks. -/
def readField? (cs : List Char) : Option (Nat × List Char) := readNumber? 2 (Text.trimStart cs)

/-- A year: four digits at most, or any number of digits after a sign. -/
def readYear? (cs : List Char) : Option (Int × List Char) :=
  match Text.trimStart cs with
  | '-' :: rest => (readNumber? rest.length rest).map fun (n, rest) => (-(n : Int), rest)
  | '+' :: rest => (readNumber? rest.length rest).map fun (n, rest) => ((n : Int), rest)
  | rest => (readNumber? 4 rest).map fun (n, rest) => ((n : Int), rest)

/-- A mark after blanks. -/
def readMark? (mark : Char) (cs : List Char) : Option (List Char) :=
  match Text.trimStart cs with
  | c :: rest => if c = mark then some rest else none
  | [] => none

/-- The decimals of a second, the tenth and later ones passed over. -/
def readNanos? (cs : List Char) : Option (Nat × List Char) :=
  match cs with
  | '.' :: rest =>
    let digits := rest.takeWhile Char.isDigit
    if digits.isEmpty then none
    else
      let kept := digits.take 9
      some (Decimal.valueFrom 0 kept * 10 ^ (9 - kept.length), rest.dropWhile Char.isDigit)
  | _ => some (0, cs)

/-- The value of two digits. -/
def readTwo? : List Char → Option (Nat × List Char)
  | a :: b :: rest => do return ((← Decimal.digitValue? a) * 10 + (← Decimal.digitValue? b), rest)
  | _ => none

/-- An offset from universal time in minutes. -/
def readOffset? (cs : List Char) : Option (Int × List Char) :=
  let distance (rest : List Char) : Option (Nat × List Char) := do
    let (hours, rest) ← readTwo? rest
    let (minutes, rest) ← readTwo? (rest.dropWhile fun c => c == ':' || Text.isBlank c)
    if minutes < 60 ∧ hours < 24 then return (hours * 60 + minutes, rest) else none
  match Text.trimStart cs with
  | 'Z' :: rest | 'z' :: rest => some (0, rest)
  | u :: t :: c :: rest =>
    if u.toUpper = 'U' ∧ t.toUpper = 'T' ∧ c.toUpper = 'C' then some (0, rest)
    else if u = '+' then (distance (t :: c :: rest)).map fun (n, rest) => ((n : Int), rest)
    else if u = '-' ∨ u = '\u2212' then
      (distance (t :: c :: rest)).map fun (n, rest) => (-(n : Int), rest)
    else none
  | _ => none

/-- The instant of a local date and time that is `offset` minutes ahead of universal time. -/
def ofLocal? (year : Int) (month day hour minute second nanos : Nat) (offset : Int) : Option Timestamp := do
  let start ← of? year month day hour minute second nanos
  let minutes : Int := (start.hour * 60 + start.minute : Nat) - offset
  let (year, month, day) :=
    if minutes < 0 then Calendar.previousDay start.year start.month start.day
    else if 1440 ≤ minutes then Calendar.nextDay start.year start.month start.day
    else (start.year, start.month, start.day)
  let minutes := (minutes % 1440).toNat
  of? year month day (minutes / 60) (minutes % 60) start.second start.nanos

/-- The instant of a text. -/
def ofText? (text : String) : Option Timestamp := do
  let (year, cs) ← readYear? text.toList
  let cs ← readMark? '-' cs
  let (month, cs) ← readField? cs
  let cs ← readMark? '-' cs
  let (day, cs) ← readField? cs
  let cs ← match cs with
    | c :: rest => if c = 'T' ∨ c = 't' ∨ c = ' ' then some rest else none
    | [] => none
  let (hour, cs) ← readField? cs
  let cs ← readMark? ':' cs
  let (minute, cs) ← readField? cs
  let cs ← readMark? ':' cs
  let (second, cs) ← readField? cs
  let (nanos, cs) ← readNanos? cs
  let (offset, cs) ← readOffset? cs
  if (Text.trimStart cs).isEmpty then
    if second = 60 then ofLocal? year month day hour minute 59 (nanos + 1000000000) offset
    else ofLocal? year month day hour minute second nanos offset
  else none

end Timestamp

end FuzzCampaign
