import FuzzCampaign.Json.Term
import FuzzCampaign.Toml.Value
set_option autoImplicit false

/-! # TOML scalars

Reading blanks, comments, strings, numbers and moments. A reader answers with what it read and the rest
of the text, or refuses the document. -/

namespace FuzzCampaign.Toml

/-- Reads something at the beginning of a text. -/
abbrev Reader (α : Type) : Type := List Char → Option (α × List Char)

/-! ## Blanks, comments, ends of lines -/

/-- Blanks inside a line. -/
def isSpace (c : Char) : Bool := c == ' ' || c == '\t'

/-- Without blanks at the front. -/
def skipSpace (cs : List Char) : List Char := cs.dropWhile isSpace

/-- A character that is neither an end of a line nor a control character, the tabulator apart. -/
def isPlain (c : Char) : Bool := c == '\t' || (32 ≤ c.toNat && c.toNat != 127)

/-- Without a comment at the front. -/
def skipComment : List Char → List Char
  | '#' :: rest => rest.dropWhile isPlain
  | cs => cs

/-- The text after an end of a line. -/
def newline? : List Char → Option (List Char)
  | '\n' :: rest => some rest
  | '\r' :: '\n' :: rest => some rest
  | _ => none

/-- The text after what may stand between a value and the end of its line, and after that end. -/
def endLine? (cs : List Char) : Option (List Char) :=
  match skipComment (skipSpace cs) with
  | [] => some []
  | cs => newline? cs

/-- Without blanks, comments and ends of lines at the front. -/
def skipLines : Nat → List Char → List Char
  | 0, cs => cs
  | fuel + 1, cs =>
    match skipSpace cs with
    | '#' :: rest => skipLines fuel (rest.dropWhile isPlain)
    | cs =>
      match newline? cs with
      | some rest => skipLines fuel rest
      | none => cs

/-! ## Strings -/

/-- The character of an escape, after the backslash. -/
def escape? : Reader Char
  | 'b' :: rest => some (Char.ofNat 8, rest)
  | 't' :: rest => some ('\t', rest)
  | 'n' :: rest => some ('\n', rest)
  | 'f' :: rest => some (Char.ofNat 12, rest)
  | 'r' :: rest => some ('\r', rest)
  | '"' :: rest => some ('"', rest)
  | '\\' :: rest => some ('\\', rest)
  | 'u' :: rest => scalar? 4 rest
  | 'U' :: rest => scalar? 8 rest
  | _ => none
where
  /-- A character by its number, of that many digits of base sixteen. -/
  scalar? (width : Nat) (cs : List Char) : Option (Char × List Char) := do
    let digits ← (cs.take width).mapM Json.hexValue?
    let n := digits.foldl (fun n d => 16 * n + d) 0
    if digits.length = width ∧ n.isValidChar then some (Char.ofNat n, cs.drop width) else none

/-- A string of one line with escapes, after its opening quote; what was read so far is in reverse. -/
def basicString : Nat → List Char → List Char → Option (String × List Char)
  | 0, _, _ => none
  | fuel + 1, cs, read =>
    match cs with
    | [] => none
    | '"' :: rest => some (String.ofList read.reverse, rest)
    | '\\' :: rest =>
      match escape? rest with
      | some (c, rest) => basicString fuel rest (c :: read)
      | none => none
    | c :: rest => if isPlain c then basicString fuel rest (c :: read) else none

/-- A string of one line without escapes, after its opening quote. -/
def literalString (cs : List Char) : Option (String × List Char) :=
  let inside := cs.takeWhile fun c => isPlain c && c != '\x27'
  match cs.drop inside.length with
  | '\x27' :: rest => some (String.ofList inside, rest)
  | _ => none

/-- The quotes at the end of a string of several lines: of a run of at least three the last three close
the string, and at most two before them belong to it. -/
def closing? (quote : Char) (cs : List Char) : Option (Nat × List Char) :=
  let run := (cs.takeWhile (· == quote)).length
  if run < 3 then none else some (min run 5 - 3, cs.drop (min run 5))

/-- Without blanks and ends of lines at the front. -/
def skipBlankLines : Nat → List Char → List Char
  | 0, cs => cs
  | fuel + 1, cs =>
    match newline? (skipSpace cs) with
    | some rest => skipBlankLines fuel rest
    | none => skipSpace cs

/-- A string of several lines, after its opening quotes. With escapes, a backslash at the end of a line
joins it to the next text. -/
def longString (quote : Char) (escapes : Bool) : Nat → List Char → List Char → Option (String × List Char)
  | 0, _, _ => none
  | fuel + 1, cs, read =>
    match closing? quote cs with
    | some (extra, rest) => some (String.ofList (List.replicate extra quote ++ read).reverse, rest)
    | none =>
      match newline? cs with
      | some rest => longString quote escapes fuel rest ('\n' :: read)
      | none =>
        match cs with
        | [] => none
        | c :: rest =>
          if escapes && c == '\\' then
            match newline? (skipSpace rest) with
            | some next => longString quote escapes fuel (skipBlankLines next.length next) read
            | none =>
              match escape? rest with
              | some (e, rest) => longString quote escapes fuel rest (e :: read)
              | none => none
          else if isPlain c then longString quote escapes fuel rest (c :: read)
          else none

/-- A string of several lines, after its opening quotes; an end of a line right after them is no part of
it. -/
def longText (quote : Char) (escapes : Bool) (cs : List Char) : Option (String × List Char) :=
  let body := (newline? cs).getD cs
  longString quote escapes (body.length + 1) body []

/-- A string of any kind. -/
def string? : Reader String
  | '"' :: '"' :: '"' :: rest => longText '"' true rest
  | '"' :: rest => basicString (rest.length + 1) rest []
  | '\x27' :: '\x27' :: '\x27' :: rest => longText '\x27' false rest
  | '\x27' :: rest => literalString rest
  | _ => none

/-! ## Numbers -/

/-- Digits with single underscores between them: the digits without them. -/
def digits? (isDigit : Char → Bool) : Reader (List Char)
  | [] => none
  | c :: rest => if isDigit c then some (more rest [c]) else none
where
  /-- More digits; those so far are in reverse. -/
  more : List Char → List Char → List Char × List Char
    | [], found => (found.reverse, [])
    | '_' :: c :: rest, found =>
      if isDigit c then more rest (c :: found) else (found.reverse, '_' :: c :: rest)
    | c :: rest, found => if isDigit c then more rest (c :: found) else (found.reverse, c :: rest)

/-- The value of digits of a base. -/
def valueIn (base : Nat) (digits : List Char) : Nat :=
  digits.foldl (fun n c => base * n + (Json.hexValue? c).getD 0) 0

/-- The integers are those of 64 bits. -/
def int64? (n : Int) : Option Toml := if -2 ^ 63 ≤ n ∧ n < 2 ^ 63 then some (.integer n) else none

/-- An integer of another base than ten, after its mark. -/
def basedInteger (base : Nat) (isDigit : Char → Bool) (cs : List Char) : Option (Toml × List Char) := do
  let (digits, rest) ← digits? isDigit cs
  return (← int64? (valueIn base digits), rest)

/-- The whole digits of a decimal number: no zero at the front unless it is the only one. -/
def wholeDigits? : Reader (List Char)
  | '0' :: rest => some (['0'], rest)
  | cs => digits? Char.isDigit cs

/-- The exponent of a float, when there is one. -/
def exponent? (cs : List Char) : Option (Option Int × List Char) :=
  match cs with
  | e :: rest =>
    if e = 'e' ∨ e = 'E' then
      let (negative, rest) := match rest with
        | '-' :: rest => (true, rest)
        | '+' :: rest => (false, rest)
        | _ => (false, rest)
      do
        let (digits, rest) ← digits? Char.isDigit rest
        let n : Int := digits.foldl (fun n c => min (10 * n + (c.toNat - 48)) (10 ^ 9)) 0
        return (some (if negative then -n else n), rest)
    else some (none, cs)
  | [] => some (none, cs)

/-- The number nearest to `± digits * 10 ^ exponent`, for exponents of any size. -/
def nearest (negative : Bool) (digits : List Char) (exponent : Int) : Binary64 :=
  let digits := digits.dropWhile (· == '0')
  let size := digits.length + exponent
  if digits.isEmpty ∨ size < -400 then .zero negative
  else if 400 < size then .infinity negative
  else .ofDecimal negative (valueIn 10 digits) exponent

/-- A decimal number after its sign: a float when it has a fraction or an exponent. -/
def decimal? (negative : Bool) (cs : List Char) : Option (Toml × List Char) := do
  let (whole, rest) ← wholeDigits? cs
  let (fraction, rest) ← match rest with
    | '.' :: rest => (digits? Char.isDigit rest).map fun (digits, rest) => (some digits, rest)
    | _ => some (none, rest)
  let (exponent, rest) ← exponent? rest
  if fraction.isNone ∧ exponent.isNone then
    let n : Int := valueIn 10 whole
    return (← int64? (if negative then -n else n), rest)
  else
    let places := (fraction.getD []).length
    let x := nearest negative (whole ++ fraction.getD []) (exponent.getD 0 - places)
    if x = .infinity false then none else return (.float x, rest)

/-- A float that is no number, or no finite one, after its sign. -/
def specialFloat? (negative : Bool) : Reader Toml
  | 'i' :: 'n' :: 'f' :: rest => some (.float (.infinity negative), rest)
  | 'n' :: 'a' :: 'n' :: rest => some (.float .nan, rest)
  | _ => none

/-- A number. -/
def number? : Reader Toml
  | '0' :: 'x' :: rest => basedInteger 16 (fun c => (Json.hexValue? c).isSome) rest
  | '0' :: 'o' :: rest => basedInteger 8 (fun c => '0' ≤ c && c ≤ '7') rest
  | '0' :: 'b' :: rest => basedInteger 2 (fun c => c == '0' || c == '1') rest
  | '+' :: rest => (specialFloat? false rest).or (decimal? false rest)
  | '-' :: rest => (specialFloat? true rest).or (decimal? true rest)
  | cs => (specialFloat? false cs).or (decimal? false cs)

/-! ## Moments -/

/-- A number of two digits between two bounds, and the rest. -/
def twoDigits? (low high : Nat) : Reader Nat
  | a :: b :: rest =>
    if a.isDigit && b.isDigit then
      let n := valueIn 10 [a, b]
      if low ≤ n ∧ n ≤ high then some (n, rest) else none
    else none
  | _ => none

/-- The text after a given character. -/
def after? (c : Char) : List Char → Option (List Char)
  | d :: rest => if c = d then some rest else none
  | [] => none

/-- How many days a month has. -/
def daysIn (year month : Nat) : Nat :=
  if month = 2 then (if year % 4 = 0 ∧ (year % 100 ≠ 0 ∨ year % 400 = 0) then 29 else 28)
  else if month = 4 ∨ month = 6 ∨ month = 9 ∨ month = 11 then 30
  else 31

/-- The text after a date. -/
def date? (cs : List Char) : Option (List Char) := do
  let year := cs.take 4
  if year.length = 4 ∧ year.all Char.isDigit then
    let rest ← after? '-' (cs.drop 4)
    let (month, rest) ← twoDigits? 1 12 rest
    let rest ← after? '-' rest
    let (day, rest) ← twoDigits? 1 31 rest
    if day ≤ daysIn (valueIn 10 year) month then some rest else none
  else none

/-- The text after a time of day. -/
def time? (cs : List Char) : Option (List Char) := do
  let (_, rest) ← twoDigits? 0 23 cs
  let rest ← after? ':' rest
  let (_, rest) ← twoDigits? 0 59 rest
  let rest ← after? ':' rest
  let (_, rest) ← twoDigits? 0 60 rest
  match rest with
  | '.' :: rest =>
    match rest.dropWhile Char.isDigit with
    | next => if next.length = rest.length then none else some next
  | _ => some rest

/-- The text after an offset from universal time. -/
def offset? : List Char → Option (List Char)
  | 'Z' :: rest => some rest
  | 'z' :: rest => some rest
  | c :: rest =>
    if c = '+' ∨ c = '-' then do
      let (_, rest) ← twoDigits? 0 23 rest
      let rest ← after? ':' rest
      let (_, rest) ← twoDigits? 0 59 rest
      return rest
    else none
  | [] => none

/-- Whether a text begins like a date or a time of day, which no number does. -/
def beginsMoment (cs : List Char) : Bool :=
  let digits := (cs.takeWhile Char.isDigit).length
  match cs.drop digits with
  | '-' :: _ => digits = 4
  | ':' :: _ => digits = 2
  | _ => false

/-- The text after a time of day that follows a date, with its offset; the text itself when a blank
follows the date and no time of day. -/
def timeAfterDate? (cs : List Char) : Option (List Char) :=
  match cs with
  | c :: rest =>
    if c = 'T' ∨ c = 't' ∨ c = ' ' then
      match time? rest with
      | some rest =>
        match rest with
        | '+' :: _ => offset? rest
        | '-' :: _ => offset? rest
        | _ => some ((offset? rest).getD rest)
      | none => if c = ' ' then some cs else none
    else some cs
  | [] => some []

/-- A moment. -/
def moment? (cs : List Char) : Option (Toml × List Char) := do
  let rest ← match date? cs with
    | some rest => timeAfterDate? rest
    | none => time? cs
  return (.moment (String.ofList (cs.take (cs.length - rest.length))), rest)

/-- A truth value. -/
def boolean? : Reader Toml
  | 't' :: 'r' :: 'u' :: 'e' :: rest => some (.boolean true, rest)
  | 'f' :: 'a' :: 'l' :: 's' :: 'e' :: rest => some (.boolean false, rest)
  | _ => none

/-- A value that holds no other. -/
def scalar? (cs : List Char) : Option (Toml × List Char) :=
  match cs with
  | '"' :: _ => (string? cs).map fun (s, rest) => (.string s, rest)
  | '\x27' :: _ => (string? cs).map fun (s, rest) => (.string s, rest)
  | 't' :: _ => boolean? cs
  | 'f' :: _ => boolean? cs
  | _ => if beginsMoment cs then moment? cs else number? cs

end FuzzCampaign.Toml
