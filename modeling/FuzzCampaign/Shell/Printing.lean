import FuzzCampaign.Shell.Tests
set_option autoImplicit false

/-! # Printing

The commands that print their arguments: plainly, or by a format that is used again until no argument is
left. -/

namespace FuzzCampaign.Shell

/-! ## Escapes -/

/-- A text with its escapes replaced, up to one that ends all output; octal numbers begin with a zero.
The flag tells whether the output goes on. -/
def printedEscapes : Nat → Str → Str × Bool
  | 0, s => (s, true)
  | fuel + 1, s =>
    match s with
    | [] => ([], true)
    | '\\' :: 'c' :: _ => ([], false)
    | '\\' :: '0' :: rest =>
      let (n, size) := digitsValue 8 3 rest
      let (more, goesOn) := printedEscapes fuel (rest.drop size)
      (Char.ofNat (n % 256) :: more, goesOn)
    | '\\' :: rest =>
      let literal := rest.head?.any fun c => c.isDigit || c == '\x27' || c == '"' || c == '?'
      let (text, size) := if literal then (['\\'], 0) else escapeText rest
      let (more, goesOn) := printedEscapes fuel (rest.drop size)
      (text ++ more, goesOn)
    | c :: rest =>
      let (more, goesOn) := printedEscapes fuel rest
      (c :: more, goesOn)

/-! ## Plain printing -/

/-- The options of plain printing at the front of words: whether a line ends, and whether escapes mean
something. -/
def echoOptions : Bool → Bool → List Str → Bool × Bool × List Str
  | newline, escapes, [] => (newline, escapes, [])
  | newline, escapes, w :: rest =>
    match w with
    | '-' :: c :: more =>
      let letters := c :: more
      if letters.all fun c => c == 'n' || c == 'e' || c == 'E' then
        let newline := newline && !letters.contains 'n'
        let escapes := letters.foldl (fun on c => if c == 'e' then true else if c == 'E' then false else on)
          escapes
        echoOptions newline escapes rest
      else (newline, escapes, w :: rest)
    | _ => (newline, escapes, w :: rest)

/-- What plain printing writes. -/
def echoText (words : List Str) : Str :=
  let (newline, escapes, words) := echoOptions true false words
  let text := [' '].intercalate words
  if escapes then
    let (text, goesOn) := printedEscapes (text.length + 1) text
    if newline && goesOn then text ++ ['\n'] else text
  else if newline then text ++ ['\n'] else text

/-- Write the output of a command of the shell. -/
def putChecked (name : String) (text : Str) (status : Nat) : Sh Nat := do
  if text.isEmpty then return status
  else
    match ← Sh.ask (.write 1 text) with
    | .refused why =>
      complainAs name ("write error: ".toList ++ why.message)
      return 1
    | _ => return status

/-! ## Formats -/

/-- How a value is laid out. -/
structure Layout where
  left : Bool := false
  plus : Bool := false
  space : Bool := false
  alternate : Bool := false
  zeros : Bool := false
  width : Nat := 0
  precision : Option Nat := none

/-- What was printed so far. -/
structure Printing where
  output : Str := []
  args : List Str
  /-- Whether an argument was used in this round. -/
  used : Bool := false
  complaints : List Str := []
  stopped : Bool := false

namespace Printing

/-- The next argument, if one is left. -/
def take (p : Printing) : Option Str × Printing :=
  match p.args with
  | [] => (none, p)
  | a :: rest => (some a, { p with args := rest, used := true })

/-- Text is printed. -/
def add (p : Printing) (s : Str) : Printing := { p with output := p.output ++ s }

/-- Something was wrong. -/
def complain (p : Printing) (s : Str) : Printing := { p with complaints := p.complaints ++ [s] }

end Printing

/-- Text with blanks up to the width. -/
def Layout.pad (l : Layout) (s : Str) : Str :=
  let fill := List.replicate (l.width - s.length) ' '
  if l.left then s ++ fill else fill ++ s

/-- A sign and digits, with zeros or blanks up to the width. -/
def Layout.padNumber (l : Layout) (sign digits : Str) : Str :=
  let digits := match l.precision with
    | some n => List.replicate (n - digits.length) '0' ++ digits
    | none => digits
  if l.zeros && !l.left && l.precision.isNone then
    sign ++ List.replicate (l.width - sign.length - digits.length) '0' ++ digits
  else l.pad (sign ++ digits)

/-- The sign of a number. -/
def Layout.sign (l : Layout) (negative : Bool) : Str :=
  if negative then ['-'] else if l.plus then ['+'] else if l.space then [' '] else []

/-- The digits of a number in a base. -/
def digitsOf (base : Nat) (upper : Bool) (n : Nat) : Str :=
  let digits := Nat.toDigits base n
  if upper then digits.map Char.toUpper else digits

/-- The number that an argument stands for, and whether all of it was one. -/
def printedNumber (s : Str) : Int × Bool :=
  match s with
  | '\x27' :: c :: _ => (c.toNat, true)
  | '"' :: c :: _ => (c.toNat, true)
  | _ =>
    let s := s.dropWhile isArithBlank
    let (negative, s) := match s with
      | '-' :: rest => (true, rest)
      | '+' :: rest => (false, rest)
      | _ => (false, s)
    let (base, s) := match s with
      | '0' :: 'x' :: rest => (16, rest)
      | '0' :: 'X' :: rest => (16, rest)
      | '0' :: rest => (8, '0' :: rest)
      | _ => (10, s)
    let (n, size) := digitsValue base s.length s
    let n : Int := if negative then -(n : Int) else n
    (n, size = s.length && size ≠ 0)

/-- A decimal number as its digits and how many of them stand behind the point. -/
def decimalNumber? (s : Str) : Option (Bool × Nat × Nat) :=
  let (negative, s) := match s with
    | '-' :: rest => (true, rest)
    | '+' :: rest => (false, rest)
    | _ => (false, s)
  let whole := s.takeWhile Char.isDigit
  match s.drop whole.length with
  | [] => if whole.isEmpty then none else some (negative, Decimal.valueFrom 0 whole, 0)
  | '.' :: places =>
    if places.all Char.isDigit && !(whole.isEmpty && places.isEmpty) then
      some (negative, Decimal.valueFrom 0 (whole ++ places), places.length)
    else none
  | _ => none

/-- A decimal number with so many places; a half goes to the even neighbour. -/
def fixedPlaces (n places wanted : Nat) : Str :=
  let scaled :=
    if places ≤ wanted then n * 10 ^ (wanted - places)
    else
      let unit := 10 ^ (places - wanted)
      let down := n / unit
      let rest := 2 * (n % unit)
      if unit < rest ∨ (rest = unit ∧ down % 2 = 1) then down + 1 else down
  let digits := showNat scaled
  let digits := List.replicate (wanted + 1 - digits.length) '0' ++ digits
  let whole := digits.take (digits.length - wanted)
  if wanted = 0 then whole else whole ++ '.' :: digits.drop (digits.length - wanted)

/-- Print an argument as a number. -/
def printNumber (l : Layout) (kind : Char) (p : Printing) : Printing :=
  let (arg, p) := p.take
  let text := arg.getD []
  let (n, whole) := if text.isEmpty then (0, true) else printedNumber text
  let p := if whole then p else p.complain (text ++ ": invalid number".toList)
  let unsigned := word64 n
  match kind with
  | 'o' => p.add (l.padNumber (if l.alternate then ['0'] else []) (digitsOf 8 false unsigned))
  | 'x' => p.add (l.padNumber (if l.alternate && unsigned ≠ 0 then "0x".toList else []) (digitsOf 16 false unsigned))
  | 'X' => p.add (l.padNumber (if l.alternate && unsigned ≠ 0 then "0X".toList else []) (digitsOf 16 true unsigned))
  | 'u' => p.add (l.padNumber [] (showNat unsigned))
  | _ => p.add (l.padNumber (l.sign (n < 0)) (showNat n.natAbs))

/-- Print an argument as a decimal number. -/
def printDecimal (l : Layout) (p : Printing) : Printing :=
  let (arg, p) := p.take
  let text := arg.getD ['0']
  match decimalNumber? text with
  | some (negative, n, places) =>
    let digits := fixedPlaces n places (l.precision.getD 6)
    p.add ({ l with precision := none }.padNumber (l.sign negative) digits)
  | none =>
    let p := if text.isEmpty then p else p.complain (text ++ ": invalid number".toList)
    p.add ({ l with precision := none }.padNumber (l.sign false) (fixedPlaces 0 0 (l.precision.getD 6)))

/-- Text cut to the precision. -/
def Layout.cut (l : Layout) (s : Str) : Str :=
  match l.precision with
  | some n => s.take n
  | none => s

/-- Print an argument as a letter says. -/
def printArgument (l : Layout) (kind : Char) (p : Printing) : Printing :=
  match kind with
  | '%' => p.add ['%']
  | 's' =>
    let (arg, p) := p.take
    p.add (l.pad (l.cut (arg.getD [])))
  | 'q' =>
    let (arg, p) := p.take
    p.add (l.pad (l.cut (reusableWord (arg.getD []))))
  | 'b' =>
    let (arg, p) := p.take
    let text := arg.getD []
    let (text, goesOn) := printedEscapes (text.length + 1) text
    let p := p.add (l.pad (l.cut text))
    if goesOn then p else { p with stopped := true }
  | 'c' =>
    let (arg, p) := p.take
    p.add (l.pad ((arg.getD []).take 1))
  | 'f' => printDecimal l p
  | 'F' => printDecimal l p
  | 'g' => printDecimal l p
  | 'e' => printDecimal l p
  | 'd' => printNumber l kind p
  | 'i' => printNumber l kind p
  | 'o' => printNumber l kind p
  | 'u' => printNumber l kind p
  | 'x' => printNumber l kind p
  | 'X' => printNumber l kind p
  | c =>
    let p := p.complain (['\x60', c] ++ "': invalid format character".toList)
    { p with stopped := true }

/-- The flags at the front of a text, and the rest. -/
def layoutFlags : Layout → Str → Layout × Str
  | l, '-' :: rest => layoutFlags { l with left := true } rest
  | l, '+' :: rest => layoutFlags { l with plus := true } rest
  | l, ' ' :: rest => layoutFlags { l with space := true } rest
  | l, '#' :: rest => layoutFlags { l with alternate := true } rest
  | l, '0' :: rest => layoutFlags { l with zeros := true } rest
  | l, s => (l, s)

/-- A number of a layout, possibly given by an argument, and the rest. -/
def layoutNumber (s : Str) (p : Printing) : Int × Str × Printing :=
  match s with
  | '*' :: rest =>
    let (arg, p) := p.take
    ((printedNumber (arg.getD ['0'])).1, rest, p)
  | _ =>
    let digits := s.takeWhile Char.isDigit
    (Decimal.valueFrom 0 digits, s.drop digits.length, p)

/-- Print what stands behind a percent sign; answers the rest of the format. -/
def printDirective (s : Str) (p : Printing) : Str × Printing :=
  let (l, s) := layoutFlags {} s
  let (width, s, p) := layoutNumber s p
  let l := { l with width := width.natAbs, left := l.left || width < 0 }
  let (l, s, p) := match s with
    | '.' :: rest =>
      let (n, s, p) := layoutNumber rest p
      ({ l with precision := if n < 0 then none else some n.toNat }, s, p)
    | _ => (l, s, p)
  let s := s.dropWhile fun c => ['h', 'l', 'L', 'j', 'z', 't'].contains c
  match s with
  | [] =>
    let p := p.complain ("\x60%': missing format character".toList)
    ([], { p with stopped := true })
  | c :: rest => (rest, printArgument l c p)

/-- Print by a format once. -/
def printRound : Nat → Str → Printing → Printing
  | 0, _, p => p
  | fuel + 1, s, p =>
    if p.stopped then p
    else
      match s with
      | [] => p
      | '\\' :: 'c' :: _ => { p with stopped := true }
      | '\\' :: rest =>
        let (text, size) := escapeText rest
        printRound fuel (rest.drop size) (p.add text)
      | '%' :: rest =>
        let (rest, p) := printDirective rest p
        printRound fuel rest p
      | c :: rest => printRound fuel rest (p.add [c])

/-- Print by a format until no argument is left. -/
def printRounds (format : Str) : Nat → Printing → Printing
  | 0, p => p
  | fuel + 1, p =>
    let p := printRound (format.length + 1) format { p with used := false }
    if p.stopped || p.args.isEmpty || !p.used then p else printRounds format fuel p

/-- What is printed by a format, and what is wrong. -/
def formatted (format : Str) (args : List Str) : Str × List Str :=
  let p := printRounds format (args.length + 1) { args }
  (p.output, p.complaints)

/-- The command that prints by a format. -/
def runPrintf (words : List Str) : Sh Nat := do
  let usage : Sh Nat := do
    Sh.putError "printf: usage: printf [-v var] format [arguments]\n".toList
    return 2
  let (target, words) := match words with
    | ['-', 'v'] :: name :: rest => (some name, rest)
    | _ => (none, words)
  let words := if words.head? == some "--".toList then words.drop 1 else words
  match words with
  | [] => usage
  | format :: args =>
    let (text, complaints) := formatted format args
    Sh.forEach (complainAs "printf") complaints
    let status := if complaints.isEmpty then 0 else 1
    match target with
    | some name =>
      let (name, index, key) := namedParam name
      let k : Option Key := match index with
        | .at _ => match readInt? key with
          | some i => some (.index i)
          | none => some (.name key)
        | _ => none
      assignText name k false text
      return status
    | none => putChecked "printf" text status

end FuzzCampaign.Shell
