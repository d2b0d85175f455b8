import FuzzCampaign.Shell.Source
set_option autoImplicit false

/-! # Quoting

How the shell writes words so that reading them again gives the same text: between single quotes, between
double quotes, between dollar quotes with escapes for bytes that cannot be printed, or with backslashes.
Which of them is used depends on where the word is written: in an execution trace, in a list of variables,
or where a script asks for it. -/

namespace FuzzCampaign.Shell

/-! ## Which texts need quotes -/

/-- Whether a character means something to the shell wherever it stands. -/
def isSpecial (c : Char) : Bool :=
  [' ', '\t', '\n', '\x27', '"', '\\', '|', '&', ';', '(', ')', '<', '>', '!', '\x7b', '\x7d', '*', '[',
    '?', ']', '^', '$', '\x60'].contains c

/-- Whether a text has characters that mean something to the shell where they stand: a tilde at the front,
after an equals sign or after a colon, a hash at the front, and the special characters anywhere. -/
def hasSpecials (s : Str) : Bool :=
  s.head? == some '#' || go true s
where
  /-- The same, told whether a tilde would mean something here. -/
  go (tilde : Bool) : Str → Bool
    | [] => false
    | c :: rest => isSpecial c || (tilde && c == '~') || go (c == '=' || c == ':') rest

/-- Whether a byte can be printed. -/
def isPrintable (c : Char) : Bool := 32 ≤ c.toNat && c.toNat < 127

/-- Whether a text has bytes that cannot be printed. -/
def hasUnprintable (s : Str) : Bool := s.any fun c => !isPrintable c

/-! ## Quotes -/

/-- Between single quotes; a single quote inside is written outside of them. -/
def singleQuote (s : Str) : Str :=
  if s == ['\x27'] then ['\\', '\x27']
  else ['\x27'] ++ s.flatMap (fun c => if c == '\x27' then "'\\''".toList else [c]) ++ ['\x27']

/-- Between double quotes. -/
def doubleQuote (s : Str) : Str :=
  let body := s.flatMap fun c =>
    if c == '$' || c == '\x60' || c == '"' || c == '\\' then ['\\', c] else [c]
  ['"'] ++ body ++ ['"']

/-- Three octal digits. -/
def octal (c : Char) : Str :=
  let digit (n : Nat) : Char := Char.ofNat ('0'.toNat + n % 8)
  [digit (c.toNat / 64), digit (c.toNat / 8), digit c.toNat]

/-- A byte between dollar quotes. -/
def dollarEscape (c : Char) : Str :=
  match c.toNat with
  | 27 => ['\\', 'E']
  | 7 => ['\\', 'a']
  | 11 => ['\\', 'v']
  | 8 => ['\\', 'b']
  | 12 => ['\\', 'f']
  | 10 => ['\\', 'n']
  | 13 => ['\\', 'r']
  | 9 => ['\\', 't']
  | _ =>
    if c == '\\' || c == '\x27' then ['\\', c]
    else if isPrintable c then [c]
    else '\\' :: octal c

/-- Between dollar quotes. -/
def dollarQuote (s : Str) : Str := "$'".toList ++ s.flatMap dollarEscape ++ ['\x27']

/-- With backslashes. -/
def backslashQuote (s : Str) : Str :=
  go true s
where
  /-- The same, told whether this is the front. -/
  go (front : Bool) : Str → Str
    | [] => []
    | c :: rest =>
      if isSpecial c || c == ',' || (front && (c == '~' || c == '#')) then '\\' :: c :: go false rest
      else c :: go false rest

/-! ## Where words are written -/

/-- The value of an assignment in an execution trace. -/
def tracedValue (s : Str) : Str :=
  if s.isEmpty then s
  else if hasSpecials s then singleQuote s
  else if hasUnprintable s then dollarQuote s
  else s

/-- A word in an execution trace. -/
def tracedWord (s : Str) : Str := if s.isEmpty then "''".toList else tracedValue s

/-- The value of a variable in a list of declarations. -/
def declaredValue (s : Str) : Str := if hasUnprintable s then dollarQuote s else doubleQuote s

/-- The value of a variable in a list of all variables. -/
def listedValue (s : Str) : Str :=
  if hasUnprintable s then dollarQuote s else if hasSpecials s then singleQuote s else s

/-- A word as scripts ask `printf` for it. -/
def reusableWord (s : Str) : Str :=
  if s.isEmpty then "''".toList else if hasUnprintable s then dollarQuote s else backslashQuote s

/-- A value as scripts ask an expansion for it. -/
def reusableValue (s : Str) : Str :=
  if s.isEmpty then "''".toList else if hasUnprintable s then dollarQuote s else singleQuote s

end FuzzCampaign.Shell
