import FuzzCampaign.Shell.State
set_option autoImplicit false

/-! # Variables

What names stand for. Some of them stand for what the shell knows about itself; the others are variables,
whose values are texts, or arrays of texts by number or by name. -/

namespace FuzzCampaign.Shell

/-- The subscript of an element. -/
inductive Key where
  | index (i : Int)
  | name (s : Str)
deriving DecidableEq

namespace Value

/-- The texts of the elements of a value. -/
def texts : Value → List Str
  | .absent => []
  | .text s => [s]
  | .indexed items => items.map (·.2)
  | .keyed items => items.map (·.2)

/-- The subscripts of the elements of a value. -/
def keys : Value → List Str
  | .absent => []
  | .text _ => [['0']]
  | .indexed items => items.map fun (i, _) => showInt i
  | .keyed items => items.map (·.1)

/-- Whether a value is an array. -/
def isArray : Value → Bool
  | .indexed _ => true
  | .keyed _ => true
  | _ => false

/-- Whether a value is an array by name. -/
def isKeyed : Value → Bool
  | .keyed _ => true
  | _ => false

/-- The elements of a value by number. -/
def items : Value → List (Int × Str)
  | .absent => []
  | .text s => [(0, s)]
  | .indexed items => items
  | .keyed _ => []

/-- One more than the greatest number of an element. -/
def bound (v : Value) : Int :=
  match v.items.getLast? with
  | some (i, _) => i + 1
  | none => 0

/-- The number of an element, counted from the end when it is negative. -/
def position (v : Value) (i : Int) : Int := if i < 0 then v.bound + i else i

/-- The text of an element. -/
def element? (v : Value) (k : Key) : Option Str :=
  match v, k with
  | .keyed items, .name n => items.lookup n
  | .keyed items, .index i => items.lookup (showInt i)
  | v, .index i => v.items.lookup (v.position i)
  | v, .name _ => v.items.lookup 0

/-- Put an element in its place among those of smaller and greater numbers. -/
def insertItem (i : Int) (s : Str) : List (Int × Str) → List (Int × Str)
  | [] => [(i, s)]
  | (j, t) :: rest =>
    if i < j then (i, s) :: (j, t) :: rest
    else if i == j then (i, s) :: rest
    else (j, t) :: insertItem i s rest

/-- Where an array by name keeps a key. -/
def bucket (key : Str) : Nat :=
  (key.foldl (fun h c => ((h * 16777619) % 4294967296) ^^^ c.toNat) 2166136261) % 1024

/-- Put an element among those of an array by name, which are in the order of their buckets. -/
def insertKeyed (key s : Str) : List (Str × Str) → List (Str × Str)
  | [] => [(key, s)]
  | (k, t) :: rest => if bucket key ≤ bucket k then (key, s) :: (k, t) :: rest else (k, t) :: insertKeyed key s rest

/-- The value with another text for an element. -/
def setElement (v : Value) (k : Key) (s : Str) : Value :=
  match v, k with
  | .keyed items, k =>
    let n := match k with
      | .name n => n
      | .index i => showInt i
    if (items.lookup n).isSome then .keyed (items.map fun (m, old) => if m == n then (m, s) else (m, old))
    else .keyed (insertKeyed n s items)
  | v, .index i => .indexed (insertItem (v.position i) s v.items)
  | v, .name _ => .indexed (insertItem 0 s v.items)

/-- The value without an element. -/
def dropElement (v : Value) (k : Key) : Value :=
  match v, k with
  | .keyed items, .name n => .keyed (items.filter (·.1 != n))
  | .keyed items, .index i => .keyed (items.filter (·.1 != showInt i))
  | .indexed items, .index i => .indexed (items.filter (·.1 != v.position i))
  | .text s, .index i => if i == 0 then .absent else .text s
  | v, _ => v

/-- The value with another text: of an array, for its first element. -/
def setText (v : Value) (s : Str) : Value :=
  match v with
  | .indexed _ => v.setElement (.index 0) s
  | .keyed _ => v.setElement (.name ['0']) s
  | _ => .text s

end Value

/-! ## What the shell knows about itself -/

/-- The letters of the options that are on. -/
def optionLetters (o : Options) : Str :=
  let letters : List (Char × Bool) := [('a', o.allexport), ('e', o.errexit), ('f', o.noglob), ('h', true),
    ('n', o.noexec), ('u', o.nounset), ('v', o.verbose), ('x', o.xtrace), ('B', true), ('C', o.noclobber),
    ('E', o.errtrace), ('T', o.functrace)]
  (letters.filter (·.2)).map (·.1)

/-- The names of the options that are on. -/
def optionNames (o : Options) : List String :=
  (optionTable.filterMap fun (name, _, isOn, _) => if isOn o then some name else none) ++
    ["braceexpand", "hashall", "interactive-comments"]

/-- A list of texts as an array. -/
def Value.ofList (items : List Str) : Value :=
  .indexed (items.zipIdx.map fun (s, i) => ((i : Int), s))

/-- The seconds of a time. -/
def seconds (nanos : Nat) : Nat := nanos / 1000000000

/-- The seconds that had passed when machines start. -/
def bootSeconds : Nat := 1767323045

/-- What a positional parameter stands for. -/
def ShellState.positional (s : ShellState) (n : Nat) : Value :=
  if n = 0 then .text s.name
  else
    match s.params[n - 1]? with
    | some p => .text p
    | none => .absent

/-- What a name stands for when it is not a variable. -/
def ShellState.special? (s : ShellState) (name : String) : Option Value :=
  match name with
  | "?" => some (.text (showNat s.status))
  | "$" => some (.text (showNat s.pid))
  | "!" => some ((s.lastBackground.map fun pid => Value.text (showNat pid)).getD .absent)
  | "#" => some (.text (showNat s.params.length))
  | "-" => some (.text (optionLetters s.options))
  | "_" => some (.text s.lastArgument)
  | "LINENO" => some (.text (showNat s.line))
  | "BASHPID" => some (.text (showNat s.ownPid))
  | "BASH_SUBSHELL" => some (.text (showNat s.copies))
  | "SECONDS" => some (.text (showNat (seconds (s.now - s.started))))
  | "EPOCHSECONDS" => some (.text (showNat (bootSeconds + seconds s.now)))
  | "EPOCHREALTIME" =>
    let micros := showNat (1000000 + s.now / 1000 % 1000000)
    some (.text (showNat (bootSeconds + seconds s.now) ++ '.' :: micros.drop 1))
  | "RANDOM" => some (.text (showNat (s.random / 65536 % 32768)))
  | "SHELLOPTS" => some (.text ((":".intercalate ((optionNames s.options).mergeSort fun a b => a ≤ b)).toList))
  | "PIPESTATUS" => some (Value.ofList (s.statuses.map showNat))
  | "FUNCNAME" =>
    if s.frames.any fun f => f.name != "main" && f.name != "source" then
      some (Value.ofList (s.frames.map fun f => f.name.toList))
    else some (.indexed [])
  | "BASH_SOURCE" => some (Value.ofList (s.frames.map (·.file)))
  | "BASH_LINENO" => some (Value.ofList (s.frames.map fun f => showNat f.calledAt))
  | _ =>
    match name.toList with
    | [] => none
    | c :: rest =>
      if c.isDigit then some (s.positional (Decimal.valueFrom 0 (c :: rest))) else none

/-- What a name stands for. -/
def ShellState.value (s : ShellState) (name : String) : Value :=
  match s.special? name with
  | some v => v
  | none => ((s.entry? name).map Variable.value).getD .absent

/-- What is remembered after a name was looked at: random numbers go on. -/
def ShellState.looked (s : ShellState) (name : String) : ShellState :=
  if name == "RANDOM" then { s with random := (s.random * 1103515245 + 12345) % 4294967296 } else s

/-! ## Changing variables -/

/-- The letters of a text in the case that a variable wants. -/
def LetterCase.apply : LetterCase → Str → Str
  | .kept, s => s
  | .lower, s => s.map Char.toLower
  | .upper, s => s.map Char.toUpper

/-- Whether a variable may not be changed. -/
def ShellState.isFixed (s : ShellState) (name : String) : Bool := (s.entry? name).any Variable.fixed

/-- A variable as it is, or a new one. -/
def ShellState.variableOrNew (s : ShellState) (name : String) : Variable :=
  (s.entry? name).getD { exported := s.options.allexport }

/-- Give a variable, or one of its elements, a text. -/
def ShellState.assign (s : ShellState) (name : String) (key : Option Key) (text : Str) : ShellState :=
  let v := s.variableOrNew name
  let text := v.letters.apply text
  let value := match key with
    | none => v.value.setText text
    | some k => v.value.setElement k text
  let s := s.setVariable name { v with value, exported := v.exported || s.options.allexport }
  match name with
  | "SECONDS" => { s with started := s.now - Decimal.valueFrom 0 (text.takeWhile Char.isDigit) * 1000000000 }
  | "RANDOM" => { s with random := Decimal.valueFrom 0 (text.takeWhile Char.isDigit) }
  | "OPTIND" => { s with optionPlace := 0 }
  | _ => s

/-- Give a variable a value. -/
def ShellState.assignValue (s : ShellState) (name : String) (value : Value) : ShellState :=
  s.setVariable name { s.variableOrNew name with value }

/-- The message about a variable that may not be changed. -/
def fixedMessage (name : String) : Str := name.toList ++ ": readonly variable".toList

end FuzzCampaign.Shell
