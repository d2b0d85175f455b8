import FuzzCampaign.Shell.Files
import FuzzCampaign.Shell.ReadCommand
set_option autoImplicit false

/-! # The state of a shell

What a shell process remembers, and the actions that shells and programs are made of. An action goes on
from a state, may make requests, and comes back with a result and a state, unless it jumps: out of a
loop, out of a function, or out of the shell. -/

namespace FuzzCampaign.Shell

/-! ## Variables -/

/-- The value of a variable. -/
inductive Value where
  /-- Declared, without a value. -/
  | absent
  | text (s : Str)
  /-- Elements by number, in increasing order. -/
  | indexed (items : List (Int × Str))
  /-- Elements by name. -/
  | keyed (items : List (Str × Str))

/-- Which case the letters of a variable's values are given. -/
inductive LetterCase where
  | kept
  | lower
  | upper
deriving DecidableEq

/-- A variable. -/
structure Variable where
  value : Value := .absent
  exported : Bool := false
  fixed : Bool := false
  integer : Bool := false
  letters : LetterCase := .kept

/-- The text of a value, when it has one: of an array, that of its first element. -/
def Value.text? : Value → Option Str
  | .absent => none
  | .text s => some s
  | .indexed items => items.lookup 0
  | .keyed items => items.lookup ['0']

/-! ## Options -/

/-- The options of a shell that change how commands run. -/
structure Options where
  errexit : Bool := false
  errtrace : Bool := false
  functrace : Bool := false
  nounset : Bool := false
  pipefail : Bool := false
  xtrace : Bool := false
  verbose : Bool := false
  noglob : Bool := false
  noclobber : Bool := false
  allexport : Bool := false
  noexec : Bool := false

/-- The options by long name and letter, with how to tell and how to set them. -/
def optionTable : List (String × Option Char × (Options → Bool) × (Bool → Options → Options)) :=
  [("allexport", some 'a', Options.allexport, fun b o => { o with allexport := b }),
    ("errexit", some 'e', Options.errexit, fun b o => { o with errexit := b }),
    ("errtrace", some 'E', Options.errtrace, fun b o => { o with errtrace := b }),
    ("functrace", some 'T', Options.functrace, fun b o => { o with functrace := b }),
    ("noclobber", some 'C', Options.noclobber, fun b o => { o with noclobber := b }),
    ("noexec", some 'n', Options.noexec, fun b o => { o with noexec := b }),
    ("noglob", some 'f', Options.noglob, fun b o => { o with noglob := b }),
    ("nounset", some 'u', Options.nounset, fun b o => { o with nounset := b }),
    ("pipefail", none, Options.pipefail, fun b o => { o with pipefail := b }),
    ("verbose", some 'v', Options.verbose, fun b o => { o with verbose := b }),
    ("xtrace", some 'x', Options.xtrace, fun b o => { o with xtrace := b })]

/-! ## State -/

/-- A function or a file that is being run. -/
structure Frame where
  /-- The name of the function, `source` for a file, `main` for the program. -/
  name : String
  /-- The file from which its commands come. -/
  file : Str
  /-- The line from which it was called. -/
  calledAt : Nat := 0

/-- A function of a shell. -/
structure Function where
  body : Command
  /-- The file that defines it. -/
  file : Str
  /-- How much later its lines count than they were read. -/
  lineShift : Int

/-- What a shell remembers. -/
structure ShellState where
  bindings : List (String × Variable) := []
  functions : List (String × Function) := []
  options : Options := {}
  /-- Other options that are on, by name. -/
  extras : List String := []
  /-- The positional parameters. -/
  params : List Str := []
  /-- What the shell was called as. -/
  name : Str := "bash".toList
  /-- The status of the last command. -/
  status : Nat := 0
  /-- The statuses of the commands of the last pipeline. -/
  statuses : List Nat := [0]
  /-- The status of the last output of commands that was used in the current command. -/
  outputStatus : Option Nat := none
  /-- The number of the shell's own process, which its copies do not change. -/
  pid : Nat := 0
  /-- The number of the process, copy or not. -/
  ownPid : Nat := 0
  lastBackground : Option Nat := none
  /-- Children in the background, with their statuses once known. -/
  jobs : List (Nat × Option Nat) := []
  directory : Str := ['/']
  line : Nat := 1
  /-- How much later lines count than they were read. -/
  lineShift : Int := 0
  frames : List Frame := []
  /-- Variables hidden by local ones, for each function that runs. -/
  hidden : List (List (String × Option Variable)) := []
  /-- How deep texts are being run. -/
  depth : Nat := 0
  /-- How many loops surround the current command. -/
  loops : Nat := 0
  /-- Whether the status of the current command is being tested. -/
  tested : Bool := false
  /-- Whether functions or files may return. -/
  returns : Nat := 0
  /-- How many shells this one is a copy of a copy of. -/
  copies : Nat := 0
  /-- Whether the process has nothing to do after the current command. -/
  last : Bool := false
  /-- Whether the current command is a part of a pipeline. -/
  piped : Bool := false
  /-- Commands to run on signals and events; no text means ignored. -/
  traps : List (String × Str) := []
  inTrap : Bool := false
  /-- When the shell was started, and the time when it last looked. -/
  started : Nat := 0
  now : Nat := 0
  random : Nat := 12345
  mask : Nat := 0o22
  lastArgument : Str := []
  /-- What the next option is looked for in: the place in a word. -/
  optionPlace : Nat := 0

/-- A jump out of what is being run. -/
inductive Jump where
  | leaveLoop (loops : Nat)
  | nextRound (loops : Nat)
  | comeBack (status : Nat)
  | leaveShell (status : Nat)

/-! ## Actions -/

/-- What a shell or a program does. -/
def Sh (α : Type) : Type :=
  ShellState → (Except Jump α → ShellState → Process) → Process

namespace Sh

instance : Monad Sh where
  pure a := fun s k => k (.ok a) s
  bind act next := fun s k => act s fun result s =>
    match result with
    | .ok a => next a s k
    | .error j => k (.error j) s

/-- Jump. -/
def jump {α : Type} (j : Jump) : Sh α := fun s k => k (.error j) s

/-- Do something and catch its jump. -/
def catching {α : Type} (act : Sh α) : Sh (Except Jump α) := fun s k => act s fun result s => k (.ok result) s

/-- Come back with a result or a jump. -/
def resume {α : Type} : Except Jump α → Sh α
  | .ok a => pure a
  | .error j => jump j

/-- The state. -/
def getState : Sh ShellState := fun s k => k (.ok s) s

/-- Change the state. -/
def change (f : ShellState → ShellState) : Sh Unit := fun s k => k (.ok ()) (f s)

/-- Make a request. -/
def ask (r : Request) : Sh Answer := fun s k => .ask r fun a => k (.ok a) s

/-- Make a request whose answer does not matter. -/
def tell (r : Request) : Sh Unit := do
  let _ ← ask r

/-- Do something and then, whether or not it jumps, something else. -/
def ensuring {α : Type} (act : Sh α) (cleanup : Sh Unit) : Sh α := do
  let result ← catching act
  cleanup
  resume result

/-- A process that does something and ends with its status. -/
def toProcess (act : Sh Nat) (s : ShellState) : Process :=
  act s fun result _ =>
    match result with
    | .ok status => .exit status
    | .error (.leaveShell status) => .exit status
    | .error (.comeBack status) => .exit status
    | .error _ => .exit 0

/-- Start a child that does something, and tell its number. -/
def spawn (act : Sh Nat) : Sh Nat := fun s k => .fork (toProcess act s) fun pid => k (.ok pid) s

/-- Go through a list. -/
def forEach {α : Type} (f : α → Sh Unit) : List α → Sh Unit
  | [] => pure ()
  | x :: rest => do
    f x
    forEach f rest

/-- The results for every element of a list. -/
def mapList {α β : Type} (f : α → Sh β) : List α → Sh (List β)
  | [] => pure []
  | x :: rest => do
    let y ← f x
    return y :: (← mapList f rest)

/-- A line of the text that is being run is the current one. -/
def atLine (line : Nat) : Sh Unit := change fun s => { s with line := ((line : Int) + s.lineShift).toNat }

/-! ## Input and output -/

/-- How much programs write at once. -/
def blockSize : Nat := 4096

/-- Write text block by block. -/
def writeBlocks (fd : Nat) : Nat → Str → Sh Unit
  | 0, _ => pure ()
  | fuel + 1, text =>
    if text.isEmpty then pure ()
    else do
      tell (.write fd (text.take blockSize))
      writeBlocks fd fuel (text.drop blockSize)

/-- Write text. -/
def write (fd : Nat) (text : Str) : Sh Unit := writeBlocks fd (text.length + 1) text

/-- Write text to the standard output; whether that was possible. -/
def put (text : Str) : Sh Bool := do
  if text.isEmpty then return true
  else
    match ← ask (.write 1 text) with
    | .refused _ => return false
    | _ => return true

/-- Write text to the standard error. -/
def putError (text : Str) : Sh Unit := write 2 text

/-- Read a descriptor to its end. -/
def readAll (fd : Nat) : Nat → List Str → Sh Str
  | 0, found => return found.reverse.flatten
  | fuel + 1, found => do
    match ← ask (.read fd 65536) with
    | .text t => readAll fd fuel (t :: found)
    | _ => return found.reverse.flatten

/-- More reads than any input takes. -/
def manyReads : Nat := 10000000

/-- Read the standard input to its end. -/
def readInput : Sh Str := readAll 0 manyReads []

end Sh

/-! ## Reading variables -/

/-- The variable of a name. -/
def ShellState.entry? (s : ShellState) (name : String) : Option Variable := s.bindings.lookup name

/-- The text of a variable, when it has one. -/
def ShellState.text? (s : ShellState) (name : String) : Option Str :=
  (s.entry? name).bind fun v => v.value.text?

/-- A variable with another state. -/
def ShellState.setVariable (s : ShellState) (name : String) (v : Variable) : ShellState :=
  if (s.bindings.lookup name).isSome then
    { s with bindings := s.bindings.map fun (n, old) => if n == name then (n, v) else (n, old) }
  else { s with bindings := s.bindings ++ [(name, v)] }

/-- Without a variable. -/
def ShellState.dropVariable (s : ShellState) (name : String) : ShellState :=
  { s with bindings := s.bindings.filter (·.1 != name) }

/-- The variables that programs inherit, with their texts. -/
def ShellState.environment (s : ShellState) : List (String × Str) :=
  s.bindings.filterMap fun (name, v) =>
    match v.exported, v.value with
    | true, .text t => some (name, t)
    | _, _ => none

/-- The characters that separate fields. -/
def ShellState.separators (s : ShellState) : Str := (s.text? "IFS").getD [' ', '\t', '\n']

/-- The file whose commands are being run. -/
def ShellState.file (s : ShellState) : Str :=
  match s.frames with
  | f :: _ => f.file
  | [] => s.name

/-! ## Messages -/

/-- Decimal digits. -/
def showNat (n : Nat) : Str := Decimal.ofNat n

/-- Decimal digits with a sign. -/
def showInt (n : Int) : Str := Decimal.ofInt n

/-- What messages of a shell begin with. -/
def ShellState.messageFront (s : ShellState) : Str :=
  s.file ++ ": line ".toList ++ showNat s.line ++ ": ".toList

/-- Write a message of the shell. -/
def complain (text : Str) : Sh Unit := do
  let s ← Sh.getState
  Sh.putError (s.messageFront ++ text ++ ['\n'])

/-- Write a message of a command of the shell. -/
def complainAs (command : String) (text : Str) : Sh Unit := complain (command.toList ++ ": ".toList ++ text)

/-- Write a message that ends the shell. -/
def die {α : Type} (status : Nat) (text : Str) : Sh α := do
  complain text
  Sh.jump (.leaveShell status)

end FuzzCampaign.Shell
