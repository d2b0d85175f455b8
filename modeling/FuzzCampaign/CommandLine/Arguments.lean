import FuzzCampaign.Lifecycle.Scripts
set_option autoImplicit false

/-! # Arguments of the program

The words after the program's name: options first, then a command with words of its own. Words are read
from left to right and the first that does not fit decides, so a request for help counts when nothing
before it is wrong. -/

namespace FuzzCampaign.CommandLine

/-- How log events are written. -/
inductive LogFormat where
  | text
  | json
deriving DecidableEq, Repr

/-- What the program is to do. -/
inductive Command where
  /-- Run one lifecycle request, then stop what it started. -/
  | exec (phase : Phase)
  /-- Look at the configuration. -/
  | lint
deriving DecidableEq, Repr

/-- Arguments with which the program can run. -/
structure Arguments where
  /-- The path of the configuration. -/
  config : String
  format : LogFormat := .text
  command : Command
deriving DecidableEq, Repr

/-- What the user asks for. -/
inductive Instruction where
  | help
  | version
  | run (arguments : Arguments)
deriving DecidableEq, Repr

/-- Why words are no arguments. -/
inductive UsageError where
  /-- A word has no place where it stands. -/
  | unexpected (word : String)
  /-- An option is given twice. -/
  | repeated (option : String)
  /-- An option is the last word, or an option follows it. -/
  | withoutValue (option : String)
  /-- A value is none of those that are possible. -/
  | notPossible (value : String)
  | noCommand
  | noPhase
  | noConfig
deriving DecidableEq, Repr

namespace UsageError

/-- The text of an error. -/
def message : UsageError → String
  | .unexpected word => "unexpected argument '" ++ word ++ "'"
  | .repeated option => "the argument '" ++ option ++ "' cannot be used multiple times"
  | .withoutValue option => "a value is required for '" ++ option ++ "'"
  | .notPossible value => "invalid value '" ++ value ++ "'"
  | .noCommand => "a command is required: exec or lint"
  | .noPhase => "a phase is required: start, reset or stop"
  | .noConfig => "the argument '--config' is required"

end UsageError

/-! ## Values -/

/-- The log format of a name. -/
def LogFormat.ofName? : String → Option LogFormat
  | "text" => some .text
  | "json" => some .json
  | _ => none

/-- The phase of a name. -/
def phaseOfName? (name : String) : Option Phase := Phase.all.find? fun p => p.name == name

/-- Whether a word is an option, or some of them. -/
def isOption (word : String) : Bool :=
  match word.toList with
  | '-' :: _ :: _ => word != "--"
  | _ => false

/-- The help or the version, when a word asks for one of them. -/
def flag? (word : String) : Option Instruction :=
  if word == "--help" || word.startsWith "-h" then some .help
  else if word == "--version" || word.startsWith "-V" then some .version
  else none

/-! ## Commands -/

/-- The phase that the words after `exec` name. After `--` no word is an option. -/
def execPhase : Bool → Option Phase → List String → Except UsageError (Option Phase)
  | _, none, [] => .error .noPhase
  | _, some phase, [] => .ok (some phase)
  | optionsEnded, known, word :: rest =>
    if !optionsEnded && word == "--" then execPhase true known rest
    else if !optionsEnded && isOption word then
      if flag? word = some .help then .ok none else .error (.unexpected word)
    else
      match known, phaseOfName? word with
      | none, some phase => execPhase optionsEnded (some phase) rest
      | none, none => .error (.notPossible word)
      | some _, _ => .error (.unexpected word)

/-- The command that words give; none when they ask for help. -/
def commandOf : List String → Except UsageError (Option Command)
  | "exec" :: rest => (execPhase false none rest).map fun phase => phase.map Command.exec
  | ["lint"] => .ok (some .lint)
  | ["lint", "--"] => .ok (some .lint)
  | "lint" :: word :: _ => if flag? word = some .help then .ok none else .error (.unexpected word)
  | ["help"] => .ok none
  | "help" :: name :: rest =>
    if ["exec", "lint", "help"].contains name then
      match rest with
      | [] => .ok none
      | word :: _ => .error (.unexpected word)
    else .error (.unexpected name)
  | word :: _ => .error (.unexpected word)
  | [] => .error .noCommand

/-! ## All words -/

/-- An option with the value that is attached to it, if one is. -/
def splitOption (word : String) : String × Option String :=
  let name := word.toList.takeWhile (· != '=')
  match word.toList.drop name.length with
  | [] => (word, none)
  | _ :: value => (String.ofList name, some (String.ofList value))

/-- What options are known so far. -/
structure Options where
  config : Option String := none
  format : Option LogFormat := none

/-- Options with one more. -/
def Options.set (o : Options) (option value : String) : Except UsageError Options :=
  match option with
  | "--config" =>
    if o.config.isSome then .error (.repeated option)
    else if value.isEmpty then .error (.withoutValue option)
    else .ok { o with config := some value }
  | "--log-format" =>
    if o.format.isSome then .error (.repeated option)
    else
      match LogFormat.ofName? value with
      | none => .error (.notPossible value)
      | some format => .ok { o with format := some format }
  | _ => .error (.unexpected option)

/-- What the words from the command on ask for. -/
def Options.instruction (o : Options) (words : List String) : Except UsageError Instruction :=
  match commandOf words, o.config with
  | .error e, _ => .error e
  | .ok none, _ => .ok .help
  | .ok (some _), none => .error .noConfig
  | .ok (some command), some config => .ok (.run { config, format := o.format.getD .text, command })

/-- What words ask for after some options, the last of which may still be without its value. -/
def instructionAfter (o : Options) : Option String → List String → Except UsageError Instruction
  | some option, [] => .error (.withoutValue option)
  | some option, value :: rest =>
    if isOption value || value == "--" then .error (.withoutValue option)
    else
      match o.set option value with
      | .error e => .error e
      | .ok o => instructionAfter o none rest
  | none, [] => .error .noCommand
  | none, word :: rest =>
    if !isOption word then o.instruction (word :: rest)
    else
      match flag? word, splitOption word with
      | some instruction, _ => .ok instruction
      | none, (option, some value) =>
        match o.set option value with
        | .error e => .error e
        | .ok o => instructionAfter o none rest
      | none, (option, none) =>
        if ["--config", "--log-format"].contains option then instructionAfter o (some option) rest
        else .error (.unexpected option)

/-- What the words after the program's name ask for. -/
def Instruction.ofWords (words : List String) : Except UsageError Instruction := instructionAfter {} none words

end FuzzCampaign.CommandLine
