import FuzzCampaign.CommandLine.Run
import FuzzCampaign.Shell.Host
set_option autoImplicit false

/-! # The program

Reads the configuration's file and the environment, and writes what a run comes to. Scripts run on a
machine of the library's own, which begins without any files of the user: a lifecycle can be rehearsed
without touching the computer. -/

namespace FuzzCampaign.CommandLine

/-- The content of a file. -/
def readContent (path : String) : IO (Except String (List UInt8)) := do
  try
    let bytes ← IO.FS.readBinFile path
    return .ok bytes.toList
  catch _ => return .error "No such file or directory (os error 2)"

/-- The values of environment variables that are set. -/
def readEnvironment (names : List String) : IO (List (String × String)) :=
  names.filterMapM fun name => do return (← IO.getEnv name).map fun text => (name, text)

/-- The content of the file that the words name as the configuration. -/
def readConfig (words : List String) : IO (Except String (List UInt8)) := do
  match Instruction.ofWords words with
  | .ok (.run arguments) => readContent arguments.config
  | _ => return .ok []

/-- The names of the variables that a configuration's scripts are given. -/
def capturedNames (content : Except String (List UInt8)) : List String :=
  match loadConfig content with
  | .ok config => config.resetter.env
  | .error _ => []

/-- Do what the words after the program's name ask for. -/
def carryOut (words : List String) : IO UInt32 := do
  let content ← readConfig words
  let known ← readEnvironment (["HOME", "PATH"] ++ capturedNames content)
  let host := Shell.Machine.host (Shell.Machine.environmentWith
    (known.map fun (name, text) => (name, Shell.Str.ofString text)))
  let value (name : String) : Option (List UInt8) := (known.lookup name).map fun text => text.toUTF8.toList
  let outcome := perform host words (fun _ => content) value Shell.Machine.start
  let output ← IO.getStdout
  output.putStr outcome.output
  for event in outcome.events do
    output.putStrLn (if outcome.format = .json then Json.render event.toJson else event.line)
  unless outcome.complaint.isEmpty do
    (← IO.getStderr).putStrLn outcome.complaint
  return UInt32.ofNat outcome.status

end FuzzCampaign.CommandLine

def main (words : List String) : IO UInt32 := FuzzCampaign.CommandLine.carryOut words
