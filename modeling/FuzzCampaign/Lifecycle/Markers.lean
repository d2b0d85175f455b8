import FuzzCampaign.Error
import FuzzCampaign.Number.Reading
set_option autoImplicit false

/-! # Control lines

The dispatcher shell is told what to do, and tells how it went, on the streams that also carry the output
of scripts. Control lines begin with a marker around a nonce that no script knows. A line of output is
told apart in this order: an exit code, a line of the execution trace, another line that mentions the
nonce, genuine output. -/

namespace FuzzCampaign

/-- The markers of one dispatcher. -/
structure ControlMarkers where
  nonce : String
deriving DecidableEq, Repr

/-- What a line of the dispatcher's output is. -/
inductive ControlLine where
  /-- A phase ended with this code. -/
  | exitCode (code : Int)
  /-- A line of the execution trace. -/
  | trace (line : String)
  /-- Something like a control line that is none. -/
  | unexpected (line : String)
  /-- Output of a script. -/
  | output (line : String)
deriving DecidableEq, Repr

namespace ControlMarkers

/-- A marker: the nonce, then a control word. -/
def around (m : ControlMarkers) (word : String) : String := "#" ++ m.nonce ++ "#" ++ word ++ "#"

/-- Asks to run a script, whose path follows. -/
def exec (m : ControlMarkers) : String := m.around "exec"

/-- Asks to exit. -/
def exit (m : ControlMarkers) : String := m.around "exit"

/-- Tells the exit code, which follows. -/
def exitCode (m : ControlMarkers) : String := m.around "exitcode"

/-- The line that asks to run a script. -/
def execLine (m : ControlMarkers) (path : String) : String := m.exec ++ path ++ "\n"

/-- The line that asks to exit. -/
def exitLine (m : ControlMarkers) : String := m.exit ++ "\n"

/-- What each line of the execution trace begins with. Its first character is repeated once for each
level of nesting. -/
def tracePrompt : String := "+~trace~ "

/-- Whether a line belongs to the execution trace. -/
def isTrace (line : List Char) : Bool :=
  line.head? = some '+' && (tracePrompt.toList.drop 1).isPrefixOf (line.dropWhile (· == '+'))

/-- What a line is. -/
def classify (m : ControlMarkers) (line : String) : ControlLine :=
  match Text.after? m.exitCode.toList line.toList with
  | some code =>
    match Decimal.int32? (Text.trim code) with
    | some n => .exitCode n
    | none => .unexpected line
  | none =>
    if isTrace line.toList then .trace line
    else if Text.contains m.nonce.toList line.toList then .unexpected line
    else .output line

end ControlMarkers

end FuzzCampaign
