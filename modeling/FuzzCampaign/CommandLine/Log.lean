import FuzzCampaign.Json.Value
import FuzzCampaign.Lifecycle.Scripts
import FuzzCampaign.World
set_option autoImplicit false

/-! # Log events

What the program tells about a run while it goes on, and the two forms in which a log holds it: lines for
people, and objects for programs. -/

namespace FuzzCampaign.CommandLine

/-- How much an event matters. -/
inductive LogLevel where
  | info
  | warn
  | error
deriving DecidableEq, Repr

/-- The name of a level. -/
def LogLevel.name : LogLevel → String
  | .info => "INFO"
  | .warn => "WARN"
  | .error => "ERROR"

/-- Something worth a line in the log. -/
structure LogEvent where
  level : LogLevel := .info
  message : String
  /-- The phases of a reset, where the event tells them. -/
  plan : Option (List Phase) := none
  /-- The phase that the event is about. -/
  phase : Option Phase := none
deriving DecidableEq, Repr

/-- How plans call a phase. -/
def phaseTitle : Phase → String
  | .start => "Start"
  | .reset => "Reset"
  | .stop => "Stop"

/-- The text of a plan. -/
def planText (plan : List Phase) : String := "[" ++ ", ".intercalate (plan.map phaseTitle) ++ "]"

/-- The events of what was shown: lines of scripts. -/
def outputEvents (shown : List SinkEvent) : List LogEvent :=
  shown.filterMap fun e =>
    match e with
    | .printf line => some { message := line }
    | .errorf line => some { level := .warn, message := line }
    | _ => none

/-! ## Forms -/

/-- An event as a line for people. -/
def LogEvent.line (e : LogEvent) : String :=
  let planned := match e.plan with
    | some plan => " plan=" ++ planText plan
    | none => ""
  let about := match e.phase with
    | some phase => " phase=" ++ phase.name
    | none => ""
  e.level.name ++ " " ++ e.message ++ planned ++ about

/-- An event as an object. -/
def LogEvent.toJson (e : LogEvent) : Json :=
  let planned := e.plan.toList.map fun plan => ("plan", Json.str (planText plan))
  let about := e.phase.toList.map fun phase => ("phase", Json.str phase.name)
  .obj [("level", .str e.level.name), ("fields", .obj (("message", .str e.message) :: planned ++ about))]

end FuzzCampaign.CommandLine
