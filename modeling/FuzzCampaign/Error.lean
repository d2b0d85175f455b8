import FuzzCampaign.Text.Blank
set_option autoImplicit false

/-! # Errors of a campaign

The causes for which an operation of a campaign fails, the text of each, and which of them end the
session. -/

namespace FuzzCampaign

/-- Why an operation failed. -/
inductive CampaignError where
  /-- A configuration or a definition was refused when it was loaded. -/
  | config (message : String)
  /-- The session stream failed. -/
  | transport (message : String)
  /-- The orchestrator sent something malformed or unexpected. -/
  | directive (message : String)
  /-- A check could not be run. -/
  | check (message : String)
  /-- A lifecycle phase failed. -/
  | reset (phase : String) (exitCode : Option Int) (message : String) (outputTail : List String)
  /-- A file or stream operation failed. -/
  | io (message : String)
  /-- The operation was given up because its session was cancelled. -/
  | cancelled (message : String)
deriving DecidableEq, Repr

namespace CampaignError

/-- A failed phase without an exit code and without output. -/
def phase (name message : String) : CampaignError := .reset name none message []

/-- A document that is not what it should be; the detail names the fault. -/
def malformed (detail : String) : CampaignError := .directive ("malformed json: " ++ detail)

/-- Whether the error ends the session. -/
def isFatal : CampaignError → Bool
  | .transport _ | .directive _ | .io _ | .cancelled _ => true
  | .config _ | .check _ | .reset .. => false

/-- The name of the kind of an error. -/
def kind : CampaignError → String
  | .config _ => "Config"
  | .transport _ => "Transport"
  | .directive _ => "Directive"
  | .check _ => "Check"
  | .reset .. => "Reset"
  | .io _ => "Io"
  | .cancelled _ => "Cancelled"

/-- The text of an error. -/
def message : CampaignError → String
  | .config m => "config: " ++ m
  | .transport m => "transport: " ++ m
  | .directive m => "directive: " ++ m
  | .check m => "check: " ++ m
  | .reset p (some code) m _ => "reset: " ++ p ++ " exited with code " ++ toString code ++ ": " ++ m
  | .reset p none m _ => "reset: " ++ p ++ ": " ++ m
  | .io m => "io: " ++ m
  | .cancelled m => "cancelled: " ++ m

/-- The lines that report a failed reset: the last output of its script and the message when there was
output, else the lines of the error's text. -/
def reasonLines : CampaignError → List String
  | e@(.reset _ _ m tail) => if tail.isEmpty then Text.lines e.message else tail ++ [m]
  | e => Text.lines e.message

end CampaignError

end FuzzCampaign
