import FuzzCampaign.Error
set_option autoImplicit false

/-! # Lifecycle scripts and the phases of a reset

The user gives up to three scripts. A blank script counts as undefined. Which phases a reset runs depends
on the scripts that are defined and on whether it is the first reset of the attempt; only reset alone,
start and stop, or all three go together. -/

namespace FuzzCampaign

/-- One lifecycle script. -/
inductive Phase where
  | start
  | reset
  | stop
deriving DecidableEq, Repr

namespace Phase

/-- Every phase, in the order of their files. -/
def all : List Phase := [.start, .reset, .stop]

/-- The name of a phase. -/
def name : Phase → String
  | .start => "start"
  | .reset => "reset"
  | .stop => "stop"

end Phase

/-- The user's lifecycle scripts. -/
structure LifecycleScripts where
  start : String := ""
  reset : String := ""
  stop : String := ""
deriving DecidableEq, Repr, Inhabited

namespace LifecycleScripts

/-- The text given for a phase. -/
def text (scripts : LifecycleScripts) : Phase → String
  | .start => scripts.start
  | .reset => scripts.reset
  | .stop => scripts.stop

/-- The script of a phase, when it is defined. -/
def get? (scripts : LifecycleScripts) (phase : Phase) : Option String :=
  if Text.allBlank (scripts.text phase) then none else some (scripts.text phase)

/-- Whether a phase has a script. -/
def has (scripts : LifecycleScripts) (phase : Phase) : Bool := (scripts.get? phase).isSome

/-- Whether no script is defined. -/
def isEmpty (scripts : LifecycleScripts) : Bool := Phase.all.all fun p => !scripts.has p

/-- How a message calls a script that is defined or not. -/
def definedWord (isDefined : Bool) : String := if isDefined then "defined" else "empty"

/-- The error of scripts that do not go together. -/
def unsupported (start reset stop : Bool) : CampaignError :=
  .config ("unsupported combination of lifecycle scripts (start: " ++ definedWord start ++ ", reset: " ++
    definedWord reset ++ ", stop: " ++ definedWord stop ++
    "); define either reset alone, start and stop, or all three")

/-- The phases of a reset. -/
def planReset (scripts : LifecycleScripts) (first : Bool) : Except CampaignError (List Phase) :=
  match scripts.has .start, scripts.has .reset, scripts.has .stop, first with
  | false, true, false, _ => .ok [.reset]
  | true, true, true, true => .ok [.start, .reset]
  | true, true, true, false => .ok [.reset]
  | true, false, true, true => .ok [.start]
  | true, false, true, false => .ok [.stop, .start]
  | start, reset, stop, _ => .error (unsupported start reset stop)

/-- Refuse scripts that do not go together. No script at all is accepted. -/
def validate (scripts : LifecycleScripts) : Except CampaignError Unit :=
  if scripts.isEmpty then .ok ()
  else
    match scripts.planReset true with
    | .ok _ => .ok ()
    | .error e => .error e

end LifecycleScripts

end FuzzCampaign
