import FuzzCampaign.Check.Engine
import FuzzCampaign.Lifecycle.Scripts
import FuzzCampaign.Session.Run
import FuzzCampaign.Toml.Document
set_option autoImplicit false

/-! # Configuration

The user's settings, read from a TOML document. Everything has a default and what is not known is passed
over. A configuration is refused for the first of these reasons: the document is malformed or a setting
has the wrong type; the address is blank; a bound is zero; the lifecycle scripts do not go together; the
tags do not make a filter. -/

namespace FuzzCampaign

/-- Where the orchestrator is and how long the client bears with it. -/
structure ServerSettings where
  address : String := "127.0.0.1:7878"
  replyTimeoutSeconds : UInt64 := 30
  maxAttempts : UInt32 := 1000
deriving DecidableEq, Repr, Inhabited

/-- The lifecycle of the system under test. -/
structure ResetterSettings where
  scripts : LifecycleScripts := {}
  phaseTimeoutSeconds : UInt64 := 120
  /-- The environment variables captured for the scripts. -/
  env : List String := []
deriving DecidableEq, Repr, Inhabited

/-- Bounds of the user's checks. -/
structure CheckSettings where
  stepBudget : UInt64 := 100000
  callBudgetMillis : UInt64 := 10000
  checkTimeoutMillis : UInt64 := 3000
deriving DecidableEq, Repr, Inhabited

/-- The tags that choose the checks. -/
structure TagSettings where
  included : List String := []
  excluded : List String := []
deriving DecidableEq, Repr, Inhabited

/-- The user's settings. -/
structure Config where
  server : ServerSettings := {}
  resetter : ResetterSettings := {}
  checks : CheckSettings := {}
  tags : TagSettings := {}
deriving DecidableEq, Repr, Inhabited

/-! ## Reading -/

namespace ServerSettings

/-- From a record. -/
def ofToml? (v : Toml) : Option ServerSettings := do
  let fields ← v.fields? ["address", "reply_timeout_seconds", "max_attempts"]
  let default : ServerSettings := {}
  return {
    address := ← Toml.field Toml.text? default.address "address" fields
    replyTimeoutSeconds :=
      ← Toml.field Toml.uint64? default.replyTimeoutSeconds "reply_timeout_seconds" fields
    maxAttempts := ← Toml.field Toml.uint32? default.maxAttempts "max_attempts" fields }

end ServerSettings

namespace ResetterSettings

/-- From a record. -/
def ofToml? (v : Toml) : Option ResetterSettings := do
  let fields ← v.fields? ["start", "reset", "stop", "phase_timeout_seconds", "env"]
  let default : ResetterSettings := {}
  return {
    scripts := {
      start := ← Toml.field Toml.text? default.scripts.start "start" fields
      reset := ← Toml.field Toml.text? default.scripts.reset "reset" fields
      stop := ← Toml.field Toml.text? default.scripts.stop "stop" fields }
    phaseTimeoutSeconds :=
      ← Toml.field Toml.uint64? default.phaseTimeoutSeconds "phase_timeout_seconds" fields
    env := ← Toml.field Toml.texts? default.env "env" fields }

end ResetterSettings

namespace CheckSettings

/-- From a record. -/
def ofToml? (v : Toml) : Option CheckSettings := do
  let fields ← v.fields? ["step_budget", "call_budget_millis", "check_timeout_millis"]
  let default : CheckSettings := {}
  return {
    stepBudget := ← Toml.field Toml.uint64? default.stepBudget "step_budget" fields
    callBudgetMillis := ← Toml.field Toml.uint64? default.callBudgetMillis "call_budget_millis" fields
    checkTimeoutMillis :=
      ← Toml.field Toml.uint64? default.checkTimeoutMillis "check_timeout_millis" fields }

end CheckSettings

namespace TagSettings

/-- From a record. -/
def ofToml? (v : Toml) : Option TagSettings := do
  let fields ← v.fields? ["include", "exclude"]
  return {
    included := ← Toml.field Toml.texts? [] "include" fields
    excluded := ← Toml.field Toml.texts? [] "exclude" fields }

end TagSettings

namespace Config

/-- From a record. -/
def ofToml? (v : Toml) : Option Config := do
  let fields ← v.fields? ["server", "resetter", "checks", "tags"]
  return {
    server := ← Toml.field ServerSettings.ofToml? {} "server" fields
    resetter := ← Toml.field ResetterSettings.ofToml? {} "resetter" fields
    checks := ← Toml.field CheckSettings.ofToml? {} "checks" fields
    tags := ← Toml.field TagSettings.ofToml? {} "tags" fields }

/-! ## What the settings mean -/

/-- The filter of the tags. -/
def tagFilter (c : Config) : Except CampaignError TagFilter :=
  TagFilter.ofLists c.tags.included c.tags.excluded

/-- The bounds of sessions. -/
def sessionOptions (c : Config) : SessionOptions where
  replyTimeout := c.server.replyTimeoutSeconds.toNat * 1000000000
  maxAttempts := c.server.maxAttempts.toNat
  callBudget := c.checks.callBudgetMillis.toNat * 1000000

/-- The bounds of checks. -/
def checkLimits (c : Config) : CheckLimits where
  stepBudget := c.checks.stepBudget.toNat
  checkTimeout := c.checks.checkTimeoutMillis.toNat * 1000000

/-- How long a lifecycle phase may take, in nanoseconds. -/
def phaseTimeout (c : Config) : Nat := c.resetter.phaseTimeoutSeconds.toNat * 1000000000

/-- The snapshot of the environment; `read` tells the value of a variable. -/
def captureEnv (c : Config) (read : String → Option (List UInt8)) : EnvSnapshot :=
  FuzzCampaign.captureEnv read c.resetter.env

/-! ## Acceptance -/

/-- Refuse settings with which nothing can run. -/
def validate (c : Config) : Except CampaignError Unit :=
  if Text.allBlank c.server.address then .error (.config "server.address must not be empty")
  else if c.server.replyTimeoutSeconds = 0 then
    .error (.config "server.reply_timeout_seconds must be greater than zero")
  else if c.server.maxAttempts = 0 then
    .error (.config "server.max_attempts must be greater than zero")
  else if c.resetter.phaseTimeoutSeconds = 0 then
    .error (.config "resetter.phase_timeout_seconds must be greater than zero")
  else if c.checks.stepBudget = 0 then
    .error (.config "checks.step_budget must be greater than zero")
  else if c.checks.callBudgetMillis = 0 ∨ c.checks.checkTimeoutMillis = 0 then
    .error (.config
      "checks.call_budget_millis and checks.check_timeout_millis must be greater than zero")
  else
    match c.resetter.scripts.validate with
    | .error e => .error e
    | .ok () =>
      match c.tagFilter with
      | .error e => .error e
      | .ok _ => .ok ()

/-- From the text of a document. -/
def parse (text : String) : Except CampaignError Config :=
  match (Toml.parse? text).bind ofToml? with
  | none => .error (.config "invalid config: not a document of settings")
  | some c =>
    match c.validate with
    | .error e => .error e
    | .ok () => .ok c

end Config

end FuzzCampaign
