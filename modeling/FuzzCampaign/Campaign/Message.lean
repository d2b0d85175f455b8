import FuzzCampaign.Campaign.Descriptor
import FuzzCampaign.Progress
set_option autoImplicit false

/-! # Messages

What the client and the orchestrator send each other, each message one line of JSON with a `kind`. A
message of the orchestrator may carry progress counters besides. -/

namespace FuzzCampaign

/-! ## Of the client -/

/-- Where a check comes from. -/
inductive CheckOrigin where
  /-- The model. -/
  | builtIn
  /-- The user, before the request is sent. -/
  | beforeRequest
  /-- The user, after the response is received. -/
  | afterResponse
deriving DecidableEq, Repr

/-- The state of a check. -/
inductive VerifStatus where
  /-- About to run. -/
  | start
  /-- Passed, and changed something. -/
  | success
  /-- Ran and had nothing to say. -/
  | skipped
  /-- Failed, and with it the call. -/
  | failure
  /-- Every check of the call passed. -/
  | done
deriving DecidableEq, Repr

/-- Progress of one check, or the end of a call. -/
structure CheckProgress where
  name : String
  origin : CheckOrigin
  status : VerifStatus
  reason : List String
  elapsedNs : UInt64
  executionSteps : UInt64
  userProperty : Bool
deriving DecidableEq, Repr

/-- A check is about to run. -/
def CheckProgress.start (name : String) (origin : CheckOrigin) (userProperty : Bool) : CheckProgress :=
  ⟨name, origin, .start, [], 0, 0, userProperty⟩

/-- Every check of a call passed. -/
def CheckProgress.done : CheckProgress := ⟨"", .builtIn, .done, [], 0, 0, false⟩

/-- The state of a reset. -/
inductive ResetStatus where
  | started
  | ended
  | failed
deriving DecidableEq, Repr

/-- Progress of one reset. -/
structure ResetProgress where
  status : ResetStatus
  elapsedNs : UInt64
  reason : List String
deriving DecidableEq, Repr

/-- A message of the client. -/
inductive ClientMessage where
  /-- Start or continue a campaign. -/
  | campaign (descriptor : CampaignDescriptor)
  /-- The interaction as it was performed. -/
  | callResponseRaw (raw : Json)
  /-- The response as understood by the model. -/
  | callResponseVerified (response : Json)
  /-- A check of the current call. -/
  | checkProgress (progress : CheckProgress)
  /-- The current reset. -/
  | resetProgress (progress : ResetProgress)
deriving Repr

/-! ## Of the orchestrator -/

/-- The header of a campaign. -/
structure FuzzingReport where
  maxTests : UInt32
  isShrinking : Bool
  seed : List UInt8
deriving DecidableEq, Repr

/-- One interaction to perform. -/
structure Call where
  endpoint : UInt32
  input : Json
deriving Repr

/-- The result of an attempt. -/
structure FuzzingResult where
  success : Bool
  tests : UInt32 := 0
  calls : UInt32 := 0
  checks : UInt32 := 0
  reproductionSeed : List UInt8 := []
  willShrink : Bool := false
  nextSeed : Option (List UInt8) := none
deriving DecidableEq, Repr

/-- What a message of the orchestrator asks for or tells. -/
inductive ServerPayload where
  | fuzzingReport (report : FuzzingReport)
  | call (call : Call)
  | reset
  | fuzzingResult (result : FuzzingResult)
deriving Repr

/-- A message of the orchestrator. -/
structure ServerMessage where
  progress : Option Progress
  payload : ServerPayload
deriving Repr

/-! ## Client messages as JSON -/

/-- The origins by name. -/
def CheckOrigin.names : List (String × CheckOrigin) :=
  [("built_in", .builtIn), ("before_request", .beforeRequest), ("after_response", .afterResponse)]

/-- The name of an origin. -/
def CheckOrigin.name : CheckOrigin → String
  | .builtIn => "built_in"
  | .beforeRequest => "before_request"
  | .afterResponse => "after_response"

/-- The states of a check by name. -/
def VerifStatus.names : List (String × VerifStatus) :=
  [("start", .start), ("success", .success), ("skipped", .skipped), ("failure", .failure), ("done", .done)]

/-- The name of a state. -/
def VerifStatus.name : VerifStatus → String
  | .start => "start"
  | .success => "success"
  | .skipped => "skipped"
  | .failure => "failure"
  | .done => "done"

/-- The states of a reset by name. -/
def ResetStatus.names : List (String × ResetStatus) :=
  [("started", .started), ("ended", .ended), ("failed", .failed)]

/-- The name of a state. -/
def ResetStatus.name : ResetStatus → String
  | .started => "started"
  | .ended => "ended"
  | .failed => "failed"

/-- A list of reasons is written unless it is empty. -/
def reasonMembers (reason : List String) : List (String × Json) :=
  if reason.isEmpty then [] else [("reason", .ofTexts reason)]

/-- The members of a check's progress. -/
def CheckProgress.members (p : CheckProgress) : List (String × Json) :=
  [("name", .str p.name), ("origin", .str p.origin.name), ("status", .str p.status.name)] ++
    reasonMembers p.reason ++
    [("elapsed_ns", .ofUInt64 p.elapsedNs), ("execution_steps", .ofUInt64 p.executionSteps),
      ("user_property", .bool p.userProperty)]

/-- The members of a reset's progress. -/
def ResetProgress.members (p : ResetProgress) : List (String × Json) :=
  [("status", .str p.status.name), ("elapsed_ns", .ofUInt64 p.elapsedNs)] ++ reasonMembers p.reason

/-- A check's progress from a record. -/
def CheckProgress.ofTerm? (t : Json.Term) : Option CheckProgress := do
  let fields ← t.fields?
    ["name", "origin", "status", "reason", "elapsed_ns", "execution_steps", "user_property"]
  return {
    name := ← fields.optional "name" Json.Term.text? ""
    origin := ← fields.required "origin" (Json.Term.choice? CheckOrigin.names)
    status := ← fields.required "status" (Json.Term.choice? VerifStatus.names)
    reason := ← fields.optional "reason" (Json.Term.list? Json.Term.text?) []
    elapsedNs := ← fields.optional "elapsed_ns" Json.Term.uint64? 0
    executionSteps := ← fields.optional "execution_steps" Json.Term.uint64? 0
    userProperty := ← fields.optional "user_property" Json.Term.bool? false }

/-- A reset's progress from a record. -/
def ResetProgress.ofTerm? (t : Json.Term) : Option ResetProgress := do
  let fields ← t.fields? ["status", "elapsed_ns", "reason"]
  return {
    status := ← fields.required "status" (Json.Term.choice? ResetStatus.names)
    elapsedNs := ← fields.optional "elapsed_ns" Json.Term.uint64? 0
    reason := ← fields.optional "reason" (Json.Term.list? Json.Term.text?) [] }

namespace ClientMessage

/-- As an object, the kind first. -/
def toJson : ClientMessage → Json
  | .campaign d => .obj (("kind", .str "campaign") :: d.members)
  | .callResponseRaw raw => .obj [("kind", .str "call_response_raw"), ("raw", raw)]
  | .callResponseVerified response =>
    .obj [("kind", .str "call_response_verified"), ("response", response)]
  | .checkProgress p => .obj (("kind", .str "call_verif_progress") :: p.members)
  | .resetProgress p => .obj (("kind", .str "reset_progress") :: p.members)

/-- The kinds of messages. -/
inductive Kind where
  | campaign
  | callResponseRaw
  | callResponseVerified
  | checkProgress
  | resetProgress
deriving DecidableEq, Repr

/-- The kinds by name. -/
def kinds : List (String × Kind) :=
  [("campaign", .campaign), ("call_response_raw", .callResponseRaw),
    ("call_response_verified", .callResponseVerified), ("call_verif_progress", .checkProgress),
    ("reset_progress", .resetProgress)]

/-- From a tagged value. -/
def ofTerm? (t : Json.Term) : Option ClientMessage := do
  let (kind, body) ← t.tagged?
  match ← kind.kind? kinds with
  | .campaign =>
    return .campaign (← CampaignDescriptor.ofTerm? (Json.Term.kindOrIndex? ResetterDescriptor.kinds) body)
  | .callResponseRaw =>
    return .callResponseRaw (← (← body.fields? ["raw"]).required "raw" Json.Term.value?)
  | .callResponseVerified =>
    return .callResponseVerified (← (← body.fields? ["response"]).required "response" Json.Term.value?)
  | .checkProgress => return .checkProgress (← CheckProgress.ofTerm? body)
  | .resetProgress => return .resetProgress (← ResetProgress.ofTerm? body)

/-- From the text of a document. -/
def parse (text : String) : Except CampaignError ClientMessage :=
  match (Json.Term.parse? text).bind ofTerm? with
  | some m => .ok m
  | none => .error (.malformed "not a client message")

/-- Equal but for floats, which are compared by value. -/
def same : ClientMessage → ClientMessage → Bool
  | .campaign a, .campaign b => a.same b
  | .callResponseRaw a, .callResponseRaw b => a.same b
  | .callResponseVerified a, .callResponseVerified b => a.same b
  | .checkProgress a, .checkProgress b => a == b
  | .resetProgress a, .resetProgress b => a == b
  | _, _ => false

end ClientMessage

/-! ## Server messages as JSON -/

/-- A header from a record. -/
def FuzzingReport.ofTerm? (t : Json.Term) : Option FuzzingReport := do
  let fields ← t.fields? ["max_tests", "is_shrinking", "seed"]
  return {
    maxTests := ← fields.required "max_tests" Json.Term.uint32?
    isShrinking := ← fields.optional "is_shrinking" Json.Term.bool? false
    seed := ← fields.optional "seed" (Json.Term.list? Json.Term.uint8?) [] }

/-- The members of a header. -/
def FuzzingReport.members (r : FuzzingReport) : List (String × Json) :=
  [("max_tests", .ofUInt32 r.maxTests), ("is_shrinking", .bool r.isShrinking), ("seed", .ofBytes r.seed)]

/-- A call from a record. -/
def Call.ofTerm? (t : Json.Term) : Option Call := do
  let fields ← t.fields? ["endpoint", "input"]
  return {
    endpoint := ← fields.required "endpoint" Json.Term.uint32?
    input := ← fields.required "input" Json.Term.value? }

/-- A result from a record. -/
def FuzzingResult.ofTerm? (t : Json.Term) : Option FuzzingResult := do
  let fields ← t.fields? ["success", "total_tests_count", "total_calls_count", "total_checks_count",
    "reproduction_seed", "will_shrink", "next_seed"]
  return {
    success := ← fields.required "success" Json.Term.bool?
    tests := ← fields.optional "total_tests_count" Json.Term.uint32? 0
    calls := ← fields.optional "total_calls_count" Json.Term.uint32? 0
    checks := ← fields.optional "total_checks_count" Json.Term.uint32? 0
    reproductionSeed := ← fields.optional "reproduction_seed" (Json.Term.list? Json.Term.uint8?) []
    willShrink := ← fields.optional "will_shrink" Json.Term.bool? false
    nextSeed := ← fields.optional "next_seed" (Json.Term.option? (Json.Term.list? Json.Term.uint8?)) none }

/-- The members of a result. -/
def FuzzingResult.members (r : FuzzingResult) : List (String × Json) :=
  [("success", .bool r.success), ("total_tests_count", .ofUInt32 r.tests),
    ("total_calls_count", .ofUInt32 r.calls), ("total_checks_count", .ofUInt32 r.checks),
    ("reproduction_seed", .ofBytes r.reproductionSeed), ("will_shrink", .bool r.willShrink)] ++
    (match r.nextSeed with
    | some seed => [("next_seed", .ofBytes seed)]
    | none => [])

namespace ServerPayload

/-- The members of a payload, the kind first. -/
def members : ServerPayload → List (String × Json)
  | .fuzzingReport r => ("kind", .str "fuzzing_report") :: r.members
  | .call c => [("kind", .str "call"), ("endpoint", .ofUInt32 c.endpoint), ("input", c.input)]
  | .reset => [("kind", .str "reset")]
  | .fuzzingResult r => ("kind", .str "fuzzing_result") :: r.members

/-- The kinds of payloads. -/
inductive Kind where
  | fuzzingReport
  | call
  | reset
  | fuzzingResult
deriving DecidableEq, Repr

/-- The kinds by name. -/
def kinds : List (String × Kind) :=
  [("fuzzing_report", .fuzzingReport), ("call", .call), ("reset", .reset), ("fuzzing_result", .fuzzingResult)]

/-- From an object with a kind, which may be given by its position. -/
def ofTerm? (t : Json.Term) : Option ServerPayload := do
  let (kind, body) ← t.tagged?
  match ← kind.kindOrIndex? kinds with
  | .fuzzingReport => return .fuzzingReport (← FuzzingReport.ofTerm? body)
  | .call => return .call (← Call.ofTerm? body)
  | .reset => return .reset
  | .fuzzingResult => return .fuzzingResult (← FuzzingResult.ofTerm? body)

end ServerPayload

namespace ServerMessage

/-- The progress among the members of an object, and the other members; `none` when it is given twice. -/
def splitProgress? : List (Option String × Json.Term) →
    Option (Option Json.Term × List (Option String × Json.Term))
  | [] => some (none, [])
  | (key, value) :: rest => do
    let key ← key
    let (progress, others) ← splitProgress? rest
    if key = "progress" then
      if progress.isSome then none else return (some value, others)
    else return (progress, (some key, value) :: others)

/-- From an object. -/
def ofTerm? : Json.Term → Option ServerMessage
  | .obj members => do
    let (progress, others) ← splitProgress? members
    let progress ← match progress with
      | some t => t.option? Progress.ofTerm?
      | none => some none
    return ⟨progress, ← ServerPayload.ofTerm? (.obj others)⟩
  | _ => none

/-- As an object, the progress first. -/
def toJson (m : ServerMessage) : Json :=
  .obj ((match m.progress with
    | some p => [("progress", p.toJson)]
    | none => []) ++ m.payload.members)

/-- The message of one line of the stream; a blank line has none. -/
def ofLine (line : String) : Except CampaignError (Option ServerMessage) :=
  if Text.allBlank line then .ok none
  else
    match (Json.Term.parse? line).bind ofTerm? with
    | some m => .ok (some m)
    | none => .error (.malformed "not a server message")

end ServerMessage

end FuzzCampaign
