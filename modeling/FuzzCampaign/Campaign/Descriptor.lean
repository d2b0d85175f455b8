import FuzzCampaign.Error
import FuzzCampaign.Json.Record
import FuzzCampaign.Campaign.Uuid
import FuzzCampaign.Campaign.Timestamp
import FuzzCampaign.Text.Utf8
set_option autoImplicit false

/-! # Campaign descriptors

What the orchestrator is told at the start of each attempt: the endpoints, the environment snapshot, the
model, the resetter, the seed, the tags and the invocation. Continuing with another seed changes the seed
and nothing else. -/

namespace FuzzCampaign

/-- Captured environment variables, by name. -/
abbrev EnvSnapshot := StringMap String

/-- How the system under test is brought back to a known state. -/
inductive ResetterDescriptor where
  /-- It is assumed to be running and needs nothing. -/
  | noop
  /-- By lifecycle scripts. -/
  | shell (start reset stop : String)
deriving DecidableEq, Repr

/-- The run of the client that started the campaign. -/
structure Invocation where
  sessionId : Uuid
  startedAt : Timestamp
  clientVersion : String
  argv : List String
deriving DecidableEq, Repr

/-- The version of this client. -/
def currentVersion : String := "0.3.0"

/-- The invocation of a client started now with these arguments; the identifier is random. -/
def Invocation.capture (random : BitVec 128) (now : Timestamp) (argv : List String) : Invocation :=
  ⟨.ofRandom random, now, currentVersion, argv⟩

/-- Everything the orchestrator needs to plan a campaign. -/
structure CampaignDescriptor where
  endpoints : List UInt32
  env : EnvSnapshot
  model : Json
  resetter : ResetterDescriptor
  seed : List UInt8
  tags : StringSet
  invocation : Invocation
deriving Repr

namespace CampaignDescriptor

/-- The same campaign with another seed. -/
def withSeed (d : CampaignDescriptor) (seed : List UInt8) : CampaignDescriptor := { d with seed }

/-- The same campaign with another resetter. -/
def withResetter (d : CampaignDescriptor) (resetter : ResetterDescriptor) : CampaignDescriptor :=
  { d with resetter }

/-- Equal but for floats in the model, which are compared by value. -/
def same (a b : CampaignDescriptor) : Bool :=
  a.endpoints == b.endpoints && a.env == b.env && a.model.same b.model && a.resetter == b.resetter &&
    a.seed == b.seed && a.tags == b.tags && a.invocation == b.invocation

end CampaignDescriptor

/-- The environment variables among `names` that are set to well-formed text. -/
def captureEnv (lookup : String → Option (List UInt8)) (names : List String) : EnvSnapshot :=
  names.foldl (fun env name =>
    match (lookup name).bind Text.decode? with
    | some value => env.insert name value
    | none => env) .empty

/-! ## As JSON -/

namespace ResetterDescriptor

/-- As a tagged object. -/
def toJson : ResetterDescriptor → Json
  | .noop => .obj [("kind", .str "noop")]
  | .shell start reset stop =>
    .obj [("kind", .str "shell"), ("start", .str start), ("reset", .str reset), ("stop", .str stop)]

/-- The kinds of resetters, by name. -/
def kinds : List (String × Bool) := [("noop", false), ("shell", true)]

/-- From a tagged value whose kind is read by `kind?`. -/
def ofTerm? (kind? : Json.Term → Option Bool) (t : Json.Term) : Option ResetterDescriptor := do
  let (kind, body) ← t.tagged?
  if ← kind? kind then
    let fields ← body.fields? ["start", "reset", "stop"]
    return .shell (← fields.optional "start" Json.Term.text? "")
      (← fields.optional "reset" Json.Term.text? "") (← fields.optional "stop" Json.Term.text? "")
  else
    match body with
    | .arr (_ :: _) => none
    | _ => return .noop

end ResetterDescriptor

namespace Invocation

/-- As an object. -/
def toJson (i : Invocation) : Json :=
  .obj [("session_id", .str i.sessionId.toText), ("started_at", .str i.startedAt.toText),
    ("client_version", .str i.clientVersion), ("argv", .ofTexts i.argv)]

/-- From a record. -/
def ofTerm? (t : Json.Term) : Option Invocation := do
  let fields ← t.fields? ["session_id", "started_at", "client_version", "argv"]
  return {
    sessionId := ← fields.required "session_id" fun t => t.text?.bind Uuid.ofText?
    startedAt := ← fields.required "started_at" fun t => t.text?.bind Timestamp.ofText?
    clientVersion := ← fields.required "client_version" Json.Term.text?
    argv := ← fields.optional "argv" (Json.Term.list? Json.Term.text?) [] }

end Invocation

namespace CampaignDescriptor

/-- The members of the descriptor's object. -/
def members (d : CampaignDescriptor) : List (String × Json) :=
  [("endpoints", .arr (d.endpoints.map Json.ofUInt32)),
    ("env", .obj (d.env.entries.map fun (k, v) => (k, .str v))),
    ("model", d.model), ("resetter", d.resetter.toJson), ("seed", .ofBytes d.seed),
    ("tags", .ofTexts d.tags.toList), ("invocation", d.invocation.toJson)]

/-- As an object. -/
def toJson (d : CampaignDescriptor) : Json := .obj d.members

/-- The field names, in order. -/
def fieldNames : List String := ["endpoints", "env", "model", "resetter", "seed", "tags", "invocation"]

/-- From a record; the kind of the resetter is read by `kind?`. -/
def ofTerm? (kind? : Json.Term → Option Bool) (t : Json.Term) : Option CampaignDescriptor := do
  let fields ← t.fields? fieldNames
  return {
    endpoints := ← fields.required "endpoints" (Json.Term.list? Json.Term.uint32?)
    env := ← fields.optional "env" (Json.Term.map? Json.Term.text?) .empty
    model := ← fields.required "model" Json.Term.value?
    resetter := ← fields.required "resetter" (ResetterDescriptor.ofTerm? kind?)
    seed := ← fields.optional "seed" (Json.Term.list? Json.Term.uint8?) []
    tags := ← fields.optional "tags" (fun t => (t.list? Json.Term.text?).map StringSet.ofList) .empty
    invocation := ← fields.required "invocation" Invocation.ofTerm? }

/-- From the text of a document. -/
def parse (text : String) : Except CampaignError CampaignDescriptor :=
  match (Json.Term.parse? text).bind (ofTerm? (Json.Term.kind? ResetterDescriptor.kinds)) with
  | some d => .ok d
  | none => .error (.malformed "not a campaign descriptor")

end CampaignDescriptor

end FuzzCampaign
