import FuzzCampaign.Error
import FuzzCampaign.Json.Record
set_option autoImplicit false

/-! # Progress counters

The orchestrator's counters of an attempt. Totals never go down; the calls of the current test only go
down when a new test started, the checks of the current call only when a new call started. -/

namespace FuzzCampaign

/-- How far the current attempt has got. -/
structure Progress where
  tests : UInt32 := 0
  calls : UInt32 := 0
  checks : UInt32 := 0
  testCalls : UInt32 := 0
  callChecks : UInt32 := 0
deriving DecidableEq, Repr, Inhabited

namespace Progress

/-- The error of a counter that went backwards. -/
def backwards (counter : String) (current next : UInt32) : CampaignError :=
  .directive ("progress counter " ++ counter ++ " went backwards: " ++ toString current ++ " -> " ++
    toString next)

/-- Refuse a counter that goes down. -/
def notDecreasing (counter : String) (current next : UInt32) : Except CampaignError Unit :=
  if next < current then .error (backwards counter current next) else .ok ()

/-- The counters after an update. -/
def apply (current update : Progress) : Except CampaignError Progress := do
  notDecreasing "total_tests_count" current.tests update.tests
  notDecreasing "total_calls_count" current.calls update.calls
  notDecreasing "total_checks_count" current.checks update.checks
  if update.tests = current.tests then
    notDecreasing "test_calls_count" current.testCalls update.testCalls
  if update.calls = current.calls then
    notDecreasing "call_checks_count" current.callChecks update.callChecks
  return update

/-! ## As JSON -/

/-- The names of the counters, in order. -/
def fieldNames : List String :=
  ["total_tests_count", "total_calls_count", "total_checks_count", "test_calls_count", "call_checks_count"]

/-- Counters from a record; a counter that is not given is zero. -/
def ofTerm? (t : Json.Term) : Option Progress := do
  let fields ← t.fields? fieldNames
  return {
    tests := ← fields.optional "total_tests_count" Json.Term.uint32? 0
    calls := ← fields.optional "total_calls_count" Json.Term.uint32? 0
    checks := ← fields.optional "total_checks_count" Json.Term.uint32? 0
    testCalls := ← fields.optional "test_calls_count" Json.Term.uint32? 0
    callChecks := ← fields.optional "call_checks_count" Json.Term.uint32? 0 }

/-- Counters from the text of a document. -/
def parse (text : String) : Except CampaignError Progress :=
  match (Json.Term.parse? text).bind ofTerm? with
  | some p => .ok p
  | none => .error (.malformed "not a progress record")

/-- Counters as an object. -/
def toJson (p : Progress) : Json :=
  .obj [("total_tests_count", .ofUInt32 p.tests), ("total_calls_count", .ofUInt32 p.calls),
    ("total_checks_count", .ofUInt32 p.checks), ("test_calls_count", .ofUInt32 p.testCalls),
    ("call_checks_count", .ofUInt32 p.callChecks)]

end Progress

end FuzzCampaign
