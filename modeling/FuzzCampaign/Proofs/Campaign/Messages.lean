import FuzzCampaign.Campaign.Message
import FuzzCampaign.Proofs.Campaign.Identity
import FuzzCampaign.Proofs.Json.Fields
set_option autoImplicit false

/-! # Messages are read back

Every message is read from its document as what it was: the messages of the client as the orchestrator
reads them, and those of the orchestrator as the client does. Every record is read by its own lemma, from
the members it is written with; what a member that is left out stands for is its default. -/

namespace FuzzCampaign

open Json (Term Fields)
open Json.Term (fields?_obj tagged?_obj)
open Json.Fields (required_eq_some_iff optional_eq_some_iff)

/-! ## Names -/

@[simp]
theorem CheckOrigin.choice?_name (origin : CheckOrigin) :
    Term.choice? CheckOrigin.names (Json.str origin.name).toTerm = some origin := by
  cases origin <;> rfl

@[simp]
theorem VerifStatus.choice?_name (status : VerifStatus) :
    Term.choice? VerifStatus.names (Json.str status.name).toTerm = some status := by
  cases status <;> rfl

@[simp]
theorem ResetStatus.choice?_name (status : ResetStatus) :
    Term.choice? ResetStatus.names (Json.str status.name).toTerm = some status := by
  cases status <;> rfl

/-! ## Records of the client -/

theorem CheckProgress.ofTerm?_members (p : CheckProgress) : ofTerm? (Json.obj p.members).toTerm = some p := by
  obtain ⟨name, origin, status, reason, elapsed, steps, property⟩ := p
  simp only [ofTerm?, Option.bind_eq_bind, Option.bind_eq_some_iff]
  -- what each field is read as is given here; that it is found among the members is left
  refine ⟨_, fields?_obj ?_ ?_, name, ?_, origin, ?_, status, ?_, reason, ?_, elapsed, ?_, steps, ?_, property, ?_,
    rfl⟩
  -- reasons are written when there are any
  all_goals
    cases reason <;>
      simp [members, reasonMembers, required_eq_some_iff, optional_eq_some_iff, Entries.get?]

theorem ResetProgress.ofTerm?_members (p : ResetProgress) : ofTerm? (Json.obj p.members).toTerm = some p := by
  obtain ⟨status, elapsed, reason⟩ := p
  simp only [ofTerm?, Option.bind_eq_bind, Option.bind_eq_some_iff]
  refine ⟨_, fields?_obj ?_ ?_, status, ?_, elapsed, ?_, reason, ?_, rfl⟩
  all_goals
    cases reason <;>
      simp [members, reasonMembers, required_eq_some_iff, optional_eq_some_iff, Entries.get?]

theorem ResetterDescriptor.ofTerm?_toJson (d : ResetterDescriptor) :
    ofTerm? (Term.kindOrIndex? kinds) d.toJson.toTerm = some d := by
  cases d with
  | noop =>
    rw [ofTerm?, toJson, tagged?_obj _ (by simp)]
    rfl
  | shell start reset stop =>
    simp only [ofTerm?, Option.bind_eq_bind, Option.bind_eq_some_iff]
    refine ⟨_, tagged?_obj (.str "shell") (by simp), true, rfl, ?_⟩
    simp only [if_true, Option.bind_eq_some_iff]
    refine ⟨_, fields?_obj (by simp) (by simp), start, ?_, reset, ?_, stop, ?_, rfl⟩
    all_goals simp [optional_eq_some_iff, Entries.get?]

/-- An invocation is read back when its instant is. -/
theorem Invocation.ofTerm?_toJson {i : Invocation} (h : Timestamp.ofText? i.startedAt.toText = some i.startedAt) :
    ofTerm? i.toJson.toTerm = some i := by
  simp only [ofTerm?, Option.bind_eq_bind, Option.bind_eq_some_iff]
  refine ⟨_, fields?_obj (by simp) (by simp), i.sessionId, ?_, i.startedAt, ?_, i.clientVersion, ?_, i.argv, ?_, rfl⟩
  all_goals simp [required_eq_some_iff, optional_eq_some_iff, Entries.get?, Uuid.ofText?_toText, h]

/-- A descriptor is read back when its model is free JSON and its instant is read back. -/
theorem CampaignDescriptor.ofTerm?_members {d : CampaignDescriptor} (hmodel : d.model.Exact)
    (hinstant : Timestamp.ofText? d.invocation.startedAt.toText = some d.invocation.startedAt) :
    ofTerm? (Term.kindOrIndex? ResetterDescriptor.kinds) (Json.obj d.members).toTerm = some d := by
  simp only [ofTerm?, Option.bind_eq_bind, Option.bind_eq_some_iff]
  refine ⟨_, fields?_obj (by simp [members, fieldNames]) (by simp [members]), d.endpoints, ?_, d.env, ?_,
    d.model, ?_, d.resetter, ?_, d.seed, ?_, d.tags, ?_, d.invocation, ?_, rfl⟩
  all_goals
    simp [members, required_eq_some_iff, optional_eq_some_iff, Entries.get?, hmodel.value?_toTerm,
      StringSet.ofList_toList, ResetterDescriptor.ofTerm?_toJson, Invocation.ofTerm?_toJson hinstant]

/-! ## Messages of the client -/

namespace ClientMessage

/-- The free JSON of a message. -/
def free : ClientMessage → List Json
  | .campaign d => [d.model]
  | .callResponseRaw raw => [raw]
  | .callResponseVerified response => [response]
  | .checkProgress _ | .resetProgress _ => []

/-- The instants of a message. -/
def instants : ClientMessage → List Timestamp
  | .campaign d => [d.invocation.startedAt]
  | _ => []

theorem required_single (name : String) {v : Json} (h : v.Exact) :
    (Json.fieldTerms [(name, v)]).required name Term.value? = some v := by
  simp [required_eq_some_iff, Entries.get?, h.value?_toTerm]

/-- The document of a message is read as the message. -/
theorem ofTerm?_toJson {m : ClientMessage} (hfree : ∀ v ∈ m.free, v.Exact)
    (hinstants : ∀ t ∈ m.instants, Timestamp.ofText? t.toText = some t) : ofTerm? m.toJson.toTerm = some m := by
  simp only [ofTerm?, Option.bind_eq_bind, Option.bind_eq_some_iff]
  cases m with
  | campaign d =>
    refine ⟨_, tagged?_obj (.str "campaign") (by simp [CampaignDescriptor.members]), .campaign, rfl, ?_⟩
    have hmembers := CampaignDescriptor.ofTerm?_members (hfree d.model List.mem_cons_self)
      (hinstants d.invocation.startedAt List.mem_cons_self)
    rw [hmembers]
    rfl
  | callResponseRaw raw =>
    refine ⟨_, tagged?_obj (.str "call_response_raw") (by simp), .callResponseRaw, rfl, ?_⟩
    simp only [Option.bind_eq_some_iff]
    exact ⟨_, fields?_obj (by simp) (by simp), raw, required_single "raw" (hfree raw List.mem_cons_self), rfl⟩
  | callResponseVerified response =>
    refine ⟨_, tagged?_obj (.str "call_response_verified") (by simp), .callResponseVerified, rfl, ?_⟩
    simp only [Option.bind_eq_some_iff]
    exact ⟨_, fields?_obj (by simp) (by simp), response,
      required_single "response" (hfree response List.mem_cons_self), rfl⟩
  | checkProgress p =>
    refine ⟨_, tagged?_obj (.str "call_verif_progress") ?_, .checkProgress, rfl, ?_⟩
    · unfold CheckProgress.members reasonMembers
      split <;> simp
    · rw [CheckProgress.ofTerm?_members]
      rfl
  | resetProgress p =>
    refine ⟨_, tagged?_obj (.str "reset_progress") ?_, .resetProgress, rfl, ?_⟩
    · unfold ResetProgress.members reasonMembers
      split <;> simp
    · rw [ResetProgress.ofTerm?_members]
      rfl

end ClientMessage

/-! ## Records of the orchestrator -/

theorem Progress.ofTerm?_toJson (p : Progress) : ofTerm? p.toJson.toTerm = some p := by
  simp only [ofTerm?, Option.bind_eq_bind, Option.bind_eq_some_iff]
  refine ⟨_, fields?_obj (by simp [fieldNames]) (by simp), p.tests, ?_, p.calls, ?_, p.checks, ?_, p.testCalls, ?_,
    p.callChecks, ?_, rfl⟩
  all_goals simp [optional_eq_some_iff, Entries.get?]

theorem FuzzingReport.ofTerm?_members (r : FuzzingReport) : ofTerm? (Json.obj r.members).toTerm = some r := by
  simp only [ofTerm?, Option.bind_eq_bind, Option.bind_eq_some_iff]
  refine ⟨_, fields?_obj (by simp [members]) (by simp [members]), r.maxTests, ?_, r.isShrinking, ?_, r.seed, ?_, rfl⟩
  all_goals simp [members, required_eq_some_iff, optional_eq_some_iff, Entries.get?]

theorem FuzzingResult.ofTerm?_members (r : FuzzingResult) : ofTerm? (Json.obj r.members).toTerm = some r := by
  obtain ⟨success, tests, calls, checks, seed, shrink, next⟩ := r
  have hnull : ∀ bytes, (Json.ofBytes bytes).toTerm ≠ .null := fun bytes h => Term.noConfusion h
  have hnext : ∀ bytes, Term.option? (Term.list? Term.uint8?) (Json.ofBytes bytes).toTerm = some (some bytes) :=
    fun bytes => Term.option?_of_eq_some (Term.list?_ofBytes bytes) (hnull bytes)
  simp only [ofTerm?, Option.bind_eq_bind, Option.bind_eq_some_iff]
  refine ⟨_, fields?_obj ?_ ?_, success, ?_, tests, ?_, calls, ?_, checks, ?_, seed, ?_, shrink, ?_, next, ?_, rfl⟩
  -- the next seed is written when there is one
  all_goals
    cases next <;>
      simp [members, required_eq_some_iff, optional_eq_some_iff, Entries.get?, hnext]

/-! ## Messages of the orchestrator -/

/-- The free JSON of a payload. -/
def ServerPayload.free : ServerPayload → List Json
  | .call c => [c.input]
  | _ => []

theorem ServerPayload.ofTerm?_members {payload : ServerPayload} (hfree : ∀ v ∈ payload.free, v.Exact) :
    ofTerm? (Json.obj payload.members).toTerm = some payload := by
  simp only [ofTerm?, Option.bind_eq_bind, Option.bind_eq_some_iff]
  cases payload with
  | fuzzingReport r =>
    refine ⟨_, tagged?_obj (.str "fuzzing_report") (by simp [FuzzingReport.members]), .fuzzingReport, rfl, ?_⟩
    rw [FuzzingReport.ofTerm?_members]
    rfl
  | call c =>
    refine ⟨_, tagged?_obj (.str "call") (by simp), .call, rfl, ?_⟩
    have hinput := (hfree c.input List.mem_cons_self).value?_toTerm
    simp only [Call.ofTerm?, Option.bind_eq_bind, Option.bind_eq_some_iff]
    refine ⟨c, ⟨_, fields?_obj (by simp) (by simp), c.endpoint, ?_, c.input, ?_, rfl⟩, rfl⟩
    all_goals simp [required_eq_some_iff, Entries.get?, hinput]
  | reset => exact ⟨_, tagged?_obj (.str "reset") (by simp), .reset, rfl, rfl⟩
  | fuzzingResult r =>
    refine ⟨_, tagged?_obj (.str "fuzzing_result") ?_, .fuzzingResult, rfl, ?_⟩
    · unfold FuzzingResult.members
      split <;> simp
    · rw [FuzzingResult.ofTerm?_members]
      rfl

namespace ServerMessage

theorem splitProgress?_memberTerms {members : List (String × Json)} (h : ∀ m ∈ members, m.1 ≠ "progress") :
    splitProgress? (Json.memberTerms members) = some (none, Json.memberTerms members) := by
  induction members with
  | nil => rfl
  | cons member rest ih =>
    obtain ⟨hkey, hrest⟩ := List.forall_mem_cons.1 h
    rw [Json.memberTerms, splitProgress?, ih hrest]
    simp only [bind, Option.bind, if_neg hkey]
    rfl

theorem ne_progress_of_mem_members (payload : ServerPayload) : ∀ m ∈ payload.members, m.1 ≠ "progress" := by
  cases payload with
  | fuzzingReport r => simp [ServerPayload.members, FuzzingReport.members]
  | call c => simp [ServerPayload.members]
  | reset => simp [ServerPayload.members]
  | fuzzingResult r =>
    obtain ⟨success, tests, calls, checks, seed, shrink, next⟩ := r
    cases next <;> simp [ServerPayload.members, FuzzingResult.members]

/-- The document of a message is read as the message. -/
theorem ofTerm?_toJson {m : ServerMessage} (hfree : ∀ v ∈ m.payload.free, v.Exact) :
    ofTerm? m.toJson.toTerm = some m := by
  obtain ⟨progress, payload⟩ := m
  have hpayload := ServerPayload.ofTerm?_members hfree
  have hsplit := splitProgress?_memberTerms (ne_progress_of_mem_members payload)
  rw [Json.toTerm] at hpayload
  cases progress with
  | none =>
    rw [toJson, Json.toTerm, List.nil_append]
    simp only [ofTerm?, Option.bind_eq_bind, Option.bind_eq_some_iff]
    refine ⟨_, hsplit, ?_⟩
    simp only [Option.bind_some, hpayload]
    rfl
  | some p =>
    -- the counters are taken out before the kind is looked for
    have hall : splitProgress? (Json.memberTerms (("progress", p.toJson) :: payload.members)) =
        some (some p.toJson.toTerm, Json.memberTerms payload.members) := by
      rw [Json.memberTerms, splitProgress?, hsplit]
      rfl
    have hprogress := Term.option?_of_eq_some (Progress.ofTerm?_toJson p) nofun
    rw [toJson, Json.toTerm, List.singleton_append]
    simp only [ofTerm?, Option.bind_eq_bind, Option.bind_eq_some_iff]
    refine ⟨_, hall, ?_⟩
    simp only [hprogress, Option.bind_some, hpayload]
    rfl

end ServerMessage

/-! ## Documents without floats -/

theorem floatless_reasonMembers (reason : List String) :
    ∀ member ∈ reasonMembers reason, member.2.floatless = true := by
  unfold reasonMembers
  split <;> simp

theorem ClientMessage.floatless_toJson {m : ClientMessage} (hfree : ∀ v ∈ m.free, v.Exact) :
    m.toJson.floatless = true := by
  cases m with
  | campaign d =>
    have hmodel := (hfree d.model List.mem_cons_self).floatless
    have hresetter : d.resetter.toJson.floatless = true := by
      cases d.resetter <;> rfl
    have hinvocation : d.invocation.toJson.floatless = true := by
      simp [Invocation.toJson, Json.floatless_obj_iff]
    rw [toJson, Json.floatless_obj_iff, CampaignDescriptor.members]
    simp only [List.forall_mem_cons]
    exact ⟨rfl, Json.floatless_arr_map d.endpoints Json.floatless_ofUInt32,
      Json.floatless_obj_map d.env.entries fun _ => rfl, hmodel, hresetter, Json.floatless_ofBytes d.seed,
      Json.floatless_ofTexts d.tags.toList, hinvocation, nofun⟩
  | callResponseRaw raw =>
    simpa [toJson, Json.floatless_obj_iff] using (hfree raw List.mem_cons_self).floatless
  | callResponseVerified response =>
    simpa [toJson, Json.floatless_obj_iff] using (hfree response List.mem_cons_self).floatless
  | checkProgress p =>
    simpa [toJson, CheckProgress.members, Json.floatless_obj_iff, or_imp, forall_and] using
      floatless_reasonMembers p.reason
  | resetProgress p =>
    simpa [toJson, ResetProgress.members, Json.floatless_obj_iff, or_imp, forall_and] using
      floatless_reasonMembers p.reason

theorem ServerMessage.floatless_toJson {m : ServerMessage} (hfree : ∀ v ∈ m.payload.free, v.Exact) :
    m.toJson.floatless = true := by
  obtain ⟨progress, payload⟩ := m
  have hpayload : ∀ member ∈ payload.members, member.2.floatless = true := by
    cases payload with
    | fuzzingReport r => simp [ServerPayload.members, FuzzingReport.members]
    | call c => simpa [ServerPayload.members] using (hfree c.input List.mem_cons_self).floatless
    | reset => simp [ServerPayload.members]
    | fuzzingResult r =>
      obtain ⟨success, tests, calls, checks, seed, shrink, next⟩ := r
      cases next <;> simp [ServerPayload.members, FuzzingResult.members]
  rw [toJson, Json.floatless_obj_iff, List.forall_mem_append]
  refine ⟨?_, hpayload⟩
  cases progress <;> simp [Progress.toJson, Json.floatless_obj_iff]

/-! ## Lines -/

/-- The text of a message of the client is read as the message. -/
theorem ClientMessage.parse_render {m : ClientMessage} (hfree : ∀ v ∈ m.free, v.Exact)
    (hinstants : ∀ t ∈ m.instants, Timestamp.ofText? t.toText = some t) (hdepth : m.toJson.depth ≤ Json.maxDepth) :
    parse m.toJson.render = .ok m := by
  rw [parse, Json.parse?_render (floatless_toJson hfree) hdepth, Option.bind_some, ofTerm?_toJson hfree hinstants]

/-- A line with a message of the orchestrator is read as the message, with its progress if it has some. -/
theorem ServerMessage.ofLine_render {m : ServerMessage} (hfree : ∀ v ∈ m.payload.free, v.Exact)
    (hdepth : m.toJson.depth ≤ 127) : ofLine m.toJson.render = .ok (some m) := by
  have hblank : Text.allBlank m.toJson.render = false := by
    rw [Text.allBlank, Json.render, String.toList_ofList, toJson, Json.print, List.all_cons]
    rfl
  rw [ofLine, hblank, if_neg Bool.false_ne_true, Json.parse?_render (floatless_toJson hfree) hdepth,
    Option.bind_some, ofTerm?_toJson hfree]

/-- A call with free JSON in it and counters beside it. -/
theorem ServerMessage.ofLine_render_call :
    let input : Json := .obj [("amount", .int (.ofUInt64 18446744073709551615)), ("kind", .arr [.null, .str "a\nb"]),
      ("progress", .obj [])]
    let m : ServerMessage := ⟨some { tests := 3, calls := 7 }, .call ⟨4, input⟩⟩
    (∀ v ∈ m.payload.free, v.Exact) ∧ m.toJson.depth ≤ 127 ∧ ofLine m.toJson.render = .ok (some m) := by
  intro input m
  have hfree : ∀ v ∈ m.payload.free, v.Exact := by
    intro v hv
    rw [List.mem_singleton.1 hv]
    exact ⟨by decide, by decide⟩
  exact ⟨hfree, by decide, ofLine_render hfree (by decide)⟩

end FuzzCampaign
