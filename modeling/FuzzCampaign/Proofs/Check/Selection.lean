import FuzzCampaign.Proofs.CallSteps
import FuzzCampaign.Proofs.Check.LiveState
import FuzzCampaign.Proofs.Check.Registry
set_option autoImplicit false

/-! # The checks that take part

Two lists of tags choose the checks that take part. `active_of_lists` says which lists make a filter, which positions
of the registry it chooses, and that a call runs the checks at these positions and no others. -/

namespace FuzzCampaign

variable {μ : Type}

/-! ## Sets of names -/

theorem Entries.keys_insert {α : Type} {key name : String} {value : α} {entries : List (String × α)} :
    name ∈ (insert key value entries).map Prod.fst ↔ name = key ∨ name ∈ entries.map Prod.fst := by
  induction entries with
  | nil => simp [insert]
  | cons head rest ih =>
    obtain ⟨k, v⟩ := head
    unfold insert
    split
    · simp
    · split
      · next hsame => simp [hsame]
      · simp only [List.map_cons, List.mem_cons, ih]
        exact or_left_comm

theorem Entries.keys_foldl_insert {α : Type} {name : String} {entries sorted : List (String × α)} :
    name ∈ (entries.foldl (fun s (k, v) => insert k v s) sorted).map Prod.fst ↔
      name ∈ sorted.map Prod.fst ∨ name ∈ entries.map Prod.fst := by
  induction entries generalizing sorted with
  | nil => simp
  | cons head rest ih =>
    rw [List.foldl_cons, ih, keys_insert, List.map_cons, List.mem_cons, or_comm (a := name = _), or_assoc]

theorem Entries.isSome_get?_iff {α : Type} {key : String} {entries : List (String × α)} :
    (get? key entries).isSome = true ↔ key ∈ entries.map Prod.fst := by
  induction entries with
  | nil => simp [get?]
  | cons head rest ih =>
    obtain ⟨k, v⟩ := head
    rw [get?, List.map_cons, List.mem_cons]
    split
    · next hsame => simp [hsame]
    · next hother => simp [ih, Ne.symm hother]

namespace StringSet

theorem mem_toList_ofList {name : String} {names : List String} : name ∈ (ofList names).toList ↔ name ∈ names := by
  refine Entries.keys_foldl_insert.trans ?_
  simp [List.map_map, Function.comp_def]

theorem contains_iff {set : StringSet} {name : String} : set.contains name = true ↔ name ∈ set.toList :=
  Entries.isSome_get?_iff

theorem isEmpty_iff {set : StringSet} : set.isEmpty = true ↔ set.toList = [] := by
  simp [isEmpty, toList]

theorem toList_ofList_eq_nil {names : List String} : (ofList names).toList = [] ↔ names = [] := by
  simp only [List.eq_nil_iff_forall_not_mem, mem_toList_ofList]

end StringSet

/-! ## The filter -/

namespace TagFilter

/-- Checks with these tags take part: none of the tags is excluded, and one of them is included when any is. -/
@[mk_iff]
structure Admits (included excluded tags : List String) : Prop where
  allowed : ∀ tag ∈ tags, tag ∉ excluded
  wanted : included ≠ [] → ∃ tag ∈ tags, tag ∈ included

theorem ofLists_eq_ok_iff {included excluded : List String} {filter : TagFilter} :
    ofLists included excluded = .ok filter ↔
      filter = ⟨.ofList included, .ofList excluded⟩ ∧ (∀ tag ∈ included ++ excluded, LegalName tag) ∧
        ∀ tag ∈ included, tag ∉ excluded := by
  have hlegal : legalNames "tag" ((StringSet.ofList included).toList ++ (StringSet.ofList excluded).toList) = .ok () ↔
      ∀ tag ∈ included ++ excluded, LegalName tag := by
    simp only [legalNames_iff, List.mem_append, StringSet.mem_toList_ofList]
  have hapart : (StringSet.ofList included).toList.find? (StringSet.ofList excluded).contains = none ↔
      ∀ tag ∈ included, tag ∉ excluded := by
    simp only [List.find?_eq_none, StringSet.contains_iff, StringSet.mem_toList_ofList]
  rw [← hlegal, ← hapart, ofLists]
  dsimp only
  cases legalNames "tag" ((StringSet.ofList included).toList ++ (StringSet.ofList excluded).toList) with
  | error e => simp
  | ok u =>
    cases (StringSet.ofList included).toList.find? (StringSet.ofList excluded).contains with
    | some tag => simp
    | none => simp [eq_comm]

theorem excludes_eq_false_iff {filter : TagFilter} {tags : StringSet} :
    filter.excludes tags = false ↔ Admits filter.included.toList filter.excluded.toList tags.toList := by
  have hallowed : tags.toList.any filter.excluded.contains = false ↔
      ∀ tag ∈ tags.toList, tag ∉ filter.excluded.toList := by
    simp only [List.any_eq_false, StringSet.contains_iff]
  have hwanted : (!filter.included.isEmpty && !tags.toList.any filter.included.contains) = false ↔
      (filter.included.toList ≠ [] → ∃ tag ∈ tags.toList, tag ∈ filter.included.toList) := by
    rw [Bool.and_eq_false_imp, Bool.not_eq_true', Bool.not_eq_false', List.any_eq_true, ← Bool.not_eq_true,
      StringSet.isEmpty_iff]
    simp only [StringSet.contains_iff]
  rw [excludes, Bool.or_eq_false_iff, hallowed, hwanted, admits_iff]

theorem excludes_ofLists {included excluded : List String} {filter : TagFilter}
    (h : ofLists included excluded = .ok filter) {tags : StringSet} :
    filter.excludes tags = false ↔ Admits included excluded tags.toList := by
  obtain ⟨rfl, -⟩ := ofLists_eq_ok_iff.1 h
  simp only [excludes_eq_false_iff, admits_iff, StringSet.mem_toList_ofList, ne_eq, StringSet.toList_ofList_eq_nil]

end TagFilter

/-! ## The positions -/

namespace CheckEngine

section
variable {engine : CheckEngine μ} {kind : HookKind} {i : Nat}

theorem mem_active_iff :
    i ∈ engine.active kind ↔
      ∃ check, engine.checks[i]? = some check ∧ check.kind = kind ∧ engine.filter.excludes check.tags = false := by
  rw [active, List.mem_filter, List.mem_range]
  cases hcheck : engine.checks[i]? with
  | none => simp
  | some check =>
    have hlt : i < engine.checks.length := (List.getElem?_eq_some_iff.1 hcheck).1
    simp [hlt]

theorem active_increasing (engine : CheckEngine μ) (kind : HookKind) : (engine.active kind).Pairwise (· < ·) :=
  List.pairwise_lt_range.filter _

theorem active_disjoint (engine : CheckEngine μ) :
    (engine.active .beforeRequest).Disjoint (engine.active .afterResponse) := by
  intro i hbefore hafter
  obtain ⟨check, hcheck, hkind, -⟩ := mem_active_iff.1 hbefore
  obtain ⟨other, hother, hkind', -⟩ := mem_active_iff.1 hafter
  cases hcheck.symm.trans hother
  cases hkind.symm.trans hkind'

/-- A filter that excludes more leaves fewer positions. -/
theorem active_sublist {filter : TagFilter}
    (h : ∀ tags, filter.excludes tags = false → engine.filter.excludes tags = false) (kind : HookKind) :
    ({ engine with filter }.active kind).Sublist (engine.active kind) := by
  refine List.monotone_filter_right _ fun i hi => ?_
  dsimp only at hi ⊢
  cases hcheck : engine.checks[i]? with
  | none => simp [hcheck] at hi
  | some check =>
    simp only [hcheck, Bool.and_eq_true, Bool.not_eq_true'] at hi ⊢
    exact ⟨hi.1, h _ hi.2⟩

end

theorem after_filter (engine : CheckEngine μ) (filter : TagFilter) (call : EngineCall μ) :
    { engine with filter }.after call = { engine.after call with filter } := by
  cases call with
  | register d =>
    simp only [after, register]
    cases validate (engine.checks.map Check.name) d <;> rfl
  | run i request response callDeadline w =>
    simp only [after, run]
    cases engine.checks[i]? <;> rfl

/-- The filter is no matter of registrations and runs. -/
theorem reached_filter (filter other : TagFilter) (limits : CheckLimits) (calls : List (EngineCall μ)) :
    reached other limits calls = { reached filter limits calls with filter := other } := by
  induction calls with
  | nil => rfl
  | cons call earlier ih => rw [reached, ih, after_filter, reached]

theorem filter_reached (filter : TagFilter) (limits : CheckLimits) (calls : List (EngineCall μ)) :
    (reached filter limits calls).filter = filter := by
  rw [reached_filter filter filter]

end CheckEngine

/-! ## The checks of a call -/

/-- Whether a message announces a check of the user. -/
def ClientMessage.startsUserCheck : ClientMessage → Bool
  | .checkProgress p => p.userProperty && p.status == .start
  | _ => false

namespace CheckEngine

/-- Runs of checks that take part, and what they leave of an engine. -/
inductive ActiveRuns : CheckEngine μ → List (HookKind × Nat) → CheckEngine μ → Prop where
  | none {engine : CheckEngine μ} : ActiveRuns engine [] engine
  | run {engine engine' engine'' : CheckEngine μ} {kind : HookKind} {i : Nat} {request : Tree} {response : Option Tree}
      {callDeadline : Nat} {w w' : World μ} {outcome : Outcome} {positions : List (HookKind × Nat)} :
      i ∈ engine.active kind → engine.run i request response callDeadline w = .ok (outcome, engine', w') →
      ActiveRuns engine' positions engine'' → ActiveRuns engine ((kind, i) :: positions) engine''

section
variable {engine engine' engine'' : CheckEngine μ} {positions more : List (HookKind × Nat)}

theorem ActiveRuns.append (h : ActiveRuns engine positions engine') (h' : ActiveRuns engine' more engine'') :
    ActiveRuns engine (positions ++ more) engine'' := by
  induction h with
  | none => exact h'
  | run hi hrun _ ih => exact .run hi hrun (ih h')

theorem ActiveRuns.alike (h : ActiveRuns engine positions engine') : engine.Alike engine' := by
  induction h with
  | none => exact .refl _
  | run _ hrun _ ih =>
    obtain ⟨-, -, -, -, halike, -⟩ := of_run hrun
    exact halike.trans ih

/-- The checks that take part are the same throughout. -/
theorem ActiveRuns.active (h : ActiveRuns engine positions engine') : ∀ p ∈ positions, p.2 ∈ engine.active p.1 := by
  induction h with
  | none => simp
  | run hi hrun _ ih =>
    obtain ⟨-, -, -, -, halike, -⟩ := of_run hrun
    refine List.forall_mem_cons.2 ⟨hi, fun p hp => ?_⟩
    rw [← halike.active]
    exact ih p hp

end

end CheckEngine

namespace CallExecution

open CheckEngine (ActiveRuns)
open World (Sends writerStopped send_cases queued_look queued_apply sends_interact)

/-- From one engine and world to the next no checks of the user were run but some that take part, each of which was
announced, and none of these runs was refused. -/
structure KeepsToActive (engine : CheckEngine μ) (w : World μ) (result : Except CampaignError Unit)
    (engine' : CheckEngine μ) (w' : World μ) : Prop where
  runs : ∃ positions messages, ActiveRuns engine positions engine' ∧ w'.sent = w.sent ++ messages ∧
    messages.filter ClientMessage.startsUserCheck = positions.map fun p => (userLabel engine p.1 p.2).start
  error : ∀ e, result = .error e → e = writerStopped ∨ ∃ what, e = .cancelled what

section
variable {effects : Effects μ → Prop} {engine engine' engine'' : CheckEngine μ} {w w' w'' : World μ}
  {result : Except CampaignError Unit} {messages : List ClientMessage} {o : Outcome}

theorem KeepsToActive.trans (h : KeepsToActive engine w (.ok ()) engine' w')
    (h' : KeepsToActive engine' w' result engine'' w'') : KeepsToActive engine w result engine'' w'' := by
  obtain ⟨positions, messages, hruns, hsent, hstarts⟩ := h.runs
  obtain ⟨later, more, hruns', hsent', hstarts'⟩ := h'.runs
  refine ⟨⟨positions ++ later, messages ++ more, hruns.append hruns', ?_, ?_⟩, h'.error⟩
  · rw [hsent', hsent, List.append_assoc]
  · simp only [List.filter_append, hstarts, hstarts', List.map_append, userLabel_alike hruns.alike]

/-- No check was announced and none was run. -/
theorem keepsToActive_of_sends (engine : CheckEngine μ) (h : Sends w messages w')
    (hnone : messages.filter ClientMessage.startsUserCheck = [])
    (herror : ∀ e, result = .error e → e = writerStopped ∨ ∃ what, e = .cancelled what) :
    KeepsToActive engine w result engine w' :=
  ⟨⟨[], messages, .none, h.sent, hnone⟩, herror⟩

/-- A message that announces no check, or is not taken. -/
theorem keepsToActive_send (engine : CheckEngine μ) {m : ClientMessage} {sent : Except CampaignError Unit}
    (hm : m.startsUserCheck = false ∨ sent ≠ .ok ()) (hsend : w.send m = (sent, w')) :
    KeepsToActive engine w sent engine w' := by
  obtain ⟨_, ⟨hgone, hqueued⟩ | ⟨htaken, hqueued⟩⟩ := send_cases w m
  · cases hsend.symm.trans hgone
    exact keepsToActive_of_sends engine hqueued.toSends rfl fun e he => by cases he; exact Or.inl rfl
  · cases hsend.symm.trans htaken
    have hnone : m.startsUserCheck = false := hm.resolve_right (not_not_intro rfl)
    exact keepsToActive_of_sends engine hqueued.toSends (by simp [hnone]) (by simp)

theorem startsUserCheck_progress (o : Outcome) : (ClientMessage.checkProgress o.progress).startsUserCheck = false := by
  cases h : o.status <;> simp [ClientMessage.startsUserCheck, Outcome.progress, OutcomeStatus.verif, h]

theorem keepsToActive_report (engine : CheckEngine μ) (o : Outcome) (w : World μ) :
    KeepsToActive engine w (report o w).1 engine (report o w).2 := by
  have hnone : [ClientMessage.checkProgress o.progress].filter ClientMessage.startsUserCheck = [] := by
    simp [startsUserCheck_progress]
  obtain ⟨w', ⟨hreport, hw'⟩ | ⟨hreport, hw'⟩⟩ := report_cases o w
  · rw [hreport]
    exact keepsToActive_of_sends engine hw'.toSends rfl fun e he => by cases he; exact Or.inl rfl
  · rw [hreport]
    exact keepsToActive_of_sends engine hw'.toSends hnone (by simp)

theorem Step.keepsToActive (h : Step effects engine w result engine' w') :
    KeepsToActive engine w result engine' w' := by
  cases h with
  | look => exact keepsToActive_of_sends engine (queued_look w).toSends rfl (by simp)
  | preparation => exact keepsToActive_of_sends engine (queued_apply w _).toSends rfl (by simp)
  | interaction =>
    exact keepsToActive_of_sends engine ((sends_interact w).after (queued_apply _ _).toSends) rfl (by simp)
  | interrupted =>
    exact keepsToActive_of_sends engine (.refl w) rfl fun e he => by cases he; exact Or.inr ⟨_, rfl⟩
  | publication hm =>
    refine keepsToActive_send engine (.inl ?_) rfl
    cases hm <;> rfl
  | unannounced label hsend => exact keepsToActive_send engine (.inr (by simp)) hsend
  | @modelCheck _ w₁ check _ _ e _ hsend =>
    have hlooked : KeepsToActive engine w₁ (.ok ()) engine (w₁.look.apply e).look :=
      keepsToActive_of_sends engine
        (((queued_look w₁).after (queued_apply _ e)).after (queued_look _)).toSends rfl (by simp)
    exact ((keepsToActive_send engine (.inl rfl) hsend).trans hlooked).trans (keepsToActive_report engine _ _)
  | @userCheck _ _ w₁ w₂ kind i request response deadline outcome hi hsend hrun =>
    obtain ⟨-, -, -, hqueued, -⟩ := CheckEngine.of_run hrun
    obtain ⟨_, ⟨hgone, -⟩ | ⟨htaken, hstart⟩⟩ := send_cases w (userLabel engine kind i).start
    · cases hsend.symm.trans hgone
    cases hsend.symm.trans htaken
    -- the announcement and the run are one: neither goes without the other
    have hmade : KeepsToActive engine w (.ok ()) engine' w₂ :=
      ⟨⟨[(kind, i)], _, .run hi hrun .none, (hstart.before hqueued).sent, rfl⟩, by simp⟩
    exact hmade.trans (keepsToActive_report engine' _ _)

theorem Steps.keepsToActive (h : Steps effects engine w result engine' w') :
    KeepsToActive engine w result engine' w' := by
  induction h with
  | none => exact keepsToActive_of_sends _ (.refl _) rfl (by simp)
  | fail hstep => exact hstep.keepsToActive
  | cons hstep _ ih => exact hstep.keepsToActive.trans ih

end

/-- A call runs no checks of the user but some that take part; the error it ends with is that of a message that is not
taken, that of a cancelled session, or the one of the call that could not be prepared. -/
theorem execute_keepsToActive (model : Model μ) (callBudget : Nat) (call : Call) (engine : CheckEngine μ)
    (w : World μ) :
    ∃ positions messages,
      ActiveRuns engine positions (execute model callBudget call engine w).2.1 ∧
      (execute model callBudget call engine w).2.2.sent = w.sent ++ messages ∧
      messages.filter ClientMessage.startsUserCheck = (positions.map fun p => (userLabel engine p.1 p.2).start) ∧
      ∀ e, (execute model callBudget call engine w).1 = .error e →
        e = writerStopped ∨ (∃ what, e = .cancelled what) ∨ (model.prepare call w.outside).1 = .error e := by
  cases hprepare : (model.prepare call w.outside).1 with
  | error e =>
    rw [execute_refused model callBudget call engine w hprepare]
    have hready := queued_afterPreparing model call w
    exact ⟨[], [], .none, hready.sent, rfl, fun e he => by cases he; exact Or.inr (Or.inr rfl)⟩
  | ok caller =>
    have hkeeps := (steps_execute model callBudget call engine w hprepare).keepsToActive
    obtain ⟨positions, messages, hruns, hsent, hstarts⟩ := hkeeps.runs
    refine ⟨positions, messages, hruns, hsent, hstarts, fun e he => ?_⟩
    exact (hkeeps.error e (by rw [he]; rfl)).imp_right Or.inl

end CallExecution

namespace CheckEngine

open CallExecution (execute userLabel execute_keepsToActive)

/-- **The checks that take part.** Two lists of tags make a filter exactly when every tag is legal and none is in both.
Whatever was registered and run, the positions of a kind are then in increasing order, and they are those of the
checks of this kind that the tags admit. No position is one of both kinds, and none is added when more tags are
excluded. At each of them there is a check to run. A call runs no other checks of the user, each after the message
that it begins, and does not end because there is no check at a position. -/
theorem active_of_lists (included excluded : List String) :
    ((∃ filter, TagFilter.ofLists included excluded = .ok filter) ↔
      (∀ tag ∈ included ++ excluded, LegalName tag) ∧ ∀ tag ∈ included, tag ∉ excluded) ∧
    ∀ filter, TagFilter.ofLists included excluded = .ok filter → ∀ (limits : CheckLimits) (calls : List (EngineCall μ)),
      let engine := reached filter limits calls
      (∀ kind, (engine.active kind).Pairwise (· < ·) ∧
        ∀ i, i ∈ engine.active kind ↔ ∃ check, engine.checks[i]? = some check ∧ check.kind = kind ∧
          TagFilter.Admits included excluded check.tags.toList) ∧
      (engine.active .beforeRequest).Disjoint (engine.active .afterResponse) ∧
      (∀ more filter', excluded ⊆ more → TagFilter.ofLists included more = .ok filter' →
        ∀ kind, ((reached filter' limits calls).active kind).Sublist (engine.active kind)) ∧
      (∀ kind, ∀ i ∈ engine.active kind, ∀ request response callDeadline w,
        ∃ answer, engine.run i request response callDeadline w = .ok answer) ∧
      ∀ (model : Model μ) (callBudget : Nat) (call : Call) (w : World μ), ∃ positions messages,
        ActiveRuns engine positions (execute model callBudget call engine w).2.1 ∧
        (∀ p ∈ positions, p.2 ∈ engine.active p.1) ∧
        (execute model callBudget call engine w).2.2.sent = w.sent ++ messages ∧
        messages.filter ClientMessage.startsUserCheck = (positions.map fun p => (userLabel engine p.1 p.2).start) ∧
        ∀ e, (execute model callBudget call engine w).1 = .error e →
          e = World.writerStopped ∨ (∃ what, e = .cancelled what) ∨ (model.prepare call w.outside).1 = .error e := by
  refine ⟨?_, fun filter hfilter limits calls => ?_⟩
  · simp only [TagFilter.ofLists_eq_ok_iff, exists_eq_left]
  intro engine
  have hengine : engine.filter = filter := filter_reached filter limits calls
  refine ⟨fun kind => ⟨engine.active_increasing kind, fun i => ?_⟩, engine.active_disjoint, ?_, ?_, ?_⟩
  · simp only [mem_active_iff, hengine, TagFilter.excludes_ofLists hfilter]
  · intro more filter' hmore hfilter' kind
    rw [reached_filter filter filter']
    refine active_sublist (fun tags htags => ?_) kind
    rw [hengine, TagFilter.excludes_ofLists hfilter]
    obtain ⟨hallowed, hwanted⟩ := (TagFilter.excludes_ofLists hfilter').1 htags
    exact ⟨fun tag htag hexcluded => hallowed tag htag (hmore hexcluded), hwanted⟩
  · intro kind i hi request response callDeadline w
    obtain ⟨outcome, engine', w', hrun, -⟩ := CallExecution.exists_run hi request response callDeadline w
    exact ⟨_, hrun⟩
  · intro model callBudget call w
    obtain ⟨positions, messages, hruns, hsent, hstarts, herror⟩ :=
      execute_keepsToActive model callBudget call engine w
    exact ⟨positions, messages, hruns, hruns.active, hsent, hstarts, herror⟩

/-- Three checks after the response with these tags. -/
def taggedHistory : List (EngineCall Unit) :=
  [["db", "slow"], [], ["db"]].zipIdx.map fun (tags, i) =>
    .register { name := "check" ++ toString i, after := some { program := fun _ => .done }, tags := .ofList tags }

/-- Of a check for the database, one without tags and one that is slow, only the first takes part. -/
theorem only_fast_database_check_active :
    ∃ filter, TagFilter.ofLists ["db"] ["slow"] = .ok filter ∧
      (reached filter {} taggedHistory).active .afterResponse = [0] ∧
      ∀ i, i ∈ (reached filter {} taggedHistory).active .afterResponse ↔
        ∃ check, (reached filter {} taggedHistory).checks[i]? = some check ∧ check.kind = .afterResponse ∧
          TagFilter.Admits ["db"] ["slow"] check.tags.toList :=
  ⟨⟨.ofList ["db"], .ofList ["slow"]⟩, by decide +kernel, by decide +kernel,
    (((active_of_lists ["db"] ["slow"]).2 _ (by decide +kernel) {} taggedHistory).1 .afterResponse).2⟩

end CheckEngine

end FuzzCampaign
