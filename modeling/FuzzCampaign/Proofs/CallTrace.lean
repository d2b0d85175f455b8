import FuzzCampaign.CallExecution
import FuzzCampaign.Proofs.Check.Run
set_option autoImplicit false

/-! # The messages of a call

A call announces each check and then reports its outcome. `execute_trace` says which messages a call
queues, in which order and how far, whatever its hooks do and whenever its deadline passes, the session is
cancelled or the orchestrator goes away. -/

namespace FuzzCampaign

open World (Queued Sends writerStopped send_cases queued_look queued_present queued_apply)

variable {μ : Type}

/-! ## Messages about checks -/

/-- How messages say which check they are about. -/
structure CheckLabel where
  name : String
  origin : CheckOrigin
  userProperty : Bool
deriving DecidableEq, Repr

namespace CheckLabel

/-- The message that announces a check. -/
def start (label : CheckLabel) : ClientMessage :=
  .checkProgress (.start label.name label.origin label.userProperty)

/-- A report of the outcome of a check. -/
structure IsOutcome (label : CheckLabel) (p : CheckProgress) : Prop where
  name : p.name = label.name
  origin : p.origin = label.origin
  userProperty : p.userProperty = label.userProperty
  status : p.status = .success ∨ p.status = .skipped ∨ p.status = .failure

theorem IsOutcome.status_ne_done {label : CheckLabel} {p : CheckProgress} (h : label.IsOutcome p) :
    p.status ≠ .done := by
  rcases h.status with h | h | h <;> simp [h]

end CheckLabel

/-- Whether a message reports a failure. -/
def ClientMessage.fails : ClientMessage → Bool
  | .checkProgress p => p.status == .failure
  | _ => false

namespace CallExecution

/-- These checks one after the other, each announced and then reported. -/
inductive Pairs : List CheckLabel → List ClientMessage → Prop where
  | nil : Pairs [] []
  | cons {label : CheckLabel} {p : CheckProgress} {labels : List CheckLabel} {rest : List ClientMessage} :
      label.IsOutcome p → Pairs labels rest →
      Pairs (label :: labels) (label.start :: .checkProgress p :: rest)

/-- Every check that is announced is reported by the message after it. -/
inductive Paired : List ClientMessage → Prop where
  | nil : Paired []
  | pair {label : CheckLabel} {p : CheckProgress} {rest : List ClientMessage} :
      label.IsOutcome p → Paired rest → Paired (label.start :: .checkProgress p :: rest)
  | other {m : ClientMessage} {rest : List ClientMessage} :
      (∀ label : CheckLabel, m ≠ label.start) → Paired rest → Paired (m :: rest)

/-- No message reports a failure. -/
def NoneFails (messages : List ClientMessage) : Prop := ∀ m ∈ messages, m.fails = false

theorem Pairs.paired {labels : List CheckLabel} {messages : List ClientMessage} (h : Pairs labels messages) :
    Paired messages := by
  induction h with
  | nil => exact .nil
  | cons hp _ ih => exact .pair hp ih

theorem Paired.append {xs ys : List ClientMessage} (hxs : Paired xs) (hys : Paired ys) :
    Paired (xs ++ ys) := by
  induction hxs with
  | nil => exact hys
  | pair hp _ ih => exact .pair hp ih
  | other hm _ ih => exact .other hm ih

/-- Pairs are about checks: they publish nothing and do not end a call. -/
theorem Pairs.notMem {labels : List CheckLabel} {messages : List ClientMessage} (h : Pairs labels messages) :
    (∀ raw, .callResponseRaw raw ∉ messages) ∧ (∀ verified, .callResponseVerified verified ∉ messages) ∧
      .checkProgress .done ∉ messages := by
  induction h with
  | nil => simp
  | @cons label p _ _ hp _ ih =>
    obtain ⟨hraw, hverified, hdone⟩ := ih
    have hstart : CheckProgress.done ≠ .start label.name label.origin label.userProperty := by
      simp [CheckProgress.done, CheckProgress.start]
    have houtcome : CheckProgress.done ≠ p := fun h => hp.status_ne_done (h ▸ rfl)
    simp only [List.mem_cons, CheckLabel.start, not_or, reduceCtorEq, not_false_eq_true, true_and,
      ClientMessage.checkProgress.injEq]
    exact ⟨hraw, hverified, hstart, houtcome, hdone⟩

/-! ## One part of a call -/

/-- How far a part of a call came: the checks it has, those of them that were begun, their messages, those
that were queued, and how it ended. -/
inductive Part : List CheckLabel → List CheckLabel → List ClientMessage → List ClientMessage →
    Except CampaignError CallVerdict → Prop where
  /-- Every check was reported. -/
  | complete : Part [] [] [] [] (.ok .passed)
  /-- The part was given up before the next check. -/
  | stopped {labels : List CheckLabel} {result : Except CampaignError CallVerdict} :
      result ≠ .ok .passed → Part labels [] [] [] result
  /-- Nobody took the outcome of a check. -/
  | cut {label : CheckLabel} {labels : List CheckLabel} {p : CheckProgress} : label.IsOutcome p →
      Part (label :: labels) [label] [label.start, .checkProgress p] [label.start] (.error writerStopped)
  /-- A check failed. -/
  | failed {label : CheckLabel} {labels : List CheckLabel} {p : CheckProgress}
      {result : Except CampaignError CallVerdict} : label.IsOutcome p → p.status = .failure →
      result ≠ .ok .passed →
      Part (label :: labels) [label] [label.start, .checkProgress p] [label.start, .checkProgress p] result
  /-- A check did not fail. -/
  | passed {label : CheckLabel} {labels begun : List CheckLabel} {p : CheckProgress}
      {pairs queued : List ClientMessage} {result : Except CampaignError CallVerdict} :
      label.IsOutcome p → p.status ≠ .failure → Part labels begun pairs queued result →
      Part (label :: labels) (label :: begun) (label.start :: .checkProgress p :: pairs)
        (label.start :: .checkProgress p :: queued) result

namespace Part

variable {labels begun : List CheckLabel} {pairs queued : List ClientMessage}
  {result : Except CampaignError CallVerdict}

theorem begun_front (h : Part labels begun pairs queued result) : begun <+: labels := by
  induction h with
  | complete | stopped => exact List.nil_prefix
  | cut | failed => exact List.prefix_append [_] _
  | passed _ _ _ ih => exact (List.prefix_cons_inj _).2 ih

theorem pairs_begun (h : Part labels begun pairs queued result) : Pairs begun pairs := by
  induction h with
  | complete | stopped => exact .nil
  | cut hp => exact .cons hp .nil
  | failed hp => exact .cons hp .nil
  | passed hp _ _ ih => exact .cons hp ih

theorem queued_front (h : Part labels begun pairs queued result) : queued <+: pairs := by
  induction h with
  | complete | stopped => exact List.nil_prefix
  | cut => exact List.prefix_append [_] _
  | failed => exact List.prefix_refl _
  | passed _ _ _ ih => exact (List.prefix_cons_inj _).2 ((List.prefix_cons_inj _).2 ih)

theorem whole (h : Part labels begun pairs queued result) :
    result = .error writerStopped ∨ queued = pairs := by
  induction h with
  | complete | stopped | failed => exact Or.inr rfl
  | cut => exact Or.inl rfl
  | passed _ _ _ ih => exact ih.imp_right fun h => by rw [h]

theorem failure_last (h : Part labels begun pairs queued result) : NoneFails queued.dropLast := by
  induction h with
  | complete | stopped | cut => simp [NoneFails]
  | failed => simp [NoneFails, CheckLabel.start, CheckProgress.start, ClientMessage.fails]
  | @passed label _ _ p _ queued _ hp hstatus _ ih =>
    -- the outcome of this check is the last message only when nothing was queued after it
    cases queued with
    | nil => simp [NoneFails, CheckLabel.start, CheckProgress.start, ClientMessage.fails]
    | cons m rest =>
      rw [List.dropLast_cons_cons, List.dropLast_cons_cons]
      simp only [NoneFails, List.forall_mem_cons]
      exact ⟨rfl, by simpa [ClientMessage.fails] using hstatus, ih⟩

/-- A part that passed reported every check, and no failure. -/
theorem of_passed (h : Part labels begun pairs queued (.ok .passed)) :
    begun = labels ∧ queued = pairs ∧ NoneFails pairs := by
  generalize hresult : Except.ok CallVerdict.passed = result at h
  induction h with
  | complete => simp [NoneFails]
  | stopped hnot => exact absurd hresult.symm hnot
  | cut => exact absurd hresult (by simp)
  | failed _ _ hnot => exact absurd hresult.symm hnot
  | passed hp hstatus _ ih =>
    obtain ⟨rfl, rfl, hnone⟩ := ih hresult
    refine ⟨rfl, rfl, ?_⟩
    simp only [NoneFails, List.forall_mem_cons]
    exact ⟨rfl, by simpa [ClientMessage.fails] using hstatus, hnone⟩

/-- What follows a part that passed may still be given up. -/
theorem give_up (h : Part labels begun pairs queued (.ok .passed)) (hresult : result ≠ .ok .passed) :
    Part labels begun pairs queued result := by
  generalize hpassed : Except.ok CallVerdict.passed = passed at h
  induction h with
  | complete => exact .stopped hresult
  | stopped hnot => exact .stopped hresult
  | cut => exact absurd hpassed (by simp)
  | failed hp hstatus _ => exact .failed hp hstatus hresult
  | passed hp hstatus _ ih => exact .passed hp hstatus (ih hpassed)

end Part

/-! ## Checks of the model and of the user -/

theorem report_cases (o : Outcome) (w : World μ) :
    ∃ w', (report o w = (.error writerStopped, w') ∧ Queued w [] w') ∨
      (report o w = (.ok (), w') ∧ Queued w [.checkProgress o.progress] w') := by
  unfold report
  dsimp only
  obtain ⟨w', ⟨hsend, hw⟩ | ⟨hsend, hw⟩⟩ := send_cases _ (.checkProgress o.progress)
  · exact ⟨w', Or.inl ⟨hsend, (queued_present w _).after hw⟩⟩
  · exact ⟨w', Or.inr ⟨hsend, (queued_present w _).after hw⟩⟩

theorem isOutcome_progress {label : CheckLabel} {o : Outcome} (hname : o.name = label.name)
    (horigin : o.origin = label.origin) (huser : o.userProperty = label.userProperty) :
    label.IsOutcome o.progress where
  name := hname
  origin := horigin
  userProperty := huser
  status := by cases h : o.status <;> simp [Outcome.progress, OutcomeStatus.verif, h]

theorem progress_failure {o : Outcome} : o.progress.status = .failure ↔ o.isFailure = true := by
  cases h : o.status <;> simp [Outcome.progress, OutcomeStatus.verif, Outcome.isFailure, h]

/-- What the messages about a check of the model say. -/
def modelLabel (check : CallerCheck μ) : CheckLabel := ⟨check.name, .builtIn, false⟩

/-- What the messages about the user's check at a position say. -/
def userLabel (engine : CheckEngine μ) (kind : HookKind) (index : Nat) : CheckLabel :=
  ⟨(engine.name? index).getD "", kind.origin, true⟩

/-- What the messages about the user's checks of a kind say, in the order of registration. -/
def userLabels (engine : CheckEngine μ) (kind : HookKind) : List CheckLabel :=
  (engine.active kind).map (userLabel engine kind)

theorem userLabel_alike {engine engine' : CheckEngine μ} (h : engine.Alike engine') (kind : HookKind) :
    userLabel engine' kind = userLabel engine kind := by
  funext i
  rw [userLabel, userLabel, h.name?]

theorem userLabels_alike {engine engine' : CheckEngine μ} (h : engine.Alike engine') (kind : HookKind) :
    userLabels engine' kind = userLabels engine kind := by
  rw [userLabels, userLabels, h.active, userLabel_alike h]

/-- One check of the model: the part ends with it, or it was reported without a failure and the next one
follows. -/
theorem builtInChecks_step (check : CallerCheck μ) (rest : List (CallerCheck μ)) (w : World μ) :
    (∃ result w' begun pairs queued, builtInChecks (check :: rest) w = (result, w') ∧ Queued w queued w' ∧
      ∀ labels, Part (modelLabel check :: labels) begun pairs queued result) ∨
    ∃ p w', builtInChecks (check :: rest) w = builtInChecks rest w' ∧
      Queued w [(modelLabel check).start, .checkProgress p] w' ∧ (modelLabel check).IsOutcome p ∧
      p.status ≠ .failure := by
  rw [builtInChecks]
  obtain ⟨w₁, ⟨hsend, hw₁⟩ | ⟨hsend, hw₁⟩⟩ :=
    send_cases w (.checkProgress (.start check.name .builtIn false))
  · rw [hsend]
    exact Or.inl ⟨_, _, _, _, _, rfl, hw₁, fun _ => .stopped (by simp)⟩
  rw [hsend]
  dsimp only
  generalize (check.run w₁.look.outside).2 = effects
  generalize houtcome : Outcome.builtIn check.name _ _ = outcome
  have hlabel : (modelLabel check).IsOutcome outcome.progress := by
    subst houtcome
    exact isOutcome_progress rfl rfl rfl
  have hstarted : Queued w [(modelLabel check).start] (w₁.look.apply effects).look :=
    ((hw₁.before (queued_look _)).before (queued_apply _ _)).before (queued_look _)
  obtain ⟨w₂, ⟨hreport, hw₂⟩ | ⟨hreport, hw₂⟩⟩ := report_cases outcome (w₁.look.apply effects).look
  · rw [hreport]
    exact Or.inl ⟨_, _, _, _, _, rfl, hstarted.before hw₂, fun _ => .cut hlabel⟩
  rw [hreport]
  dsimp only
  have hreported := hstarted.trans hw₂
  by_cases hfail : outcome.isFailure = true
  · rw [if_pos hfail]
    exact Or.inl ⟨_, _, _, _, _, rfl, hreported,
      fun _ => .failed hlabel (progress_failure.2 hfail) (by simp)⟩
  · rw [if_neg hfail]
    exact Or.inr ⟨_, w₂, rfl, hreported, hlabel, fun h => hfail (progress_failure.1 h)⟩

/-- The checks of the model are one part of a call. -/
theorem builtInChecks_part (checks : List (CallerCheck μ)) (w : World μ) :
    ∃ result w' begun pairs queued, builtInChecks checks w = (result, w') ∧ Queued w queued w' ∧
      Part (checks.map modelLabel) begun pairs queued result := by
  induction checks generalizing w with
  | nil => exact ⟨_, _, _, _, _, rfl, Queued.refl w, .complete⟩
  | cons check rest ih =>
    rw [List.map_cons]
    obtain ⟨result, w', begun, pairs, queued, hrun, hw', hpart⟩ | ⟨p, w₁, hrun, hw₁, hlabel, hnot⟩ :=
      builtInChecks_step check rest w
    · exact ⟨result, w', begun, pairs, queued, hrun, hw', hpart _⟩
    · obtain ⟨result, w', begun, pairs, queued, hrest, hw', hpart⟩ := ih w₁
      exact ⟨result, w', _, _, _, hrun.trans hrest, hw₁.trans hw', .passed hlabel hnot hpart⟩

/-- One check of the user: the part ends with it, or it was reported without a failure and the next one
follows. -/
theorem userChecks_step {engine : CheckEngine μ} {i : Nat} {check : Check μ}
    (hcheck : engine.checks[i]? = some check) (request : Tree) (response : Option Tree) (deadline : Nat)
    (rest : List Nat) (w : World μ) :
    (∃ result engine' w' begun pairs queued,
      userChecks check.kind request response deadline (i :: rest) engine w = (result, engine', w') ∧
      Queued w queued w' ∧ engine.Alike engine' ∧
      ∀ labels, Part (userLabel engine check.kind i :: labels) begun pairs queued result) ∨
    ∃ p engine' w', userChecks check.kind request response deadline (i :: rest) engine w =
        userChecks check.kind request response deadline rest engine' w' ∧
      Queued w [(userLabel engine check.kind i).start, .checkProgress p] w' ∧ engine.Alike engine' ∧
      (userLabel engine check.kind i).IsOutcome p ∧ p.status ≠ .failure := by
  rw [userChecks]
  dsimp only
  have hlook := queued_look w
  by_cases hcancelled : w.look.cancelled = true
  · rw [if_pos hcancelled]
    exact Or.inl ⟨_, _, _, _, _, _, rfl, hlook, .refl engine, fun _ => .stopped (by simp)⟩
  rw [if_neg hcancelled]
  by_cases hdeadline : deadline ≤ w.look.clock
  · rw [if_pos hdeadline]
    exact Or.inl ⟨_, _, _, _, _, _, rfl, hlook, .refl engine, fun _ => .stopped (by simp)⟩
  rw [if_neg hdeadline]
  obtain ⟨w₁, ⟨hsend, hw₁⟩ | ⟨hsend, hw₁⟩⟩ :=
    send_cases w.look (.checkProgress (.start ((engine.name? i).getD "") check.kind.origin true))
  · rw [hsend]
    exact Or.inl ⟨_, _, _, _, _, _, rfl, hlook.after hw₁, .refl engine, fun _ => .stopped (by simp)⟩
  rw [hsend]
  dsimp only
  obtain ⟨outcome, engine₁, w₂, hrun, hw₂, halike, hname, horigin, huser, habandoned⟩ :=
    CheckEngine.run_spec hcheck request response deadline w₁
  rw [hrun]
  dsimp only
  have hlabel : (userLabel engine check.kind i).IsOutcome outcome.progress :=
    isOutcome_progress (by simp [userLabel, CheckEngine.name?, hcheck, hname]) horigin huser
  have hstarted : Queued w [(userLabel engine check.kind i).start] w₂ := (hlook.after hw₁).before hw₂
  obtain ⟨w₃, ⟨hreport, hw₃⟩ | ⟨hreport, hw₃⟩⟩ := report_cases outcome w₂
  · rw [hreport]
    exact Or.inl ⟨_, _, _, _, _, _, rfl, hstarted.before hw₃, halike, fun _ => .cut hlabel⟩
  rw [hreport]
  dsimp only
  have hreported := (hstarted.trans hw₃).before (queued_look w₃)
  -- a run that was given up failed, so an interruption also comes after a failure
  by_cases hinterrupted : (outcome.abandoned && w₃.look.cancelled) = true
  · rw [if_pos hinterrupted]
    have hfail := habandoned (Bool.and_eq_true_iff.1 hinterrupted).1
    exact Or.inl ⟨_, _, _, _, _, _, rfl, hreported, halike,
      fun _ => .failed hlabel (progress_failure.2 hfail) (by simp)⟩
  rw [if_neg hinterrupted]
  by_cases hfail : outcome.isFailure = true
  · rw [if_pos hfail]
    exact Or.inl ⟨_, _, _, _, _, _, rfl, hreported, halike,
      fun _ => .failed hlabel (progress_failure.2 hfail) (by simp)⟩
  · rw [if_neg hfail]
    exact Or.inr ⟨_, engine₁, _, rfl, hreported, halike, hlabel, fun h => hfail (progress_failure.1 h)⟩

/-- The user's checks of a kind are one part of a call, and the engine stays the same but for live
states. -/
theorem userChecks_part (kind : HookKind) (request : Tree) (response : Option Tree) (deadline : Nat)
    (indices : List Nat) (engine : CheckEngine μ) (w : World μ)
    (hthere : ∀ i ∈ indices, ∃ check, engine.checks[i]? = some check ∧ check.kind = kind) :
    ∃ result engine' w' begun pairs queued,
      userChecks kind request response deadline indices engine w = (result, engine', w') ∧
      Queued w queued w' ∧ engine.Alike engine' ∧
      Part (indices.map (userLabel engine kind)) begun pairs queued result := by
  induction indices generalizing engine w with
  | nil => exact ⟨_, _, _, _, _, _, rfl, Queued.refl w, .refl engine, .complete⟩
  | cons i rest ih =>
    rw [List.map_cons]
    obtain ⟨check, hcheck, rfl⟩ := hthere i List.mem_cons_self
    obtain ⟨result, engine', w', begun, pairs, queued, hrun, hw', halike, hpart⟩ |
      ⟨p, engine₁, w₁, hrun, hw₁, halike, hlabel, hnot⟩ :=
      userChecks_step hcheck request response deadline rest w
    · exact ⟨result, engine', w', begun, pairs, queued, hrun, hw', halike, hpart _⟩
    · -- a run changes live states only, so the rest of the positions mean the same checks
      have hstill : ∀ j ∈ rest, ∃ other, engine₁.checks[j]? = some other ∧ other.kind = check.kind := by
        intro j hj
        obtain ⟨other, hother, hkind⟩ := hthere j (List.mem_cons_of_mem _ hj)
        exact halike.of_kind hother hkind
      obtain ⟨result, engine', w', begun, pairs, queued, hrest, hw', halike', hpart⟩ := ih engine₁ w₁ hstill
      rw [userLabel_alike halike] at hpart
      exact ⟨result, engine', w', _, _, _, hrun.trans hrest, hw₁.trans hw', halike.trans halike',
        .passed hlabel hnot hpart⟩

/-! ## A whole call -/

/-- What a call queues, given the checks of its three parts and what it publishes. `B`, `C` and `A` are the
messages of the checks that were begun. -/
structure CallTrace (before builtIn after : List CheckLabel) (raw verified : Json)
    (B C A queued : List ClientMessage) (result : Except CampaignError CallVerdict) : Prop where
  before_begun : ∃ begun, begun <+: before ∧ Pairs begun B
  builtIn_begun : ∃ begun, begun <+: builtIn ∧ Pairs begun C
  after_begun : ∃ begun, begun <+: after ∧ Pairs begun A
  queued_front : queued <+: B ++ .callResponseRaw raw ::
    (C ++ .callResponseVerified verified :: (A ++ [.checkProgress .done]))
  /-- The interaction is published only when every check before the request was reported, none of them as
  a failure; the response only when the checks of the model were. -/
  raw_queued : .callResponseRaw raw ∈ queued → Pairs before B ∧ NoneFails B
  verified_queued : .callResponseVerified verified ∈ queued → Pairs builtIn C ∧ NoneFails C
  done_queued : .checkProgress .done ∈ queued ↔ result = .ok .passed
  passed : result = .ok .passed →
    Pairs before B ∧ Pairs builtIn C ∧ Pairs after A ∧ NoneFails (B ++ C ++ A)
  /-- A failure is the last message. -/
  failure_last : NoneFails queued.dropLast
  /-- Unless nobody took a message, no check is left without its outcome. -/
  paired : result = .error writerStopped ∨ Paired queued

section
variable {before builtIn after labels begun : List CheckLabel} {raw verified : Json}
  {B C A pairs queued : List ClientMessage} {result : Except CampaignError CallVerdict}

/-- Nothing but messages of its checks is queued in a part. -/
theorem Part.notMem (h : Part labels begun pairs queued result) :
    (∀ raw, .callResponseRaw raw ∉ queued) ∧ (∀ verified, .callResponseVerified verified ∉ queued) ∧
      .checkProgress .done ∉ queued := by
  obtain ⟨hraw, hverified, hdone⟩ := h.pairs_begun.notMem
  exact ⟨fun raw hm => hraw raw (h.queued_front.subset hm),
    fun verified hm => hverified verified (h.queued_front.subset hm),
    fun hm => hdone (h.queued_front.subset hm)⟩

theorem Part.paired (h : Part labels begun pairs queued result) :
    result = .error writerStopped ∨ Paired queued := by
  refine h.whole.imp_right fun hwhole => ?_
  rw [hwhole]
  exact h.pairs_begun.paired

theorem NoneFails.append {xs ys : List ClientMessage} (hxs : NoneFails xs) (hys : NoneFails ys) :
    NoneFails (xs ++ ys) := fun m hm => (List.mem_append.1 hm).elim (hxs m) (hys m)

/-- Messages without a failure, another one, and more. -/
theorem NoneFails.dropLast_append (hB : NoneFails B) {m : ClientMessage} (hm : m.fails = false)
    (hqueued : NoneFails queued.dropLast) : NoneFails (B ++ m :: queued).dropLast := by
  rw [List.dropLast_append_of_ne_nil (by simp)]
  refine hB.append ?_
  cases queued with
  | nil => simp [NoneFails]
  | cons m' rest =>
    rw [List.dropLast_cons_cons]
    simp only [NoneFails, List.forall_mem_cons]
    exact ⟨hm, hqueued⟩

/-- Pairs, another message, and a part. -/
theorem paired_between (hB : Pairs before B) {m : ClientMessage} (hm : ∀ label : CheckLabel, m ≠ label.start)
    (hqueued : result = .error writerStopped ∨ Paired queued) :
    result = .error writerStopped ∨ Paired (B ++ m :: queued) :=
  hqueued.imp_right fun hqueued => hB.paired.append (.other hm hqueued)

/-- A call that ended with its checks before the request. -/
theorem CallTrace.of_before (h : Part before begun B queued result) (hresult : result ≠ .ok .passed) :
    CallTrace before builtIn after raw verified B [] [] queued result where
  before_begun := ⟨begun, h.begun_front, h.pairs_begun⟩
  builtIn_begun := ⟨[], List.nil_prefix, .nil⟩
  after_begun := ⟨[], List.nil_prefix, .nil⟩
  queued_front := h.queued_front.trans (List.prefix_append _ _)
  raw_queued hmem := absurd hmem (h.notMem.1 raw)
  verified_queued hmem := absurd hmem (h.notMem.2.1 verified)
  done_queued := by simp [h.notMem, hresult]
  passed hpassed := absurd hpassed hresult
  failure_last := h.failure_last
  paired := h.paired

/-- A call that ended with the checks of the model. -/
theorem CallTrace.of_builtIn (hB : Pairs before B) (hnone : NoneFails B)
    (h : Part builtIn begun C queued result) (hresult : result ≠ .ok .passed) :
    CallTrace before builtIn after raw verified B C [] (B ++ .callResponseRaw raw :: queued) result where
  before_begun := ⟨before, List.prefix_refl _, hB⟩
  builtIn_begun := ⟨begun, h.begun_front, h.pairs_begun⟩
  after_begun := ⟨[], List.nil_prefix, .nil⟩
  queued_front := by
    rw [List.prefix_append_right_inj, List.prefix_cons_inj]
    exact h.queued_front.trans (List.prefix_append _ _)
  raw_queued _ := ⟨hB, hnone⟩
  verified_queued hmem := by simp [hB.notMem, h.notMem] at hmem
  done_queued := by simp [hB.notMem, h.notMem, hresult]
  passed hpassed := absurd hpassed hresult
  failure_last := hnone.dropLast_append rfl h.failure_last
  paired := paired_between hB (by simp [CheckLabel.start]) h.paired

/-- A call that ended with its checks after the response. -/
theorem CallTrace.of_after (hB : Pairs before B) (hnoneB : NoneFails B) (hC : Pairs builtIn C)
    (hnoneC : NoneFails C) (h : Part after begun A queued result) (hresult : result ≠ .ok .passed) :
    CallTrace before builtIn after raw verified B C A
      (B ++ .callResponseRaw raw :: (C ++ .callResponseVerified verified :: queued)) result where
  before_begun := ⟨before, List.prefix_refl _, hB⟩
  builtIn_begun := ⟨builtIn, List.prefix_refl _, hC⟩
  after_begun := ⟨begun, h.begun_front, h.pairs_begun⟩
  queued_front := by
    rw [List.prefix_append_right_inj, List.prefix_cons_inj, List.prefix_append_right_inj,
      List.prefix_cons_inj]
    exact h.queued_front.trans (List.prefix_append _ _)
  raw_queued _ := ⟨hB, hnoneB⟩
  verified_queued _ := ⟨hC, hnoneC⟩
  done_queued := by simp [hB.notMem, hC.notMem, h.notMem, hresult]
  passed hpassed := absurd hpassed hresult
  failure_last := hnoneB.dropLast_append rfl (hnoneC.dropLast_append rfl h.failure_last)
  paired := paired_between hB (by simp [CheckLabel.start])
    (paired_between hC (by simp [CheckLabel.start]) h.paired)

/-- A call that passed. -/
theorem CallTrace.of_done (hB : Pairs before B) (hnoneB : NoneFails B) (hC : Pairs builtIn C)
    (hnoneC : NoneFails C) (hA : Pairs after A) (hnoneA : NoneFails A) :
    CallTrace before builtIn after raw verified B C A
      (B ++ .callResponseRaw raw :: (C ++ .callResponseVerified verified :: (A ++ [.checkProgress .done])))
      (.ok .passed) where
  before_begun := ⟨before, List.prefix_refl _, hB⟩
  builtIn_begun := ⟨builtIn, List.prefix_refl _, hC⟩
  after_begun := ⟨after, List.prefix_refl _, hA⟩
  queued_front := List.prefix_refl _
  raw_queued _ := ⟨hB, hnoneB⟩
  verified_queued _ := ⟨hC, hnoneC⟩
  done_queued := by simp
  passed _ := ⟨hB, hC, hA, (hnoneB.append hnoneC).append hnoneA⟩
  failure_last := by
    refine hnoneB.dropLast_append rfl (hnoneC.dropLast_append rfl ?_)
    rw [List.dropLast_concat]
    exact hnoneA
  paired := by
    have hdone : Paired [.checkProgress .done] :=
      .other (by simp [CheckLabel.start, CheckProgress.start, CheckProgress.done]) .nil
    exact paired_between hB (by simp [CheckLabel.start])
      (paired_between hC (by simp [CheckLabel.start]) (Or.inr (hA.paired.append hdone)))

end

/-- Once the checks before the request passed, the interaction takes place, and then as much of the rest of
the call as nothing stops. -/
theorem afterChecks_trace (caller : Caller μ) (deadline : Nat) (engine : CheckEngine μ) (w : World μ)
    {before : List CheckLabel} {B : List ClientMessage} (hB : Part before before B B (.ok .passed)) :
    let interaction := caller.invoke w.cancelled w.outside
    ∃ result engine' w' C A more,
      afterChecks caller deadline engine w = (result, engine', w') ∧ Queued w.interact more w' ∧
      engine.Alike engine' ∧
      CallTrace before (interaction.checks.map modelLabel) (userLabels engine .afterResponse)
        interaction.raw (publishedResponse interaction.response) B C A (B ++ more) result := by
  obtain ⟨-, -, hnoneB⟩ := hB.of_passed
  have hpairsB := hB.pairs_begun
  unfold afterChecks
  generalize caller.invoke w.cancelled w.outside = interaction
  dsimp only
  have hw₁ : Queued w.interact [] (w.interact.apply interaction.effects).look :=
    (queued_apply _ _).after (queued_look _)
  generalize (w.interact.apply interaction.effects).look = w₁ at hw₁
  by_cases hcancelled : w₁.cancelled = true
  · rw [if_pos hcancelled]
    refine ⟨_, _, _, [], [], [], rfl, hw₁, .refl engine, ?_⟩
    rw [List.append_nil]
    exact .of_before (hB.give_up (by simp)) (by simp)
  rw [if_neg hcancelled]
  obtain ⟨w₂, ⟨hsend, hw₂⟩ | ⟨hsend, hw₂⟩⟩ := send_cases w₁ (.callResponseRaw interaction.raw)
  · rw [hsend]
    refine ⟨_, _, _, [], [], [], rfl, hw₁.after hw₂, .refl engine, ?_⟩
    rw [List.append_nil]
    exact .of_before (hB.give_up (by simp)) (by simp)
  rw [hsend]
  dsimp only
  obtain ⟨resultC, w₃, begunC, C, queuedC, hchecks, hw₃, hpartC⟩ :=
    builtInChecks_part interaction.checks w₂
  rw [hchecks]
  have hthree := (hw₁.after hw₂).trans hw₃
  match resultC, hpartC with
  | .error e, hpartC =>
    exact ⟨_, _, _, _, _, _, rfl, hthree, .refl engine, .of_builtIn hpairsB hnoneB hpartC (by simp)⟩
  | .ok .failed, hpartC =>
    exact ⟨_, _, _, _, _, _, rfl, hthree, .refl engine, .of_builtIn hpairsB hnoneB hpartC (by simp)⟩
  | .ok .passed, hpartC =>
  obtain ⟨rfl, rfl, hnoneC⟩ := hpartC.of_passed
  have hpairsC := hpartC.pairs_begun
  dsimp only
  obtain ⟨w₄, ⟨hsend, hw₄⟩ | ⟨hsend, hw₄⟩⟩ :=
    send_cases w₃ (.callResponseVerified (publishedResponse interaction.response))
  · rw [hsend]
    exact ⟨_, _, _, _, _, _, rfl, hthree.before hw₄, .refl engine,
      .of_builtIn hpairsB hnoneB (hpartC.give_up (by simp)) (by simp)⟩
  rw [hsend]
  dsimp only
  obtain ⟨resultA, engine', w₅, begunA, A, queuedA, hchecks, hw₅, halike, hpartA⟩ :=
    userChecks_part .afterResponse caller.request interaction.response deadline
      (engine.active .afterResponse) engine w₄ fun _ => CheckEngine.mem_active
  rw [hchecks]
  have hfive := hthree.trans (hw₄.trans hw₅)
  match resultA, hpartA with
  | .error e, hpartA =>
    exact ⟨_, _, _, _, _, _, rfl, hfive, halike,
      .of_after hpairsB hnoneB hpairsC hnoneC hpartA (by simp)⟩
  | .ok .failed, hpartA =>
    exact ⟨_, _, _, _, _, _, rfl, hfive, halike,
      .of_after hpairsB hnoneB hpairsC hnoneC hpartA (by simp)⟩
  | .ok .passed, hpartA =>
  obtain ⟨rfl, rfl, hnoneA⟩ := hpartA.of_passed
  dsimp only
  obtain ⟨w₆, ⟨hsend, hw₆⟩ | ⟨hsend, hw₆⟩⟩ := send_cases w₅ (.checkProgress .done)
  · rw [hsend]
    exact ⟨_, _, _, _, _, _, rfl, hfive.before hw₆, halike,
      .of_after hpairsB hnoneB hpairsC hnoneC (hpartA.give_up (by simp)) (by simp)⟩
  · rw [hsend]
    have hsix : Queued w.interact
        (.callResponseRaw interaction.raw ::
          (queuedC ++ .callResponseVerified (publishedResponse interaction.response) ::
            (queuedA ++ [.checkProgress .done]))) w₆ := by
      simpa using hfive.trans hw₆
    exact ⟨_, _, _, _, _, _, rfl, hsix, halike,
      .of_done hpairsB hnoneB hpairsC hnoneC hpartA.pairs_begun hnoneA⟩

/-- The interaction of a call takes place at most once, and only after every check before the request was
reported, none of them as a failure. -/
def InvokedOnce (before : List CheckLabel) (B queued : List ClientMessage) (w w' : World μ) : Prop :=
  (w'.interactions = w.interactions ∧ ∀ raw, .callResponseRaw raw ∉ queued) ∨
    (w'.interactions = w.interactions ++ [w.sent.length + B.length] ∧ B <+: queued ∧ Pairs before B ∧
      NoneFails B)

section
variable (model : Model μ) (callBudget : Nat) (call : Call) (engine : CheckEngine μ) (w : World μ)

/-- The surroundings after the call was prepared or refused. -/
def afterPreparing : World μ := w.look.apply (model.prepare call w.outside).2

/-- A call that cannot be prepared is refused. -/
theorem execute_refused {e : CampaignError} (hprepare : (model.prepare call w.outside).1 = .error e) :
    execute model callBudget call engine w = (.error e, engine, afterPreparing model call w) := by
  have hpair : model.prepare call w.outside = (.error e, (model.prepare call w.outside).2) := Prod.ext hprepare rfl
  unfold execute afterPreparing
  dsimp only
  rw [World.outside_look, hpair]

/-- A call that can be prepared is performed. -/
theorem execute_eq_perform {caller : Caller μ} (hprepare : (model.prepare call w.outside).1 = .ok caller) :
    execute model callBudget call engine w =
      perform caller (w.look.clock + callBudget) engine (afterPreparing model call w) := by
  have hpair : model.prepare call w.outside = (.ok caller, (model.prepare call w.outside).2) := Prod.ext hprepare rfl
  unfold execute afterPreparing
  dsimp only
  rw [World.outside_look, hpair]

/-- The surroundings after the checks before the request of a prepared call. -/
def beforeInteraction (caller : Caller μ) : World μ :=
  (userChecks .beforeRequest caller.request none (w.look.clock + callBudget) (engine.active .beforeRequest) engine
    (afterPreparing model call w)).2.2

/-- The interaction of a prepared call, when its checks before the request pass. -/
def interactionOf (caller : Caller μ) : Interaction μ :=
  let v := beforeInteraction model callBudget call engine w caller
  caller.invoke v.cancelled v.outside

theorem queued_afterPreparing : Queued w [] (afterPreparing model call w) := (queued_look w).after (queued_apply _ _)

/-- The checks before the request, or the rest of the call after them. -/
theorem execute_prepared {caller : Caller μ} (hcaller : (model.prepare call w.outside).1 = .ok caller) :
    let interaction := interactionOf model callBudget call engine w caller
    ∃ result engine' w' B C A queued,
      execute model callBudget call engine w = (result, engine', w') ∧ Sends w queued w' ∧
      engine.Alike engine' ∧
      CallTrace (userLabels engine .beforeRequest) (interaction.checks.map modelLabel)
        (userLabels engine .afterResponse) interaction.raw (publishedResponse interaction.response) B C A queued
        result ∧
      InvokedOnce (userLabels engine .beforeRequest) B queued w w' := by
  intro interaction
  have hw₁ := queued_afterPreparing model call w
  rw [execute_eq_perform model callBudget call engine w hcaller]
  unfold perform
  obtain ⟨resultB, engine₁, w₂, begunB, B, queuedB, hchecks, hw₂, halike, hpartB⟩ :=
    userChecks_part .beforeRequest caller.request none (w.look.clock + callBudget)
      (engine.active .beforeRequest) engine (afterPreparing model call w) fun _ => CheckEngine.mem_active
  have hhere : beforeInteraction model callBudget call engine w caller = w₂ := by
    rw [beforeInteraction, hchecks]
  rw [hchecks]
  have hB := hw₁.after hw₂
  have hleft : InvokedOnce (userLabels engine .beforeRequest) B queuedB w w₂ :=
    Or.inl ⟨hB.interactions, hpartB.notMem.1⟩
  match resultB, hpartB with
  | .error e, hpartB =>
    exact ⟨_, _, _, _, _, _, _, rfl, hB.toSends, halike, .of_before hpartB (by simp), hleft⟩
  | .ok .failed, hpartB =>
    exact ⟨_, _, _, _, _, _, _, rfl, hB.toSends, halike, .of_before hpartB (by simp), hleft⟩
  | .ok .passed, hpartB =>
  clear hleft
  obtain ⟨rfl, rfl, hnone⟩ := hpartB.of_passed
  dsimp only
  obtain ⟨result, engine', w', C, A, more, hafter, hw', halike', htrace⟩ :=
    afterChecks_trace caller (w.look.clock + callBudget) engine₁ w₂ hpartB
  rw [hafter]
  rw [userLabels_alike halike, ← hhere] at htrace
  refine ⟨_, _, _, _, _, _, _, rfl, ?_, halike.trans halike', htrace, Or.inr ⟨?_, ?_, ?_, hnone⟩⟩
  · exact hB.toSends.trans ((World.sends_interact w₂).after hw'.toSends)
  · rw [hw'.interactions, World.interact, hB.interactions, hB.sent, List.length_append]
  · exact List.prefix_append _ _
  · exact hpartB.pairs_begun

/-- What a call leaves of the engine, and that it only ever queues messages. -/
theorem execute_sends :
    ∃ queued, Sends w queued (execute model callBudget call engine w).2.2 ∧
      engine.Alike (execute model callBudget call engine w).2.1 := by
  cases hprepare : (model.prepare call w.outside).1 with
  | error e =>
    rw [execute_refused model callBudget call engine w hprepare]
    exact ⟨[], (queued_afterPreparing model call w).toSends, .refl engine⟩
  | ok caller =>
    obtain ⟨result, engine', w', B, C, A, queued, hexecute, hw', halike, -⟩ :=
      execute_prepared model callBudget call engine w hprepare
    rw [hexecute]
    exact ⟨queued, hw', halike⟩

/-- **The messages of a call**, for every model, engine and call and in all surroundings. A call that cannot
be prepared queues nothing. -/
theorem execute_trace :
    match (model.prepare call w.outside).1 with
    | .error e => (execute model callBudget call engine w).1 = .error e ∧
        Queued w [] (execute model callBudget call engine w).2.2
    | .ok caller =>
      let interaction := interactionOf model callBudget call engine w caller
      ∃ B C A queued,
        (execute model callBudget call engine w).2.2.sent = w.sent ++ queued ∧
        CallTrace (userLabels engine .beforeRequest) (interaction.checks.map modelLabel)
          (userLabels engine .afterResponse) interaction.raw (publishedResponse interaction.response) B C A queued
          (execute model callBudget call engine w).1 ∧
        InvokedOnce (userLabels engine .beforeRequest) B queued w
          (execute model callBudget call engine w).2.2 := by
  cases hprepare : (model.prepare call w.outside).1 with
  | error e =>
    rw [execute_refused model callBudget call engine w hprepare]
    exact ⟨rfl, queued_afterPreparing model call w⟩
  | ok caller =>
    obtain ⟨result, engine', w', B, C, A, queued, hexecute, hw', -, hcall⟩ :=
      execute_prepared model callBudget call engine w hprepare
    rw [hexecute]
    exact ⟨B, C, A, queued, hw'.sent, hcall⟩

end

end CallExecution

end FuzzCampaign
