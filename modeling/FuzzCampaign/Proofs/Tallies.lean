import Mathlib.Data.List.DropRight
import Mathlib.Data.List.Forall2
import Mathlib.Data.List.ReduceOption
import FuzzCampaign.Display
import FuzzCampaign.Proofs.CallSteps
import FuzzCampaign.Proofs.Check.AccessOrder
set_option autoImplicit false

/-! # What the tallies count

The user is told of an outcome before the orchestrator is, who may be gone by then. `counts_queued_and_lost` says what
the tallies of a display amount to all the same: the outcomes that were queued and at most one more for each call. A
model is handed the display too. What it tells by itself of outcomes is counted as well, so the law needs a model that
keeps to itself, and `told_outcomes_counted` shows one that does not. -/

namespace FuzzCampaign

open World (Queued Sends writerStopped send_cases queued_look queued_present queued_apply sends_interact
  closed_of_send_error)
open CallExecution (Paired report report_cases)

variable {μ : Type}

/-! ## Tallies of outcomes -/

/-- The outcome that is counted when this is shown. -/
def SinkEvent.outcome? : SinkEvent → Option OutcomeStatus
  | .passed => some .success
  | .skipped => some .skipped
  | .failed _ => some .failure
  | .report _ | .progress _ | .printf _ | .errorf _ | .terminate => none

/-- The outcome that a message reports. -/
def ClientMessage.outcome? : ClientMessage → Option OutcomeStatus
  | .checkProgress p =>
    match p.status with
    | .success => some .success
    | .skipped => some .skipped
    | .failure => some .failure
    | .start | .done => none
  | _ => none

namespace Tallies

/-- The tallies of outcomes, each modulo 2 ^ 32. -/
def ofOutcomes (outcomes : List OutcomeStatus) : Tallies where
  passed := .ofNat (outcomes.count .success)
  skipped := .ofNat (outcomes.count .skipped)
  failed := .ofNat (outcomes.count .failure)

theorem ofOutcomes_perm {outcomes other : List OutcomeStatus} (h : outcomes.Perm other) :
    ofOutcomes outcomes = ofOutcomes other := by
  simp only [ofOutcomes, h.count_eq]

/-- Of what is shown, an outcome counts and anything else does not, unless the attempt is over. -/
theorem after_ofOutcomes (outcomes : List OutcomeStatus) {e : SinkEvent} (h : e ≠ .terminate) :
    (ofOutcomes outcomes).after e = ofOutcomes (outcomes ++ e.outcome?.toList) := by
  cases e with
  | terminate => exact absurd rfl h
  | passed | skipped | failed | report | progress | printf | errorf =>
    simp [after, ofOutcomes, SinkEvent.outcome?, List.count_append]

theorem foldl_after_ofOutcomes {events : List SinkEvent} (h : .terminate ∉ events) (outcomes : List OutcomeStatus) :
    events.foldl after (ofOutcomes outcomes) = ofOutcomes (outcomes ++ events.filterMap SinkEvent.outcome?) := by
  induction events generalizing outcomes with
  | nil => simp
  | cons e rest ih =>
    rw [List.mem_cons, not_or] at h
    obtain ⟨hhead, hrest⟩ := h
    rw [List.foldl_cons, after_ofOutcomes outcomes (Ne.symm hhead), ih hrest, List.append_assoc]
    cases he : e.outcome? <;> simp [he]

end Tallies

/-! ## What a call counts -/

/-- How messages say which check an outcome is about. -/
def Outcome.label (o : Outcome) : CheckLabel := ⟨o.name, o.origin, o.userProperty⟩

theorem outcome?_progress (o : Outcome) : (ClientMessage.checkProgress o.progress).outcome? = some o.status := by
  cases h : o.status <;> simp [ClientMessage.outcome?, Outcome.progress, OutcomeStatus.verif, h]

theorem outcome?_start (label : CheckLabel) : label.start.outcome? = none := rfl

/-- The outcome of a run is about its check. -/
theorem label_of_run {engine engine' : CheckEngine μ} {kind : HookKind} {i : Nat} {request : Tree}
    {response : Option Tree} {deadline : Nat} {w w' : World μ} {outcome : Outcome} (hi : i ∈ engine.active kind)
    (hrun : engine.run i request response deadline w = .ok (outcome, engine', w')) :
    outcome.label = CallExecution.userLabel engine kind i := by
  obtain ⟨check, hcheck, -, -, -, hname, horigin, huser⟩ := CheckEngine.of_run hrun
  obtain ⟨_, hthere, rfl⟩ := CheckEngine.mem_active hi
  cases hcheck.symm.trans hthere
  simp [Outcome.label, CallExecution.userLabel, CheckEngine.name?, hcheck, hname, horigin, huser]

/-- Every check that was announced in these messages was reported, but for one whose outcome was lost. This check was
announced last, and nobody took the message of its outcome, with which the call ended. -/
def Reported {α : Type} (messages : List ClientMessage) (result : Except CampaignError α) (w : World μ) :
    Option Outcome → Prop
  | none => Paired messages
  | some o => result = .error writerStopped ∧ w.closed = true ∧
    ∃ front, messages = front ++ [o.label.start] ∧ Paired front

/-- Between two worlds the outcomes that were shown are those that were queued, and the one that was lost. -/
def Counted {α : Type} (w : World μ) (result : Except CampaignError α) (w' : World μ) (lost : Option Outcome) : Prop :=
  ∃ events messages, w'.shown = w.shown ++ events ∧ w'.sent = w.sent ++ messages ∧ .terminate ∉ events ∧
    events.filterMap SinkEvent.outcome? =
      messages.filterMap ClientMessage.outcome? ++ (lost.map Outcome.status).toList ∧
    Reported messages result w' lost

/-- What neither counts nor begins the tallies anew. -/
def SinkEvent.Uncounted (e : SinkEvent) : Prop := e.outcome? = none ∧ e ≠ .terminate

section
variable {α β : Type} {w w' w'' : World μ} {events : List SinkEvent} {messages : List ClientMessage}
  {result : Except CampaignError α} {lost : Option Outcome}

theorem counted_of_uncounted (result : Except CampaignError α) (hshown : w'.shown = w.shown ++ events)
    (hevents : ∀ e ∈ events, e.Uncounted) (h : Sends w messages w')
    (hmessages : messages.filterMap ClientMessage.outcome? = []) (hpaired : Paired messages) :
    Counted w result w' none := by
  refine ⟨events, messages, hshown, h.sent, fun hend => (hevents _ hend).2 rfl, ?_, hpaired⟩
  rw [hmessages, List.filterMap_eq_nil_iff.2 fun e he => (hevents e he).1]
  rfl

/-- Nothing was queued. -/
theorem counted_of_silent (result : Except CampaignError α) (hshown : w'.shown = w.shown ++ events)
    (hevents : ∀ e ∈ events, e.Uncounted) (h : Sends w [] w') : Counted w result w' none :=
  counted_of_uncounted result hshown hevents h rfl .nil

/-- Nothing was shown or queued. -/
theorem counted_of_eq (result : Except CampaignError α) (hshown : w'.shown = w.shown) (h : Sends w [] w') :
    Counted w result w' none :=
  counted_of_silent result (hshown.trans (List.append_nil _).symm) (by simp) h

theorem Counted.trans {u : β} (h : Counted w (.ok u : Except CampaignError β) w' none)
    (h' : Counted w' result w'' lost) : Counted w result w'' lost := by
  obtain ⟨events, messages, hshown, hsent, hgoes, hcounts, hpaired⟩ := h
  obtain ⟨more, further, hshown', hsent', hgoes', hcounts', hreported⟩ := h'
  refine ⟨events ++ more, messages ++ further, by rw [hshown', hshown, List.append_assoc],
    by rw [hsent', hsent, List.append_assoc], ?_, ?_, ?_⟩
  · rw [List.mem_append, not_or]
    exact ⟨hgoes, hgoes'⟩
  · rw [List.filterMap_append, List.filterMap_append, hcounts, hcounts']
    simp
  · cases lost with
    | none => exact Paired.append hpaired hreported
    | some o =>
      obtain ⟨herror, hclosed, front, rfl, hfront⟩ := hreported
      exact ⟨herror, hclosed, messages ++ front, (List.append_assoc _ _ _).symm, Paired.append hpaired hfront⟩

/-- Nothing is lost in a part that does not fail. -/
theorem Counted.none_lost {u : β} (h : Counted w (.ok u : Except CampaignError β) w' lost) : lost = none := by
  obtain ⟨_, _, -, -, -, -, hreported⟩ := h
  cases lost with
  | none => rfl
  | some o => exact absurd hreported.1 (by simp)

/-- The same of a part with another result. -/
theorem Counted.of_map {f : α → β} (h : Counted w (result.map f) w' lost) : Counted w result w' lost := by
  obtain ⟨events, messages, hshown, hsent, hgoes, hcounts, hreported⟩ := h
  refine ⟨events, messages, hshown, hsent, hgoes, hcounts, ?_⟩
  cases lost with
  | none => exact hreported
  | some o =>
    obtain ⟨herror, hlost⟩ := hreported
    refine ⟨?_, hlost⟩
    cases result <;> cases herror
    rfl

end

namespace CallExecution

/-- A check is announced, and then its outcome is reported. -/
theorem counted_check {o : Outcome} {w w₁ w₂ : World μ} {events : List SinkEvent}
    (hstart : w.send o.label.start = (.ok (), w₁)) (hshown : w₂.shown = w₁.shown ++ events)
    (hevents : ∀ e ∈ events, e.Uncounted) (hqueued : Queued w₁ [] w₂) :
    ∃ lost, Counted w (report o w₂).1 (report o w₂).2 lost := by
  have hannounced : Sends w [o.label.start] w₂ := by
    obtain ⟨_, ⟨hgone, -⟩ | ⟨htaken, hstarted⟩⟩ := send_cases w o.label.start
    · cases hstart.symm.trans hgone
    · cases hstart.symm.trans htaken
      exact (hstarted.before hqueued).toSends
  have hbefore : w₂.shown = w.shown ++ events := by
    have hsend := w.shown_send o.label.start
    rw [hstart] at hsend
    rw [hshown, hsend]
  have hlabel : o.label.IsOutcome o.progress := isOutcome_progress rfl rfl rfl
  obtain ⟨e, houtcome, hgoes, hreport⟩ : ∃ e : SinkEvent, e.outcome? = some o.status ∧ e ≠ .terminate ∧
      report o w₂ = (w₂.present e).send (.checkProgress o.progress) := by
    refine ⟨_, ?_, ?_, rfl⟩ <;> cases o.status <;> simp [SinkEvent.outcome?]
  have hafter : ((w₂.present e).send (.checkProgress o.progress)).2.shown = w.shown ++ (events ++ [e]) := by
    rw [World.shown_send, World.present, hbefore, List.append_assoc]
  have hnoend : .terminate ∉ events ++ [e] := by
    rw [List.mem_append, List.mem_singleton, not_or]
    exact ⟨fun hend => (hevents _ hend).2 rfl, Ne.symm hgoes⟩
  have hcounts : (events ++ [e]).filterMap SinkEvent.outcome? = [o.status] := by
    rw [List.filterMap_append, List.filterMap_eq_nil_iff.2 fun e he => (hevents e he).1]
    simp [houtcome]
  rw [hreport]
  -- the outcome was shown by now, whether its message is taken or not
  obtain ⟨w₃, ⟨hsend, hw₃⟩ | ⟨hsend, hw₃⟩⟩ := send_cases (w₂.present e) (.checkProgress o.progress)
  · rw [hsend] at hafter ⊢
    have hsends := (hannounced.before (queued_present w₂ e).toSends).before hw₃.toSends
    exact ⟨some o, _, _, hafter, hsends.sent, hnoend, hcounts, rfl, closed_of_send_error hsend, [], rfl, .nil⟩
  · rw [hsend] at hafter ⊢
    have hsends := (hannounced.before (queued_present w₂ e).toSends).trans hw₃.toSends
    refine ⟨none, _, _, hafter, hsends.sent, hnoend, ?_, .pair hlabel .nil⟩
    rw [hcounts, List.singleton_append, List.filterMap_cons_none (outcome?_start _),
      List.filterMap_cons_some (outcome?_progress o)]
    rfl

section
variable {effects : Effects μ → Prop} {engine engine' : CheckEngine μ} {w w' : World μ}
  {result : Except CampaignError Unit}

theorem Step.counted (heffects : ∀ e, effects e → ∀ event ∈ e.shown, event.Uncounted)
    (h : Step effects engine w result engine' w') : ∃ lost, Counted w result w' lost := by
  cases h with
  | look => exact ⟨none, counted_of_eq _ w.shown_look (queued_look w).toSends⟩
  | preparation he => exact ⟨none, counted_of_silent _ rfl (heffects _ he) (queued_apply _ _).toSends⟩
  | interaction he =>
    exact ⟨none, counted_of_silent _ rfl (heffects _ he) ((sends_interact w).after (queued_apply _ _).toSends)⟩
  | interrupted => exact ⟨none, counted_of_eq _ rfl (.refl w)⟩
  | @publication _ m hm =>
    have hshown := w.shown_send m
    obtain ⟨_, ⟨hsend, hw'⟩ | ⟨hsend, hw'⟩⟩ := send_cases w m <;> rw [hsend] at hshown ⊢
    · exact ⟨none, counted_of_eq _ hshown hw'.toSends⟩
    have hnone : m.outcome? = none ∧ ∀ label : CheckLabel, m ≠ label.start := by
      cases hm <;>
        simp [ClientMessage.outcome?, CheckLabel.start, CheckProgress.start, CheckProgress.done]
    exact ⟨none, counted_of_uncounted _ (hshown.trans (List.append_nil _).symm) (by simp) hw'.toSends
      (by simp [hnone.1]) (.other hnone.2 .nil)⟩
  | unannounced label hsend =>
    have hshown := w.shown_send label.start
    obtain ⟨_, ⟨hgone, hw'⟩ | ⟨htaken, -⟩⟩ := send_cases w label.start
    · cases hsend.symm.trans hgone
      rw [hsend] at hshown
      exact ⟨none, counted_of_eq _ hshown hw'.toSends⟩
    · cases hsend.symm.trans htaken
  | @modelCheck _ w₁ check reason elapsed e he hsend =>
    have hshown : (w₁.look.apply e).look.shown = w₁.shown ++ e.shown := by simp [World.apply]
    exact counted_check (o := .builtIn check.name reason elapsed) hsend hshown (heffects e he)
      (((queued_look w₁).after (queued_apply _ e)).after (queued_look _))
  | @userCheck _ _ w₁ w₂ kind i request response deadline outcome hi hsend hrun =>
    obtain ⟨check, -, hworld, hqueued, -⟩ := CheckEngine.of_run hrun
    have hshown := CheckEngine.shown_runCheck engine.limits check request response deadline w₁
    rw [← hworld] at hshown
    rw [← label_of_run hi hrun] at hsend
    exact counted_check hsend hshown (by simp [SinkEvent.Uncounted, SinkEvent.outcome?]) hqueued

theorem Steps.counted (heffects : ∀ e, effects e → ∀ event ∈ e.shown, event.Uncounted)
    (h : Steps effects engine w result engine' w') : ∃ lost, Counted w result w' lost := by
  induction h with
  | none => exact ⟨.none, counted_of_eq _ rfl (.refl _)⟩
  | fail hstep => exact hstep.counted heffects
  | cons hstep _ ih =>
    -- an outcome is only lost by a step that fails, and this one does not
    obtain ⟨lost, hcounted⟩ := hstep.counted heffects
    obtain rfl := hcounted.none_lost
    exact ih.imp fun _ => hcounted.trans

end

theorem execute_counted (model : Model μ) (callBudget : Nat) (call : Call) (engine : CheckEngine μ) (w : World μ)
    (heffects : ∀ effects, model.Causes call effects → ∀ event ∈ effects.shown, event.Uncounted) :
    ∃ lost, Counted w (execute model callBudget call engine w).1 (execute model callBudget call engine w).2.2 lost := by
  cases hprepare : (model.prepare call w.outside).1 with
  | error e =>
    rw [execute_refused model callBudget call engine w hprepare]
    have hshown : (afterPreparing model call w).shown = w.shown ++ (model.prepare call w.outside).2.shown := by
      rw [afterPreparing, World.apply, World.shown_look]
    exact ⟨none, counted_of_silent _ hshown (heffects _ ⟨w.outside, Or.inl rfl⟩)
      (queued_afterPreparing model call w).toSends⟩
  | ok caller =>
    have hsteps := steps_execute model callBudget call engine w hprepare
    exact (hsteps.counted heffects).imp fun _ => Counted.of_map

end CallExecution

/-! ## Many calls -/

/-- A use of a display. -/
inductive DisplayUse (μ : Type) where
  /-- A call tells it what happens. -/
  | call (model : Model μ) (callBudget : Nat) (directive : Call) (engine : CheckEngine μ) (world : World μ)
  /-- It is told that the attempt is over. -/
  | terminate

namespace DisplayUse

open CallExecution (execute)

def isCall : DisplayUse μ → Bool
  | .call .. => true
  | .terminate => false

/-- What is shown. -/
def shown : DisplayUse μ → List SinkEvent
  | .call model callBudget directive engine w =>
    (execute model callBudget directive engine w).2.2.shown.drop w.shown.length
  | .terminate => [.terminate]

/-- The messages that are queued. -/
def sent : DisplayUse μ → List ClientMessage
  | .call model callBudget directive engine w =>
    (execute model callBudget directive engine w).2.2.sent.drop w.sent.length
  | .terminate => []

/-- The model, its caller and their checks tell the display of no outcome, and not that the attempt is over. -/
def Discreet : DisplayUse μ → Prop
  | .call model _ directive _ _ => ∀ effects, model.Causes directive effects → ∀ event ∈ effects.shown, event.Uncounted
  | .terminate => True

/-- Every check that the call announced was reported, but for one whose outcome was lost. -/
def Loses (lost : Option Outcome) : DisplayUse μ → Prop
  | .call model callBudget directive engine w =>
    Reported ((execute model callBudget directive engine w).2.2.sent.drop w.sent.length)
      (execute model callBudget directive engine w).1 (execute model callBudget directive engine w).2.2 lost
  | .terminate => False

/-- What one call counts. -/
theorem exists_lost {use : DisplayUse μ} (hcall : use.isCall = true) (hdiscreet : use.Discreet) :
    ∃ lost, use.Loses lost ∧ .terminate ∉ use.shown ∧
      use.shown.filterMap SinkEvent.outcome? =
        use.sent.filterMap ClientMessage.outcome? ++ (lost.map Outcome.status).toList := by
  cases use with
  | terminate => cases hcall
  | call model callBudget directive engine w =>
    obtain ⟨lost, events, messages, hshown, hsent, hgoes, hcounts, hreported⟩ :=
      CallExecution.execute_counted model callBudget directive engine w hdiscreet
    have hevents : (execute model callBudget directive engine w).2.2.shown.drop w.shown.length = events := by
      rw [hshown, List.drop_left]
    have hmessages : (execute model callBudget directive engine w).2.2.sent.drop w.sent.length = messages := by
      rw [hsent, List.drop_left]
    exact ⟨lost, by rwa [Loses, hmessages], by rwa [shown, hevents], by rw [shown, sent, hevents, hmessages, hcounts]⟩

end DisplayUse

namespace Tallies

open DisplayUse (isCall)

/-- **What the tallies count.** However calls and ends of attempts follow each other, the tallies of their display
amount, modulo 2 ^ 32, to the outcomes that the calls since the last end queued and, for each of these calls, at most
one more. This is the outcome of the check that the call announced last; its message was not taken any more, and with
this the call ended. -/
theorem counts_queued_and_lost (uses : List (DisplayUse μ)) (hdiscreet : ∀ use ∈ uses, use.Discreet) :
    ∃ lost : List (Option Outcome),
      List.Forall₂ (fun use lost => use.Loses lost) (uses.rtakeWhile isCall) lost ∧
      ofEvents (uses.flatMap DisplayUse.shown) =
        ofOutcomes (((uses.rtakeWhile isCall).flatMap DisplayUse.sent).filterMap ClientMessage.outcome? ++
          lost.reduceOption.map Outcome.status) := by
  -- from the last use on, since that is where the calls after the last end are
  induction uses using List.reverseRecOn with
  | nil => exact ⟨[], .nil, rfl⟩
  | append_singleton uses use ih =>
    obtain ⟨hearlier, huse⟩ := List.forall_mem_append.1 hdiscreet
    rw [List.forall_mem_singleton] at huse
    by_cases hcall : use.isCall = true
    · obtain ⟨lost, hlosses, htallies⟩ := ih hearlier
      obtain ⟨last, hlast, hgoes, hcounts⟩ := use.exists_lost hcall huse
      rw [List.rtakeWhile_concat_pos _ _ _ hcall]
      refine ⟨lost ++ [last], List.rel_append hlosses (.cons hlast .nil), ?_⟩
      rw [List.flatMap_append, List.flatMap_singleton, ofEvents, List.foldl_append, ← ofEvents, htallies,
        foldl_after_ofOutcomes hgoes, hcounts]
      have hreduced : [last].reduceOption.map Outcome.status = (last.map Outcome.status).toList := by
        cases last <;> rfl
      rw [List.flatMap_append, List.flatMap_singleton, List.filterMap_append, List.reduceOption_append,
        List.map_append, hreduced, List.append_assoc, List.append_assoc]
      exact ofOutcomes_perm ((List.perm_append_comm_assoc _ _ _).append_left _)
    · obtain rfl : use = .terminate := by
        cases use with
        | call => exact absurd rfl hcall
        | terminate => rfl
      rw [List.rtakeWhile_concat_neg _ _ _ hcall, List.flatMap_append, ofEvents, List.foldl_append]
      exact ⟨[], .nil, rfl⟩

/-! ## A lost outcome -/

/-- What tells lines only. -/
def telling (lines : List String) : Effects Unit := { shown := lines.map .printf, outside := () }

theorem uncounted_of_telling {lines : List String} : ∀ event ∈ (telling lines).shown, event.Uncounted := by
  simp [telling, SinkEvent.Uncounted, SinkEvent.outcome?]

/-- A model of two checks, of which the second fails. -/
def twoChecks : Model Unit where
  prepare _ _ := (.ok {
    request := .emptyDict
    invoke _ _ := {
      effects := telling ["called"]
      raw := .null
      response := none
      checks := [⟨"status", fun _ => (some [], telling [])⟩,
        ⟨"schema", fun _ => (some ["no match"], telling ["no match"])⟩] } },
    telling ["calling"])

/-- A call while such things happen. -/
def twoChecksCall (pending : List Nudge) : DisplayUse Unit :=
  .call twoChecks 1000 ⟨0, .null⟩ ⟨⟨.empty, .empty⟩, {}, []⟩ { pending, outside := () }

/-- Of two calls after the end of an attempt the second loses the outcome of its first check, which passed. -/
theorem lost_outcome_counted :
    let uses := [twoChecksCall [], .terminate, twoChecksCall [], twoChecksCall (.replicate 6 {} ++ [{ close := true }])]
    (∀ use ∈ uses, use.Discreet) ∧
      (∃ lost : List (Option Outcome),
        List.Forall₂ (fun use lost => use.Loses lost) (uses.rtakeWhile isCall) lost ∧
        ofEvents (uses.flatMap DisplayUse.shown) =
          ofOutcomes (((uses.rtakeWhile isCall).flatMap DisplayUse.sent).filterMap ClientMessage.outcome? ++
            lost.reduceOption.map Outcome.status)) ∧
      ((uses.rtakeWhile isCall).flatMap DisplayUse.sent).filterMap ClientMessage.outcome? = [.success, .failure] ∧
      ofEvents (uses.flatMap DisplayUse.shown) = ⟨2, 0, 1⟩ := by
  intro uses
  have hdiscreet : ∀ use ∈ uses, use.Discreet := by
    have hcall : ∀ pending, (twoChecksCall pending).Discreet := by
      rintro pending _ ⟨_, rfl | ⟨_, ⟨⟩, _, _, rfl | ⟨check, hcheck, _, rfl⟩⟩⟩
      · exact uncounted_of_telling
      · exact uncounted_of_telling
      · obtain rfl | rfl : check = _ ∨ check = _ := by simpa using hcheck
        · exact uncounted_of_telling
        · exact uncounted_of_telling
    simp only [uses, List.forall_mem_cons]
    exact ⟨hcall _, trivial, hcall _, hcall _, by simp⟩
  exact ⟨hdiscreet, counts_queued_and_lost uses hdiscreet, by decide +kernel, by decide +kernel⟩

/-! ## Outcomes that a model tells -/

/-- A model without checks that tells the display of two outcomes by itself. -/
def talkative : Model Unit where
  prepare _ _ := (.ok {
    request := .emptyDict
    invoke _ _ := { effects := { shown := [.passed], outside := () }, raw := .null, response := none, checks := [] } },
    { shown := [.skipped], outside := () })

/-- In its calls no outcome is queued and none is lost, and yet two are counted. -/
theorem told_outcomes_counted :
    let use : DisplayUse Unit := .call talkative 1000 ⟨0, .null⟩ ⟨⟨.empty, .empty⟩, {}, []⟩ { outside := () }
    use.sent.filterMap ClientMessage.outcome? = [] ∧ ofEvents use.shown = ⟨1, 1, 0⟩ ∧
      ¬ ∃ lost : List (Option Outcome),
        List.Forall₂ (fun use lost => use.Loses lost) ([use].rtakeWhile isCall) lost ∧
        ofEvents ([use].flatMap DisplayUse.shown) =
          ofOutcomes ((([use].rtakeWhile isCall).flatMap DisplayUse.sent).filterMap ClientMessage.outcome? ++
            lost.reduceOption.map Outcome.status) := by
  intro use
  have hsent : use.sent.filterMap ClientMessage.outcome? = [] := by decide +kernel
  have hcounts : ofEvents use.shown = ⟨1, 1, 0⟩ := by decide +kernel
  refine ⟨hsent, hcounts, ?_⟩
  rintro ⟨lost, hlosses, htallies⟩
  have hpassed : (CallExecution.execute talkative 1000 ⟨0, .null⟩ ⟨⟨.empty, .empty⟩, {}, []⟩ { outside := () }).1 =
      .ok .passed := by rfl
  obtain ⟨o, _, hloses, hnil, rfl⟩ := List.forall₂_cons_left_iff.1 hlosses
  obtain rfl := List.forall₂_nil_left_iff.1 hnil
  -- a call that loses an outcome ends with an error, and this one passed
  cases o with
  | some o => cases hloses.1.symm.trans hpassed
  | none =>
    have hnone : (([use].rtakeWhile isCall).flatMap DisplayUse.sent).filterMap ClientMessage.outcome? = [] := by
      rwa [show [use].rtakeWhile isCall = [use] from rfl, List.flatMap_singleton]
    rw [List.flatMap_singleton, hcounts, hnone] at htallies
    exact absurd htallies (by decide)

end Tallies

end FuzzCampaign
