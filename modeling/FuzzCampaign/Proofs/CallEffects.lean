import FuzzCampaign.Proofs.CallSteps
import FuzzCampaign.Proofs.Check.AccessOrder
set_option autoImplicit false

/-! # What a call does to its surroundings

A call announces no campaign, shows no counters but those its model shows, and once it could be prepared
it only ends with an error because a message was not taken or the session was cancelled. All of this holds of
every part of it, so it is one statement, `Course`, about the surroundings before and after and the error in
between. Nor does a call tell the display that an attempt is over, unless its model does (`ends_execute`). -/

namespace FuzzCampaign

variable {μ : Type}

namespace World

/-- From `w` to `w'` no campaign was announced, and all counters shown are among these. -/
structure Quiet (counters : Progress → Prop) (w w' : World μ) : Prop where
  shown : ∃ events, w'.shown = w.shown ++ events ∧ ∀ p, .progress p ∈ events → counters p
  sent : ∃ messages, w'.sent = w.sent ++ messages ∧ ∀ d, .campaign d ∉ messages

section
variable {counters : Progress → Prop} {w w' w'' : World μ}

theorem Quiet.trans (h : Quiet counters w w') (h' : Quiet counters w' w'') : Quiet counters w w'' where
  shown := by
    obtain ⟨events, hshown, hevents⟩ := h.shown
    obtain ⟨more, hshown', hmore⟩ := h'.shown
    refine ⟨events ++ more, by rw [hshown', hshown, List.append_assoc], fun p hp => ?_⟩
    exact (List.mem_append.1 hp).elim (hevents p) (hmore p)
  sent := by
    obtain ⟨messages, hsent, hmessages⟩ := h.sent
    obtain ⟨more, hsent', hmore⟩ := h'.sent
    refine ⟨messages ++ more, by rw [hsent', hsent, List.append_assoc], fun d hd => ?_⟩
    exact (List.mem_append.1 hd).elim (hmessages d) (hmore d)

theorem Quiet.mono {more : Progress → Prop} (h : Quiet counters w w') (hmore : ∀ p, counters p → more p) :
    Quiet more w w' := by
  obtain ⟨⟨events, hshown, hevents⟩, hsent⟩ := h
  exact ⟨⟨events, hshown, fun p hp => hmore p (hevents p hp)⟩, hsent⟩

/-- Only what is shown changed. -/
theorem quiet_shown {events : List SinkEvent} (hshown : w'.shown = w.shown ++ events) (hsent : w'.sent = w.sent)
    (hevents : ∀ p, .progress p ∈ events → counters p) : Quiet counters w w' :=
  ⟨⟨events, hshown, hevents⟩, [], by rw [hsent, List.append_nil], by simp⟩

/-- Nothing was shown and nothing queued. -/
theorem quiet_of_eq (hshown : w'.shown = w.shown) (hsent : w'.sent = w.sent) : Quiet counters w w' :=
  ⟨⟨[], by rw [hshown, List.append_nil], by simp⟩, [], by rw [hsent, List.append_nil], by simp⟩

theorem Quiet.refl (w : World μ) : Quiet counters w w := quiet_of_eq rfl rfl

theorem quiet_look (w : World μ) : Quiet counters w w.look := by
  refine quiet_of_eq w.shown_look ?_
  rw [(queued_look w).sent, List.append_nil]

theorem quiet_present (w : World μ) {e : SinkEvent} (h : ∀ p, e ≠ .progress p) : Quiet counters w (w.present e) :=
  quiet_shown rfl rfl fun p hp => absurd (List.mem_singleton.1 hp).symm (h p)

theorem quiet_apply (w : World μ) {effects : Effects μ} (h : ∀ p, .progress p ∈ effects.shown → counters p) :
    Quiet counters w (w.apply effects) := quiet_shown rfl rfl h

theorem quiet_interact (w : World μ) : Quiet counters w w.interact := quiet_of_eq rfl rfl

theorem quiet_send (w : World μ) {m : ClientMessage} (h : ∀ d, m ≠ .campaign d) : Quiet counters w (w.send m).2 := by
  refine ⟨⟨[], by rw [shown_send, List.append_nil], by simp⟩, ?_⟩
  obtain ⟨w', ⟨hsend, hqueued⟩ | ⟨hsend, hqueued⟩⟩ := send_cases w m
  · rw [hsend]
    exact ⟨[], hqueued.sent, by simp⟩
  · rw [hsend]
    exact ⟨[m], hqueued.sent, fun d hd => h d (List.mem_singleton.1 hd).symm⟩

/-- A message that is not taken is the only reason for not queueing it. -/
theorem writerStopped_of_send {e : CampaignError} {m : ClientMessage} (h : (w.send m).1 = .error e) :
    e = writerStopped := by
  obtain ⟨w', ⟨hsend, -⟩ | ⟨hsend, -⟩⟩ := send_cases w m
  · rw [hsend] at h
    cases h
    rfl
  · rw [hsend] at h
    cases h

end

end World

open World (Quiet writerStopped)

namespace CallExecution

/-- What a part of a call did to its surroundings, and why it ended with an error if it did. -/
structure Course {α : Type} (counters : Progress → Prop) (w : World μ) (result : Except CampaignError α)
    (w' : World μ) : Prop where
  quiet : Quiet counters w w'
  error : ∀ e, result = .error e → e = writerStopped ∨ w'.cancelled = true

section
variable {α : Type} {counters : Progress → Prop} {w w' w'' : World μ} {result : Except CampaignError α}

theorem course_ok (a : α) (h : Quiet counters w w') : Course counters w (.ok a) w' :=
  ⟨h, fun _ he => nomatch he⟩

theorem course_cancelled (e : CampaignError) (h : Quiet counters w w') (hcancelled : w'.cancelled = true) :
    Course counters w (.error e : Except CampaignError α) w' := ⟨h, fun _ _ => Or.inr hcancelled⟩

/-- What happened before a part is part of its course. -/
theorem Course.after (h : Quiet counters w w') (h' : Course counters w' result w'') :
    Course counters w result w'' := ⟨h.trans h'.quiet, h'.error⟩

/-- A message that announces no campaign. -/
theorem course_send (w : World μ) {m : ClientMessage} (h : ∀ d, m ≠ .campaign d) :
    Course counters w (w.send m).1 (w.send m).2 :=
  ⟨w.quiet_send h, fun _ he => Or.inl (World.writerStopped_of_send he)⟩

theorem Course.of_map {β : Type} {f : α → β} (h : Course counters w (result.map f) w') :
    Course counters w result w' := ⟨h.quiet, fun e he => h.error e (by rw [he]; rfl)⟩

end

section
variable {counters : Progress → Prop} {effects : Effects μ → Prop} {engine engine' : CheckEngine μ} {w w' : World μ}
  {result : Except CampaignError Unit}

theorem course_report (o : Outcome) (w : World μ) : Course counters w (report o w).1 (report o w).2 := by
  unfold report
  dsimp only
  refine (course_send _ (by simp)).after (w.quiet_present fun p => ?_)
  cases o.status <;> simp

/-- A run of a check of the user shows lines only. -/
theorem quiet_of_run {i : Nat} {request : Tree} {response : Option Tree} {deadline : Nat} {outcome : Outcome}
    (hrun : engine.run i request response deadline w = .ok (outcome, engine', w')) : Quiet counters w w' := by
  obtain ⟨check, -, hworld, hqueued, -⟩ := CheckEngine.of_run hrun
  have hshown := CheckEngine.shown_runCheck engine.limits check request response deadline w
  rw [← hworld] at hshown
  exact World.quiet_shown hshown (by rw [hqueued.sent, List.append_nil]) (by simp)

/-- The message that a check begins. -/
theorem quiet_start {label : CheckLabel} {started : Except CampaignError Unit}
    (h : w.send label.start = (started, w')) : Quiet counters w w' := by
  have hstart : Quiet counters w _ := w.quiet_send (m := label.start) (by simp [CheckLabel.start])
  rwa [h] at hstart

theorem Step.course (hcounters : ∀ e, effects e → ∀ p, .progress p ∈ e.shown → counters p)
    (h : Step effects engine w result engine' w') : Course counters w result w' := by
  cases h with
  | look => exact course_ok _ w.quiet_look
  | preparation he => exact course_ok _ (w.quiet_apply (hcounters _ he))
  | interaction he => exact course_ok _ (w.quiet_interact.trans (w.interact.quiet_apply (hcounters _ he)))
  | interrupted hcancelled => exact course_cancelled _ (.refl w) hcancelled
  | publication hm => exact course_send w fun d hd => by cases hm <;> cases hd
  | unannounced label hsend =>
    exact ⟨quiet_start hsend, fun e he => by
      cases he
      exact Or.inl (World.writerStopped_of_send (congrArg Prod.fst hsend))⟩
  | @modelCheck _ w₁ check _ _ e he hsend =>
    have hrun : Quiet counters w₁ (w₁.look.apply e) := w₁.quiet_look.trans (w₁.look.quiet_apply (hcounters e he))
    exact (course_report _ _).after (((quiet_start hsend).trans hrun).trans (World.quiet_look _))
  | userCheck hi hsend hrun => exact (course_report _ _).after ((quiet_start hsend).trans (quiet_of_run hrun))

theorem Steps.course (hcounters : ∀ e, effects e → ∀ p, .progress p ∈ e.shown → counters p)
    (h : Steps effects engine w result engine' w') : Course counters w result w' := by
  induction h with
  | none => exact course_ok _ (.refl _)
  | fail hstep => exact hstep.course hcounters
  | cons hstep _ ih => exact ih.after (hstep.course hcounters).quiet

end

section
variable {effects : Effects μ → Prop} {engine engine' : CheckEngine μ} {w w' : World μ}
  {result : Except CampaignError Unit}

theorem ends_report (o : Outcome) (w : World μ) : (report o w).2.ends = w.ends := by
  unfold report
  dsimp only
  rw [World.ends_send, World.ends_present]
  cases o.status <;> simp

theorem Step.ends (heffects : ∀ e, effects e → .terminate ∉ e.shown) (h : Step effects engine w result engine' w') :
    w'.ends = w.ends := by
  cases h with
  | look => exact w.ends_look
  | preparation he => exact w.ends_apply (heffects _ he)
  | interaction he => exact w.interact.ends_apply (heffects _ he)
  | interrupted => rfl
  | publication => exact w.ends_send _
  | unannounced label hsend => exact World.ends_of_send hsend
  | @modelCheck _ w₁ check _ _ e he hsend =>
    rw [ends_report, World.ends_look, World.ends_apply _ (heffects e he), World.ends_look,
      World.ends_of_send hsend]
  | @userCheck _ _ w₁ w₂ _ _ request response deadline _ hi hsend hrun =>
    obtain ⟨check, -, hworld, -, -⟩ := CheckEngine.of_run hrun
    have hshown := CheckEngine.shown_runCheck engine.limits check request response deadline w₁
    rw [← hworld] at hshown
    rw [ends_report, World.ends_of_shown hshown (by simp), World.ends_of_send hsend]

theorem Steps.ends (heffects : ∀ e, effects e → .terminate ∉ e.shown) (h : Steps effects engine w result engine' w') :
    w'.ends = w.ends := by
  induction h with
  | none => rfl
  | fail hstep => exact hstep.ends heffects
  | cons hstep _ ih => rw [ih, hstep.ends heffects]

end

/-- Counters that the model shows by itself in some call. -/
def Shows (model : Model μ) (p : Progress) : Prop :=
  ∃ call effects, model.Causes call effects ∧ .progress p ∈ effects.shown

section
variable (model : Model μ) (callBudget : Nat) (call : Call) (engine : CheckEngine μ) (w : World μ)

theorem course_execute {caller : Caller μ} (hprepare : (model.prepare call w.outside).1 = .ok caller) :
    Course (Shows model) w (execute model callBudget call engine w).1
      (execute model callBudget call engine w).2.2 := by
  refine .of_map ((steps_execute model callBudget call engine w hprepare).course ?_)
  exact fun effects heffects p hp => ⟨call, effects, heffects, hp⟩

/-- A call announces no campaign and shows no counters but those of its model. -/
theorem quiet_execute :
    Quiet (Shows model) w (execute model callBudget call engine w).2.2 := by
  cases hprepare : (model.prepare call w.outside).1 with
  | error e =>
    rw [execute_refused model callBudget call engine w hprepare]
    exact w.quiet_look.trans (World.quiet_apply _ fun p hp => ⟨call, _, ⟨w.outside, Or.inl rfl⟩, hp⟩)
  | ok caller => exact (course_execute model callBudget call engine w hprepare).quiet

/-- A call tells the display of no end of an attempt, unless its model does. -/
theorem ends_execute (hmodel : ∀ effects, model.Causes call effects → .terminate ∉ effects.shown) :
    (execute model callBudget call engine w).2.2.ends = w.ends := by
  cases hprepare : (model.prepare call w.outside).1 with
  | error e =>
    rw [execute_refused model callBudget call engine w hprepare, afterPreparing,
      World.ends_apply _ (hmodel _ ⟨w.outside, Or.inl rfl⟩), World.ends_look]
  | ok caller => exact (steps_execute model callBudget call engine w hprepare).ends hmodel

/-- A call that can be prepared ends with an error only when a message is not taken or the session is
cancelled. -/
theorem execute_error {caller : Caller μ} {e : CampaignError} (hprepare : (model.prepare call w.outside).1 = .ok caller)
    (h : (execute model callBudget call engine w).1 = .error e) :
    e = writerStopped ∨ (execute model callBudget call engine w).2.2.cancelled = true :=
  (course_execute model callBudget call engine w hprepare).error e h

end

end CallExecution

end FuzzCampaign
