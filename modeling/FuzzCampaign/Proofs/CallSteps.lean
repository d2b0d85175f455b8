import FuzzCampaign.Proofs.CallTrace
set_option autoImplicit false

/-! # The steps of a call

All that a call does to its engine and its surroundings is one of a few steps, and the first that fails ends it.
What every step keeps a call keeps, so a property of calls is proved once for each step. -/

namespace FuzzCampaign

variable {μ : Type}

/-- These may be the effects of the interaction of a caller, or of a check that follows it. -/
def Caller.Causes (caller : Caller μ) (effects : Effects μ) : Prop :=
  ∃ cancelled outside, (caller.invoke cancelled outside).effects = effects ∨
    ∃ check ∈ (caller.invoke cancelled outside).checks, ∃ later, (check.run later).2 = effects

/-- These may be effects of the model in a call: of its preparation or of its caller. -/
def Model.Causes (model : Model μ) (call : Call) (effects : Effects μ) : Prop :=
  ∃ outside, (model.prepare call outside).2 = effects ∨
    ∃ caller, (model.prepare call outside).1 = .ok caller ∧ caller.Causes effects

namespace CallExecution

/-- A message of a call that is not about one of its checks. -/
inductive IsPublication : ClientMessage → Prop where
  | raw (record : Json) : IsPublication (.callResponseRaw record)
  | verified (response : Json) : IsPublication (.callResponseVerified response)
  | done : IsPublication (.checkProgress .done)

/-- One step of a call: the engine and the surroundings before it, how it ended, and what is left of both. What the
model does has effects of these. -/
inductive Step (effects : Effects μ → Prop) :
    CheckEngine μ → World μ → Except CampaignError Unit → CheckEngine μ → World μ → Prop where
  | look {engine : CheckEngine μ} {w : World μ} : Step effects engine w (.ok ()) engine w.look
  | preparation {engine : CheckEngine μ} {w : World μ} {e : Effects μ} : effects e →
      Step effects engine w (.ok ()) engine (w.apply e)
  | interaction {engine : CheckEngine μ} {w : World μ} {e : Effects μ} : effects e →
      Step effects engine w (.ok ()) engine (w.interact.apply e)
  | interrupted {engine : CheckEngine μ} {w : World μ} {what : String} : w.cancelled = true →
      Step effects engine w (.error (.cancelled what)) engine w
  | publication {engine : CheckEngine μ} {w : World μ} {m : ClientMessage} : IsPublication m →
      Step effects engine w (w.send m).1 engine (w.send m).2
  /-- Nobody takes the message that a check begins. -/
  | unannounced {engine : CheckEngine μ} {w w' : World μ} (label : CheckLabel) {e : CampaignError} :
      w.send label.start = (.error e, w') → Step effects engine w (.error e) engine w'
  /-- A check of the model. -/
  | modelCheck {engine : CheckEngine μ} {w w₁ : World μ} (check : CallerCheck μ) (reason : List String) (elapsed : Nat)
      {e : Effects μ} : effects e → w.send (modelLabel check).start = (.ok (), w₁) →
      Step effects engine w (report (.builtIn check.name reason elapsed) (w₁.look.apply e).look).1 engine
        (report (.builtIn check.name reason elapsed) (w₁.look.apply e).look).2
  /-- A check of the user that takes part. -/
  | userCheck {engine engine' : CheckEngine μ} {w w₁ w₂ : World μ} {kind : HookKind} {i : Nat} {request : Tree}
      {response : Option Tree} {deadline : Nat} {outcome : Outcome} :
      i ∈ engine.active kind → w.send (userLabel engine kind i).start = (.ok (), w₁) →
      engine.run i request response deadline w₁ = .ok (outcome, engine', w₂) →
      Step effects engine w (report outcome w₂).1 engine' (report outcome w₂).2

/-- Steps one after the other, up to the first that fails. -/
inductive Steps (effects : Effects μ → Prop) :
    CheckEngine μ → World μ → Except CampaignError Unit → CheckEngine μ → World μ → Prop where
  | none {engine : CheckEngine μ} {w : World μ} : Steps effects engine w (.ok ()) engine w
  | fail {engine engine' : CheckEngine μ} {w w' : World μ} {e : CampaignError} :
      Step effects engine w (.error e) engine' w' → Steps effects engine w (.error e) engine' w'
  | cons {engine engine' engine'' : CheckEngine μ} {w w' w'' : World μ} {result : Except CampaignError Unit} :
      Step effects engine w (.ok ()) engine' w' → Steps effects engine' w' result engine'' w'' →
      Steps effects engine w result engine'' w''

section
variable {effects : Effects μ → Prop} {engine engine' engine'' : CheckEngine μ} {w w' w'' : World μ}
  {result : Except CampaignError Unit}

theorem Steps.append (h : Steps effects engine w (.ok ()) engine' w')
    (h' : Steps effects engine' w' result engine'' w'') : Steps effects engine w result engine'' w'' := by
  generalize hpassed : Except.ok () = passed at h
  induction h with
  | none => exact h'
  | fail => cases hpassed
  | cons hstep _ ih => exact .cons hstep (ih h' hpassed)

theorem Steps.single (h : Step effects engine w result engine' w') : Steps effects engine w result engine' w' := by
  cases result with
  | error e => exact .fail h
  | ok u => exact .cons h .none

/-- A check that takes part can be run. -/
theorem exists_run {kind : HookKind} {i : Nat} (h : i ∈ engine.active kind) (request : Tree)
    (response : Option Tree) (deadline : Nat) (w : World μ) :
    ∃ outcome engine' w', engine.run i request response deadline w = .ok (outcome, engine', w') ∧
      engine.Alike engine' := by
  obtain ⟨check, hcheck, -⟩ := CheckEngine.mem_active h
  obtain ⟨outcome, engine', w', hrun, -, halike, -⟩ := CheckEngine.run_spec hcheck request response deadline w
  exact ⟨outcome, engine', w', hrun, halike⟩

theorem steps_userChecks (kind : HookKind) (request : Tree) (response : Option Tree) (deadline : Nat)
    {indices : List Nat} (engine : CheckEngine μ) (w : World μ) (hactive : indices ⊆ engine.active kind) :
    Steps effects engine w ((userChecks kind request response deadline indices engine w).1.map fun _ => ())
      (userChecks kind request response deadline indices engine w).2.1
      (userChecks kind request response deadline indices engine w).2.2 := by
  induction indices generalizing engine w with
  | nil => exact .none
  | cons i rest ih =>
    obtain ⟨hi, hrest⟩ := List.cons_subset.1 hactive
    rw [userChecks]
    dsimp only
    refine .cons .look ?_
    by_cases hcancelled : w.look.cancelled = true
    · rw [if_pos hcancelled]
      exact .fail (.interrupted hcancelled)
    rw [if_neg hcancelled]
    split
    · exact .none
    rcases hstart : w.look.send (.checkProgress (.start ((engine.name? i).getD "") kind.origin true)) with ⟨e | _, w₁⟩
    · exact .fail (.unannounced (userLabel engine kind i) hstart)
    obtain ⟨outcome, engine₁, w₂, hrun, halike⟩ := exists_run hi request response deadline w₁
    have hstep : Step effects engine w.look _ _ _ := .userCheck hi hstart hrun
    dsimp only
    rw [hrun]
    dsimp only
    generalize report outcome w₂ = reported at hstep ⊢
    obtain ⟨e | _, w₃⟩ := reported
    · exact .fail hstep
    refine .cons hstep (.cons .look ?_)
    dsimp only
    by_cases hinterrupted : (outcome.abandoned && w₃.look.cancelled) = true
    · rw [if_pos hinterrupted]
      exact .fail (.interrupted (Bool.and_eq_true_iff.1 hinterrupted).2)
    rw [if_neg hinterrupted]
    split
    · exact .none
    · -- a run changes live states only, so the same checks take part
      refine ih engine₁ w₃.look ?_
      rwa [halike.active]

theorem steps_builtInChecks (engine : CheckEngine μ) (checks : List (CallerCheck μ)) (w : World μ)
    (heffects : ∀ check ∈ checks, ∀ outside, effects (check.run outside).2) :
    Steps effects engine w ((builtInChecks checks w).1.map fun _ => ()) engine (builtInChecks checks w).2 := by
  induction checks generalizing w with
  | nil => exact .none
  | cons check rest ih =>
    rw [builtInChecks]
    rcases hstart : w.send (.checkProgress (.start check.name .builtIn false)) with ⟨e | _, w₁⟩
    · exact .fail (.unannounced (modelLabel check) hstart)
    obtain ⟨hcheck, hrest⟩ := List.forall_mem_cons.1 heffects
    have hstep : Step effects engine w _ _ _ := .modelCheck check (reasons check.name (check.run w₁.look.outside).1)
      ((w₁.look.apply (check.run w₁.look.outside).2).look.elapsed w₁.look.clock) (hcheck w₁.look.outside) hstart
    dsimp only
    generalize Outcome.builtIn check.name _ _ = outcome at hstep ⊢
    generalize report outcome _ = reported at hstep ⊢
    obtain ⟨e | _, w₂⟩ := reported
    · exact .fail hstep
    refine .cons hstep ?_
    dsimp only
    split
    · exact .none
    · exact ih w₂ hrest

theorem steps_afterChecks (caller : Caller μ) (deadline : Nat) (engine : CheckEngine μ) (w : World μ)
    (heffects : ∀ e, caller.Causes e → effects e) :
    Steps effects engine w ((afterChecks caller deadline engine w).1.map fun _ => ())
      (afterChecks caller deadline engine w).2.1 (afterChecks caller deadline engine w).2.2 := by
  have hinteraction : Step effects engine w _ _ _ :=
    .interaction (heffects _ ⟨w.cancelled, w.outside, Or.inl rfl⟩)
  have hmodel : ∀ check ∈ (caller.invoke w.cancelled w.outside).checks, ∀ later, effects (check.run later).2 :=
    fun check hcheck later => heffects _ ⟨w.cancelled, w.outside, Or.inr ⟨check, hcheck, later, rfl⟩⟩
  unfold afterChecks
  generalize caller.invoke w.cancelled w.outside = interaction at hinteraction hmodel
  refine .cons hinteraction (.cons .look ?_)
  dsimp only
  generalize (w.interact.apply interaction.effects).look = w₁
  by_cases hcancelled : w₁.cancelled = true
  · rw [if_pos hcancelled]
    exact .fail (.interrupted hcancelled)
  rw [if_neg hcancelled]
  have hraw : Step effects engine w₁ _ _ _ := .publication (.raw interaction.raw)
  generalize w₁.send (.callResponseRaw interaction.raw) = sent at hraw ⊢
  obtain ⟨e | _, w₂⟩ := sent
  · exact .fail hraw
  refine .cons hraw ?_
  have hchecks : Steps effects engine w₂ _ _ _ := steps_builtInChecks engine interaction.checks w₂ hmodel
  dsimp only
  generalize builtInChecks interaction.checks w₂ = checked at hchecks ⊢
  match checked, hchecks with
  | (.error e, w₃), hchecks => exact hchecks
  | (.ok .failed, w₃), hchecks => exact hchecks
  | (.ok .passed, w₃), hchecks =>
  refine hchecks.append ?_
  have hverified : Step effects engine w₃ _ _ _ :=
    .publication (.verified (publishedResponse interaction.response))
  dsimp only
  generalize w₃.send (.callResponseVerified (publishedResponse interaction.response)) = sent at hverified ⊢
  obtain ⟨e | _, w₄⟩ := sent
  · exact .fail hverified
  refine .cons hverified ?_
  have hafter : Steps effects engine w₄ _ _ _ := steps_userChecks .afterResponse caller.request interaction.response
    deadline engine w₄ (List.Subset.refl (engine.active .afterResponse))
  dsimp only
  generalize userChecks .afterResponse caller.request interaction.response deadline
    (engine.active .afterResponse) engine w₄ = checked at hafter ⊢
  match checked, hafter with
  | (.error e, engine', w₅), hafter => exact hafter
  | (.ok .failed, engine', w₅), hafter => exact hafter
  | (.ok .passed, engine', w₅), hafter =>
  refine hafter.append ?_
  have hdone : Step effects engine' w₅ _ _ _ := .publication .done
  dsimp only
  generalize w₅.send (.checkProgress .done) = sent at hdone ⊢
  obtain ⟨e | _, w₆⟩ := sent
  · exact .fail hdone
  · exact .single hdone

theorem steps_perform (caller : Caller μ) (deadline : Nat) (engine : CheckEngine μ) (w : World μ)
    (heffects : ∀ e, caller.Causes e → effects e) :
    Steps effects engine w ((perform caller deadline engine w).1.map fun _ => ())
      (perform caller deadline engine w).2.1 (perform caller deadline engine w).2.2 := by
  have hbefore : Steps effects engine w _ _ _ := steps_userChecks .beforeRequest caller.request none deadline engine w
    (List.Subset.refl (engine.active .beforeRequest))
  unfold perform
  generalize userChecks .beforeRequest caller.request none deadline (engine.active .beforeRequest) engine w = checked
    at hbefore ⊢
  match checked, hbefore with
  | (.error e, engine₁, w₁), hbefore => exact hbefore
  | (.ok .failed, engine₁, w₁), hbefore => exact hbefore
  | (.ok .passed, engine₁, w₁), hbefore => exact hbefore.append (steps_afterChecks caller deadline engine₁ w₁ heffects)

/-- **A call that can be prepared consists of steps.** -/
theorem steps_execute (model : Model μ) (callBudget : Nat) (call : Call) (engine : CheckEngine μ) (w : World μ)
    {caller : Caller μ} (hprepare : (model.prepare call w.outside).1 = .ok caller) :
    Steps (model.Causes call) engine w ((execute model callBudget call engine w).1.map fun _ => ())
      (execute model callBudget call engine w).2.1 (execute model callBudget call engine w).2.2 := by
  rw [execute_eq_perform model callBudget call engine w hprepare]
  refine .cons .look (.cons (.preparation ⟨w.outside, Or.inl rfl⟩) ?_)
  exact steps_perform caller _ engine _ fun e he => ⟨w.outside, Or.inr ⟨caller, hprepare, he⟩⟩

end

end CallExecution

end FuzzCampaign
