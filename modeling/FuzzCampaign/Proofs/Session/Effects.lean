import FuzzCampaign.Proofs.CallEffects
import FuzzCampaign.Proofs.Session.Turns
set_option autoImplicit false

/-! # What the parts of an attempt do to its surroundings

Apart from the announcement of the campaign and the counters that are taken over, an attempt announces no
campaign and shows no counters, but what the model and the lifecycle show by themselves. -/

namespace FuzzCampaign

open World (Quiet)

/-- Counters that a lifecycle shows by itself. -/
def Lifecycle.Shows {σ μ : Type} (lifecycle : Lifecycle σ μ) (p : Progress) : Prop :=
  (∃ state outside, .progress p ∈ (lifecycle.build state outside).2.1.shown) ∨
    (∃ env cancelled now state outside, .progress p ∈ (lifecycle.reset env cancelled now state outside).2.1.shown) ∨
    ∃ now state outside, .progress p ∈ (lifecycle.terminate now state outside).2.1.shown

/-- A reset shows no counters but those of the lifecycle. -/
theorem ResetController.quiet_reset {σ μ : Type} (c : ResetController) (lifecycle : Lifecycle σ μ) (env : EnvSnapshot)
    (state : σ) (w : World μ) : Quiet lifecycle.Shows w (c.reset lifecycle env state w).2.2.2 := by
  have hshown : ∀ cancelled now outside p, .progress p ∈ (lifecycle.reset env cancelled now state outside).2.1.shown →
      lifecycle.Shows p := fun _ _ _ _ hp => Or.inr (Or.inl ⟨_, _, _, _, _, hp⟩)
  unfold ResetController.reset
  generalize lifecycle.reset env = act at hshown ⊢
  dsimp only
  have hstart : Quiet lifecycle.Shows w _ := w.quiet_send (m := .resetProgress ⟨.started, 0, []⟩) (by simp)
  generalize w.send (.resetProgress ⟨.started, 0, []⟩) = started at hstart ⊢
  obtain ⟨e | u, w₁⟩ := started
  · exact hstart
  dsimp only
  have hdone := hshown w₁.look.cancelled w₁.look.clock w₁.look.outside
  generalize act w₁.look.cancelled w₁.look.clock state w₁.look.outside = done at hdone ⊢
  obtain ⟨result, effects, state'⟩ := done
  have hreset := (hstart.trans w₁.quiet_look).trans (w₁.look.quiet_apply hdone)
  cases result with
  | error e => exact hreset.trans (World.quiet_send _ fun _ => by simp)
  | ok u => exact hreset.trans (World.quiet_send _ fun _ => by simp)

namespace Session

variable {σ μ : Type}

/-- Counters that the model or the lifecycle of a session show by themselves. -/
def PartsShow (plan : SessionPlan σ μ) (p : Progress) : Prop :=
  CallExecution.Shows plan.model p ∨ plan.lifecycle.Shows p

section
variable (plan : SessionPlan σ μ) (env : EnvSnapshot) (a : Attempt) (s : Session σ μ)

theorem quiet_dispatch (payload : ServerPayload) :
    Quiet (PartsShow plan) s.world (dispatch plan env a s payload).2.world := by
  cases payload with
  | fuzzingReport report => exact s.world.quiet_present (by simp)
  | call call =>
    have hcall : Quiet (PartsShow plan) s.world (executeCall plan call s).2.world :=
      (CallExecution.quiet_execute plan.model plan.options.callBudget call s.engine s.world).mono fun _ => Or.inl
    dsimp only [dispatch]
    generalize executeCall plan call s = executed at hcall ⊢
    obtain ⟨e | u, s'⟩ := executed <;> exact hcall
  | reset =>
    have hreset : Quiet (PartsShow plan) s.world (executeReset plan env a s).2.world := by
      rw [executeReset_session]
      exact (a.controller.quiet_reset plan.lifecycle env s.lifecycleState s.world).mono fun _ => Or.inr
    dsimp only [dispatch]
    generalize executeReset plan env a s = executed at hreset ⊢
    obtain ⟨e | a', s'⟩ := executed <;> exact hreset
  | fuzzingResult result => exact .refl _

theorem quiet_receive {counters : Progress → Prop} (timeout : Nat) :
    Quiet counters s.world (s.receive timeout).2.world := by
  have hlook : Quiet counters s.world s.world.look := s.world.quiet_look
  unfold receive
  dsimp only
  split
  · exact hlook
  · split
    · exact hlook
    · split
      · have hwait : Quiet counters s.world (s.world.look.nudge { pause := timeout }) :=
          hlook.trans (World.quiet_of_eq rfl rfl)
        exact hwait.trans (World.quiet_look _)
      · exact hlook

theorem quiet_await {counters : Progress → Prop} : Quiet counters s.world (await plan s).2.world :=
  quiet_receive (s.enter .awaitDirective) plan.options.replyTimeout

theorem quiet_equipped : Quiet (PartsShow plan) s.world (equipped plan s).world :=
  s.world.quiet_apply fun _ hp => Or.inr (Or.inl ⟨_, _, hp⟩)

theorem quiet_release : Quiet (PartsShow plan) s.world (release plan s).2.world :=
  s.world.quiet_look.trans (World.quiet_apply _ fun _ hp => Or.inr (Or.inr (Or.inr ⟨_, _, _, hp⟩)))

theorem quiet_flush {counters : Progress → Prop} : Quiet counters s.world (flush plan s).2.world :=
  s.world.quiet_present (by simp)

end

end Session

end FuzzCampaign
