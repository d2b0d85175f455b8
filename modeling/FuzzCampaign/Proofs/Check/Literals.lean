import FuzzCampaign.CallExecution
import FuzzCampaign.Proofs.Check.Classification
import FuzzCampaign.Proofs.Check.LiveState
import FuzzCampaign.Proofs.TreeConversion
set_option autoImplicit false

/-! # Literal trees in a campaign

A tree is tried for being literal in three places: when a check is registered with it, when a run leaves it as
the state of its check, and when it is published as a response. The three tests are written apart and agree. -/

namespace FuzzCampaign

variable {μ : Type}

namespace CheckEngine

/-! ## Registration -/

theorem onlyHook_after {d : CheckDefinition μ} {hook found : Hook μ} {kind : HookKind} (hafter : d.after = some hook)
    (h : onlyHook d = .ok (kind, found)) : kind = .afterResponse := by
  unfold onlyHook at h
  cases hbefore : d.before with
  | none =>
    simp only [hbefore, hafter] at h
    cases h
    rfl
  | some other =>
    simp only [hbefore, hafter] at h
    cases h

/-- A definition that is accepted without a state is accepted with a literal dictionary only. -/
theorem validate_state_iff {taken : List String} {d : CheckDefinition μ} {hook : Hook μ} {t : Tree}
    (hafter : d.after = some hook) (hbare : ∃ check, validate taken { d with state := none } = .ok check) :
    (∃ check, validate taken { d with state := some t } = .ok check) ↔ t.isDict = true ∧ t.isLiteral = true := by
  simp only [validate_eq_ok_iff] at hbare ⊢
  constructor
  · rintro ⟨check, haccepted⟩
    obtain ⟨found, honly, -⟩ := haccepted.hook
    have hstate := haccepted.state
    rw [onlyHook_after hafter honly] at hstate
    rcases initialState_after_iff.1 hstate with ⟨hnone, -⟩ | ⟨hgiven, hliteral⟩
    · cases hnone
    · cases hgiven
      exact hliteral
  · intro ht
    obtain ⟨check, hlegal, hfree, ⟨found, honly, hfound⟩, -, htags, hname, hchecktags⟩ := hbare
    have hkind := onlyHook_after hafter honly
    have hstate : initialState d.name check.kind (some t) = .ok t := by
      rw [hkind]
      exact initialState_after_iff.2 (.inr ⟨rfl, ht⟩)
    exact ⟨{ check with state := t }, hlegal, hfree, ⟨found, honly, hfound⟩, hstate, htags, hname, hchecktags⟩

theorem register_ok_iff {engine : CheckEngine μ} {d : CheckDefinition μ} :
    (∃ engine', engine.register d = .ok engine') ↔
      ∃ check, validate (engine.checks.map Check.name) d = .ok check := by
  unfold register
  cases validate (engine.checks.map Check.name) d <;> simp

/-! ## Runs -/

/-- A hook that ended normally and was refused nothing fails its run by the tree it leaves only. -/
theorem fails_iff_not_literal {accesses : List Access} (haccepted : ∀ a ∈ accesses, ¬ a.Refused) (t : Tree) :
    Fails (.ok ()) accesses t ↔ ¬ (t.isDict = true ∧ t.isLiteral = true) := by
  have hnodes : (∃ node : Tree, node.Holds t ∧ node.Unwritable) ↔ ¬ t.isLiteral = true := by
    rw [Tree.isLiteral_iff_nodes]
    simp
  have hrefused : ¬ ∃ a ∈ accesses, a.Refused := by simpa using haccepted
  have hended : ¬ ∃ e, (.ok () : Except HookError Unit) = .error e := by simp
  rw [Fails, hnodes, or_iff_right hrefused, or_iff_right hended, Decidable.not_and_iff_not_or_not,
    Bool.not_eq_true t.isDict]

section
variable {limits : CheckLimits} {check : Check μ} {request : Tree} {response : Option Tree} {callDeadline : Nat}
  {w : World μ}

/-- What a run says about its hook and the tree the hook leaves. -/
theorem runCheck_failure_iff :
    (runCheck limits check request response callDeadline w).1.status = .failure ↔
      Fails (runHook limits check request response callDeadline w.look).1
        (hookAccesses limits check request response callDeadline w.look)
        (runHook limits check request response callDeadline w.look).2.1.state := by
  have hbad := HookProgram.badAssignment_run (check.program w.look.outside)
    (startingContext limits check request response callDeadline w.look.clock) w.look
  have hfresh : (startingContext limits check request response callDeadline w.look.clock).badAssignment =
      none := rfl
  simp only [hfresh, ne_eq, not_true_eq_false, false_or] at hbad
  have hclassified : Classifies (runHook limits check request response callDeadline w.look).1
      (hookAccesses limits check request response callDeadline w.look) (startingState check)
      (runHook limits check request response callDeadline w.look).2.1.state
      (runCheck limits check request response callDeadline w).1.status
      (runCheck limits check request response callDeadline w).1.reason
      (runCheck limits check request response callDeadline w).1.abandoned := classify_classifies _ hbad
  exact hclassified.failure

end

end CheckEngine

open CheckEngine CallExecution

/-- **One notion of a literal tree.** The test for literal trees holds of exactly the trees that have a canonical
text and of exactly those that are converted to JSON, and the converted value stands for the tree itself, at any
depth and with its floats as they are. So a definition that is otherwise accepted may have exactly the literal
dictionaries for a state; a run whose hook ends normally and is refused nothing fails unless it leaves one of
them; and exactly the literal trees are published as a value that stands for them, the others as `null`. -/
theorem literal_everywhere (t : Tree) :
    (t.isLiteral = true ↔ ∃ text, t.canonical = .ok text) ∧
      (t.isLiteral = true ↔ ∃ v, t.toJson = .ok v) ∧
      (∀ v, t.toJson = .ok v → Tree.ofJson v = t) ∧
      (∀ (engine : CheckEngine μ) (d : CheckDefinition μ) (hook : Hook μ), d.after = some hook →
        (∃ engine', engine.register { d with state := none } = .ok engine') →
        ((∃ engine', engine.register { d with state := some t } = .ok engine') ↔
          t.isDict = true ∧ t.isLiteral = true)) ∧
      (∀ (limits : CheckLimits) (check : Check μ) (request : Tree) (response : Option Tree) (callDeadline : Nat)
        (w : World μ), (runHook limits check request response callDeadline w.look).1 = .ok () →
        (∀ a ∈ hookAccesses limits check request response callDeadline w.look, ¬ a.Refused) →
        (runHook limits check request response callDeadline w.look).2.1.state = t →
        ((runCheck limits check request response callDeadline w).1.status ≠ .failure ↔
          t.isDict = true ∧ t.isLiteral = true)) ∧
      (t.isLiteral = true ↔ Tree.ofJson (publishedResponse (some t)) = t) ∧
      (t.isLiteral = false → publishedResponse (some t) = .null) := by
  refine ⟨t.isLiteral_iff_canonical, t.isLiteral_iff, fun v hv => t.ofJson_toJson hv, ?_, ?_, ?_, ?_⟩
  · intro engine d hook hafter hbare
    rw [register_ok_iff] at hbare ⊢
    exact validate_state_iff hafter hbare
  · intro limits check request response callDeadline w hended haccepted hleft
    rw [ne_eq, runCheck_failure_iff, hended, hleft, fails_iff_not_literal haccepted, Decidable.not_not]
  · cases hwritten : t.toJson with
    | ok v =>
      have hback := t.ofJson_toJson hwritten
      exact iff_of_true (t.isLiteral_iff.2 ⟨v, hwritten⟩) (by simpa only [publishedResponse, hwritten] using hback)
    | error e =>
      -- what is published stands for `null`, another tree than `t`, since that one is literal
      have hnull : t ≠ .null := by
        rintro rfl
        cases hwritten
      refine iff_of_false (by simp [t.isLiteral_iff, hwritten]) ?_
      simpa only [publishedResponse, hwritten, Tree.ofJson] using hnull.symm
  · intro hnot
    cases hwritten : t.toJson with
    | ok v =>
      rw [t.isLiteral_iff.2 ⟨v, hwritten⟩] at hnot
      cases hnot
    | error e => simp only [publishedResponse, hwritten]

/-! ## A function in the state -/

/-- A state that holds a function. -/
def functionState : Tree := .dict [("f", .opaqueValue "function")]

/-- A definition of a check that does nothing. -/
def idleDefinition : CheckDefinition Unit := { name := "idle", after := some { program := fun _ => .done } }

/-- Such a check, whose state holds a function. -/
def holdingCheck : Check Unit where
  name := "idle"
  kind := .afterResponse
  program := fun _ => .done
  tags := .empty
  state := functionState

/-- It cannot be registered, each of its runs fails, and as a response the tree is published as `null`. -/
theorem function_state_not_literal :
    (¬ ∃ engine', (⟨⟨.empty, .empty⟩, {}, []⟩ : CheckEngine Unit).register
        { idleDefinition with state := some functionState } = .ok engine') ∧
      (runCheck {} holdingCheck .null none 1000 { outside := () }).1.status = .failure ∧
      publishedResponse (some functionState) = .null := by
  have hnot : ¬ (functionState.isDict = true ∧ functionState.isLiteral = true) := by decide
  obtain ⟨-, -, -, hregistered, hrun, -, hpublished⟩ := literal_everywhere functionState
  refine ⟨?_, ?_, hpublished rfl⟩
  · rw [hregistered ⟨⟨.empty, .empty⟩, {}, []⟩ idleDefinition _ rfl ⟨_, rfl⟩]
    exact hnot
  · have hpasses := hrun {} holdingCheck .null none 1000 { outside := () } rfl (fun _ => nofun) rfl
    exact Decidable.not_not.1 (mt hpasses.1 hnot)

end FuzzCampaign
