import FuzzCampaign.Proofs.Check.Accesses
import FuzzCampaign.Proofs.Check.Run
import FuzzCampaign.Proofs.Tree
set_option autoImplicit false

/-! # How a run is classified

What the status of a run says about it: how its hook ended, whether it was refused a replacement of the state,
and how the tree it leaves compares with the tree it began with. The run compares canonical texts; since no two
literal trees share one unless they are alike, it compares trees. -/

namespace FuzzCampaign

variable {μ : Type}

namespace CheckEngine

/-- Why a run fails: its hook ended with an error, was refused a replacement of the state, or left a tree that
is no dictionary or has a node without a literal form. -/
def Fails (result : Except HookError Unit) (accesses : List Access) (after : Tree) : Prop :=
  (∃ e, result = .error e) ∨ (∃ a ∈ accesses, a.Refused) ∨ after.isDict = false ∨
    ∃ node : Tree, node.Holds after ∧ node.Unwritable

/-- What the outcome of a run says about it: the run began with the tree `before`, its hook made these accesses,
left the tree `after` and ended with `result`. -/
structure Classifies (result : Except HookError Unit) (accesses : List Access) (before after : Tree)
    (status : OutcomeStatus) (reason : List String) (abandoned : Bool) : Prop where
  failure : status = .failure ↔ Fails result accesses after
  skipped : status = .skipped ↔ ¬ Fails result accesses after ∧ after.alike before = true
  success : status = .success ↔ ¬ Fails result accesses after ∧ after.alike before = false
  reason : status ≠ .failure → reason = []
  abandoned : abandoned = true ↔ result = .error .deadlineExceeded ∨ result = .error .cancelled

section
variable {result : Except HookError Unit} {accesses : List Access} {before after : Tree}

theorem Classifies.of_fails {reason : List String} {abandoned : Bool} (h : Fails result accesses after)
    (habandoned : abandoned = true ↔ result = .error .deadlineExceeded ∨ result = .error .cancelled) :
    Classifies result accesses before after .failure reason abandoned where
  failure := iff_of_true rfl h
  skipped := iff_of_false (by decide) fun h' => h'.1 h
  success := iff_of_false (by decide) fun h' => h'.1 h
  reason := fun h' => absurd rfl h'
  abandoned := habandoned

theorem not_abandoned (h : result = .ok ()) :
    false = true ↔ result = .error .deadlineExceeded ∨ result = .error .cancelled := by
  simp [h]

theorem isAbandonment_iff (e : HookError) :
    e.isAbandonment = true ↔
      (.error e : Except HookError Unit) = .error .deadlineExceeded ∨
        (.error e : Except HookError Unit) = .error .cancelled := by
  cases e <;> simp [HookError.isAbandonment]

/-- A run that does not fail leaves a tree with a canonical text, and the texts compare as the trees. -/
theorem Classifies.of_not_fails {text : String} (h : ¬ Fails result accesses after) (hresult : result = .ok ())
    (htext : after.canonical = .ok text) :
    Classifies result accesses before after
      (if before.canonical.toOption = some text then .skipped else .success) [] false := by
  have hsame : before.canonical.toOption = some text ↔ after.alike before = true := by
    rw [← Tree.canonical_eq_iff htext]
    cases before.canonical <;> simp [Except.toOption]
  split
  · rename_i htexts
    have halike := hsame.1 htexts
    exact ⟨iff_of_false (by decide) h, iff_of_true rfl ⟨h, halike⟩, iff_of_false (by decide) (by simp [halike]),
      fun _ => rfl, not_abandoned hresult⟩
  · rename_i htexts
    have hdiffers : after.alike before = false := by simpa [hsame] using htexts
    exact ⟨iff_of_false (by decide) h, iff_of_false (by decide) (by simp [hdiffers]), iff_of_true rfl ⟨h, hdiffers⟩,
      fun _ => rfl, not_abandoned hresult⟩

/-- Each way to be classified, when what the hook remembered tells whether it was refused a replacement. -/
theorem classify_classifies (bad : Option String) (hbad : bad ≠ none ↔ ∃ a ∈ accesses, a.Refused) :
    Classifies result accesses before after (classify before.canonical.toOption result bad after).status
      (classify before.canonical.toOption result bad after).reason
      (classify before.canonical.toOption result bad after).abandoned := by
  cases result with
  | error e => exact .of_fails (.inl ⟨e, rfl⟩) (isAbandonment_iff e)
  | ok u =>
    cases bad with
    | some kind => exact .of_fails (.inr (.inl (hbad.1 (by simp)))) (not_abandoned rfl)
    | none =>
      simp only [classify]
      cases hdict : after.isDict with
      | false => exact .of_fails (.inr (.inr (.inl hdict))) (not_abandoned rfl)
      | true =>
        cases htext : after.canonical with
        | error e => exact .of_fails (.inr (.inr (.inr (Tree.canonical_eq_error.1 ⟨e, htext⟩)))) (not_abandoned rfl)
        | ok text =>
          have hpasses : ¬ Fails (.ok u) accesses after := by
            rintro (⟨e, he⟩ | hrefused | hnodict | hnode)
            · cases he
            · exact absurd rfl (hbad.2 hrefused)
            · rw [hdict] at hnodict
              cases hnodict
            · obtain ⟨e, he⟩ := Tree.canonical_eq_error.2 hnode
              rw [htext] at he
              cases he
          have hclassifies : Classifies (.ok u) accesses before after _ [] false :=
            .of_not_fails hpasses rfl htext
          by_cases hsame : before.canonical.toOption = some text
          · simpa [hsame] using hclassifies
          · simpa [hsame] using hclassifies

end

/-- **What a status says.** The run of a check that is there fails exactly when its hook ends with an error (or a
panic, which is one), is refused a replacement of the state, whatever it does then, or leaves a tree that is no
dictionary or holds an opaque value or a float that is not finite. A run that does not fail is skipped when the
tree it leaves is the same as the one it began with, up to floats that are shown alike, and a success otherwise;
both have no reasons. Only a run whose hook ends because of the deadline or a cancellation is abandoned. -/
theorem run_classifies {engine : CheckEngine μ} {index : Nat} {check : Check μ}
    (hcheck : engine.checks[index]? = some check) (request : Tree) (response : Option Tree) (callDeadline : Nat)
    (w : World μ) :
    ∃ outcome engine' w', engine.run index request response callDeadline w = .ok (outcome, engine', w') ∧
      Classifies (runHook engine.limits check request response callDeadline w.look).1
        (hookAccesses engine.limits check request response callDeadline w.look) (startingState check)
        (runHook engine.limits check request response callDeadline w.look).2.1.state
        outcome.status outcome.reason outcome.abandoned := by
  have hbad := HookProgram.badAssignment_run (check.program w.look.outside)
    (startingContext engine.limits check request response callDeadline w.look.clock) w.look
  have hfresh : (startingContext engine.limits check request response callDeadline w.look.clock).badAssignment =
      none := rfl
  simp only [hfresh, ne_eq, not_true_eq_false, false_or] at hbad
  refine ⟨_, _, _, by simp only [run, hcheck]; rfl, ?_⟩
  exact classify_classifies _ hbad

/-! ## A refusal that is passed over -/

/-- Two checks that leave their states as they found them: the first is refused a replacement before, the second
replaces the state by an equal one. -/
def forgivingEngine : CheckEngine Unit where
  filter := ⟨.empty, .empty⟩
  limits := {}
  checks := [
    { name := "refused", kind := .afterResponse, tags := .empty, state := .emptyDict
      program := fun _ => .setState .null fun _ => .setState .emptyDict fun _ => .done },
    { name := "equal", kind := .afterResponse, tags := .empty, state := .dict [("seen", .bool true)]
      program := fun _ => .setState (.dict [("seen", .bool true)]) fun _ => .done }]

/-- The first fails although it ends normally with the tree it began with; the second is skipped. -/
theorem forgiving_runs_classified :
    (∃ outcome engine' w', forgivingEngine.run 0 .null none 1000 { outside := () } = .ok (outcome, engine', w') ∧
      outcome.status = .failure ∧ outcome.abandoned = false) ∧
    ∃ outcome engine' w', forgivingEngine.run 1 .null none 1000 { outside := () } = .ok (outcome, engine', w') ∧
      outcome.status = .skipped ∧ outcome.reason = [] := by
  constructor
  · obtain ⟨outcome, engine', w', hrun, hclassifies⟩ :=
      run_classifies (show forgivingEngine.checks[0]? = some _ from rfl) .null none 1000 { outside := () }
    refine ⟨outcome, engine', w', hrun, hclassifies.failure.2 (.inr (.inl ?_)), ?_⟩
    · exact ⟨⟨.setState .null, .ok (), .error (.stateNotTree "null")⟩, List.mem_cons_self, rfl, .null, rfl, rfl⟩
    · cases habandoned : outcome.abandoned with
      | false => rfl
      | true => rcases hclassifies.abandoned.1 habandoned with hend | hend <;> cases hend
  · obtain ⟨outcome, engine', w', hrun, hclassifies⟩ :=
      run_classifies (show forgivingEngine.checks[1]? = some _ from rfl) .null none 1000 { outside := () }
    have hpasses : ¬ Fails (.ok ()) [⟨.setState (.dict [("seen", .bool true)]), .ok (), .ok none⟩]
        (.dict [("seen", .bool true)]) := by
      simp [Fails, Access.Refused, Tree.isDict, Tree.holds_dict, Tree.holds_bool, Tree.Unwritable]
    have hskipped := hclassifies.skipped.2 ⟨hpasses, rfl⟩
    exact ⟨outcome, engine', w', hrun, hskipped, hclassifies.reason (by rw [hskipped]; decide)⟩

end CheckEngine

end FuzzCampaign
