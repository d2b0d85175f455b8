import FuzzCampaign.Proofs.Check.Accesses
import FuzzCampaign.Proofs.Check.LiveState
import FuzzCampaign.Proofs.TreeReading
set_option autoImplicit false

/-! # The state before a run is put back

A hook that ends normally and leaves something else than a dictionary in the place of its state fails, and the
tree before the run is put back. That tree is not kept: its canonical text is, and a tree without one, or one
whose text cannot be read, gives way to the empty dictionary. So exactly the trees that are read back from their
text are put back, and of the others some are lost. -/

namespace FuzzCampaign

variable {μ : Type}

namespace CheckEngine

/-! ## The tree of a text -/

theorem restorable_emptyDict : Tree.emptyDict.Restorable where
  literal := by
    intro node h
    rcases Tree.holds_dict.1 h with rfl | ⟨e, he, -⟩
    · exact id
    · cases he
  shallow := by decide
  rereadable := by
    intro node h
    rcases Tree.holds_dict.1 h with rfl | ⟨e, he, -⟩
    · exact List.Pairwise.nil
    · cases he

/-- Without a text that is read there is nothing but the empty dictionary. -/
theorem restore_of_none {before : Option String} (h : before.bind Tree.parse? = none) :
    restore before = .emptyDict := by rw [restore, h]

/-- A tree that has no text, or whose text nests too deep, is not put back. -/
theorem restore_lost {t : Tree} (h : (∃ node, Tree.Holds node t ∧ node.Unwritable) ∨ Json.maxDepth < t.depth) :
    restore t.canonical.toOption = .emptyDict := by
  refine restore_of_none ?_
  cases htext : t.canonical with
  | error e => rfl
  | ok text =>
    rcases h with hnode | hdeep
    · obtain ⟨e, he⟩ := Tree.canonical_eq_error.2 hnode
      rw [htext] at he
      cases he
    · exact Tree.parse?_canonical_of_lt htext hdeep

/-- **A dictionary is put back from its text exactly when it is restorable.** -/
theorem restore_eq_iff {t : Tree} (hdict : t.isDict = true) : restore t.canonical.toOption = t ↔ t.Restorable := by
  -- the empty dictionary also stands for what is not read, but then it is what it stands for
  have hempty : Tree.emptyDict = t → t.Restorable := fun h => h ▸ restorable_emptyDict
  cases htext : t.canonical with
  | error e =>
    have hnode := Tree.canonical_eq_error.1 ⟨e, htext⟩
    refine ⟨fun h => hempty h, fun h => ?_⟩
    obtain ⟨node, hholds, hunwritable⟩ := hnode
    exact absurd hunwritable (h.literal node hholds)
  | ok text =>
    have hread := Tree.parse?_canonical_iff htext
    constructor
    · intro h
      cases hparse : Tree.parse? text with
      | none =>
        rw [restore_of_none (by exact hparse)] at h
        exact hempty h
      | some tree =>
        simp only [restore, Except.toOption, Option.bind_some, hparse] at h
        split at h
        · exact hread.1 (hparse.trans (congrArg some h))
        · exact hempty h
    · intro h
      simp only [restore, Except.toOption, Option.bind_some, hread.2 h, hdict, if_true]

/-! ## A run that replaces the state -/

section
variable {limits : CheckLimits} {check : Check μ} {request : Tree} {response : Option Tree} {callDeadline : Nat}
  {w : World μ}

/-- What a hook did that ended normally, was refused nothing and left something else than a dictionary. -/
structure Replaces (limits : CheckLimits) (check : Check μ) (request : Tree) (response : Option Tree)
    (callDeadline : Nat) (w : World μ) : Prop where
  ended : (runHook limits check request response callDeadline w.look).1 = .ok ()
  accepted : ∀ a ∈ hookAccesses limits check request response callDeadline w.look, ¬ a.Refused
  left : (runHook limits check request response callDeadline w.look).2.1.state.isDict = false

theorem Replaces.badAssignment (h : Replaces limits check request response callDeadline w) :
    (runHook limits check request response callDeadline w.look).2.1.badAssignment = none := by
  have hbad := HookProgram.badAssignment_run (check.program w.look.outside)
    (startingContext limits check request response callDeadline w.look.clock) w.look
  refine Classical.not_not.1 fun hsome => ?_
  rcases hbad.1 hsome with hfresh | ⟨a, ha, hrefused⟩
  · exact hfresh rfl
  · exact h.accepted a ha hrefused

/-- Such a run fails for the type of the value that was left, and puts back what the text before it tells. -/
theorem Replaces.runCheck (h : Replaces limits check request response callDeadline w)
    (hkind : check.kind = .afterResponse) :
    (runCheck limits check request response callDeadline w).1.status = .failure ∧
      (runCheck limits check request response callDeadline w).1.reason =
        [(HookError.stateNotTree
          (runHook limits check request response callDeadline w.look).2.1.state.typeName).message] ∧
      (runCheck limits check request response callDeadline w).2.1 =
        { check with state := restore check.state.canonical.toOption } := by
  have hclassify : ∀ before,
      classify before (runHook limits check request response callDeadline w.look).1
        (runHook limits check request response callDeadline w.look).2.1.badAssignment
        (runHook limits check request response callDeadline w.look).2.1.state =
      ⟨.failure, [(HookError.stateNotTree
        (runHook limits check request response callDeadline w.look).2.1.state.typeName).message], false,
        restore before⟩ := by
    intro before
    simp [classify, h.ended, h.badAssignment, h.left]
  have hstart : startingState check = check.state := by rw [startingState, hkind]
  refine ⟨?_, ?_, ?_⟩
  · exact congrArg Verdict.status (hclassify _)
  · exact congrArg Verdict.reason (hclassify _)
  · rw [runCheck_check, hkind]
    simp only [hclassify, hstart]

end

/-- **A state that something else took the place of is put back exactly when it is restorable.** The run fails for
the type of what took its place and leaves a dictionary in any case: the empty one, when the state had no text or
its text nests too deep to be read. -/
theorem state_put_back_iff {engine : CheckEngine μ} {index : Nat} {check : Check μ}
    (hcheck : engine.checks[index]? = some check) (hkind : check.kind = .afterResponse)
    (hdict : check.state.isDict = true) {request : Tree} {response : Option Tree} {callDeadline : Nat} {w : World μ}
    (hreplaces : Replaces engine.limits check request response callDeadline w) :
    ∃ outcome engine' w' state, engine.run index request response callDeadline w = .ok (outcome, engine', w') ∧
      outcome.status = .failure ∧
      outcome.reason = [(HookError.stateNotTree
        (runHook engine.limits check request response callDeadline w.look).2.1.state.typeName).message] ∧
      engine'.checks[index]? = some { check with state } ∧ state.isDict = true ∧
      (state = check.state ↔ check.state.Restorable) ∧
      ((∃ node, Tree.Holds node check.state ∧ node.Unwritable) ∨ Json.maxDepth < check.state.depth →
        state = .emptyDict) := by
  obtain ⟨hstatus, hreason, hleft⟩ := hreplaces.runCheck hkind
  obtain ⟨hlt, -⟩ := List.getElem?_eq_some_iff.1 hcheck
  refine ⟨(runCheck engine.limits check request response callDeadline w).1, _,
    (runCheck engine.limits check request response callDeadline w).2.2, restore check.state.canonical.toOption,
    by simp only [run, hcheck]; rfl, hstatus, hreason, ?_, restore_isDict _, restore_eq_iff hdict, restore_lost⟩
  rw [hleft]
  exact List.getElem?_set_self hlt

/-! ## States that nest -/

/-- A value inside `n` dictionaries. -/
def nested : Nat → Tree
  | 0 => .int 1
  | n + 1 => .dict [("k", nested n)]

theorem depth_nested (n : Nat) : (nested n).depth = n := by
  induction n with
  | zero => rfl
  | succ n ih => simp [nested, Tree.depth, Tree.depthEntries, ih]

theorem nodes_nested {n : Nat} {node : Tree} (h : Tree.Holds node (nested n)) :
    ¬ node.Unwritable ∧ node.Rereadable := by
  induction n with
  | zero =>
    cases h
    exact ⟨id, trivial⟩
  | succ n ih =>
    rcases Tree.holds_dict.1 h with rfl | ⟨e, he, hinside⟩
    · exact ⟨id, List.pairwise_singleton _ _⟩
    · rw [List.mem_singleton.1 he] at hinside
      exact ih hinside

theorem restorable_nested_iff (n : Nat) : (nested n).Restorable ↔ n ≤ Json.maxDepth := by
  constructor
  · intro h
    have hshallow := h.shallow
    rwa [depth_nested] at hshallow
  · intro h
    exact ⟨fun _ hnode => (nodes_nested hnode).1, by rwa [depth_nested], fun _ hnode => (nodes_nested hnode).2⟩

theorem isLiteral_nested (n : Nat) : (nested n).isLiteral = true := by
  induction n with
  | zero => rfl
  | succ n ih => simp [nested, Tree.isLiteral, Tree.allLiteralEntries, ih]

/-- A hook that puts a number in the place of its state. -/
def overwritingHook : HookProgram Unit := .state (fun _ => .int 5) fun _ => .done

/-- A check that overwrites its state, which nests. -/
def overwritingCheck (n : Nat) : Check Unit where
  name := "a"
  kind := .afterResponse
  program := fun _ => overwritingHook
  tags := .empty
  state := nested n

/-- The check is registered. -/
def overwritingHistory (n : Nat) : List (EngineCall Unit) :=
  [.register { name := "a", after := some { program := fun _ => overwritingHook }, state := some (nested n) }]

theorem registered_overwriting (n : Nat) :
    (reached ⟨.empty, .empty⟩ {} (overwritingHistory (n + 1))).checks[0]? = some (overwritingCheck (n + 1)) := by
  have hstate : initialState "a" .afterResponse (some (nested (n + 1))) = .ok (nested (n + 1)) := by
    have hliteral := isLiteral_nested (n + 1)
    rw [initialState, hliteral]
    rfl
  have hvalid : validate []
      { name := "a", after := some { program := fun _ => overwritingHook }, state := some (nested (n + 1)) } =
      .ok (overwritingCheck (n + 1)) := by
    have hname : legalName "check" "a" = .ok () := rfl
    exact validate_eq_ok_iff.2 ⟨hname, List.not_mem_nil, ⟨_, rfl, rfl, rfl⟩, hstate, rfl, rfl, rfl⟩
  simp only [reached, overwritingHistory, after, register, List.map_nil, hvalid]
  rfl

theorem overwriting_replaces (n : Nat) : Replaces {} (overwritingCheck n) .emptyDict none 1000 { outside := () } where
  ended := rfl
  accepted := by
    rintro a ha ⟨-, value, hcall, -⟩
    rw [List.mem_singleton.1 ha] at hcall
    cases hcall
  left := rfl

/-- At most as many dictionaries as a document may nest are put back. -/
theorem shallow_state_put_back :
    (reached ⟨.empty, .empty⟩ {} (overwritingHistory 127)).checks[0]? = some (overwritingCheck 127) ∧
    ∃ outcome engine' w',
      (reached ⟨.empty, .empty⟩ {} (overwritingHistory 127)).run 0 .emptyDict none 1000 { outside := () } =
        .ok (outcome, engine', w') ∧ outcome.status = .failure ∧
      engine'.checks[0]? = some (overwritingCheck 127) := by
  have hcheck := registered_overwriting 126
  have hreplaces : Replaces (reached ⟨.empty, .empty⟩ {} (overwritingHistory 127)).limits (overwritingCheck 127)
      .emptyDict none 1000 { outside := () } := by
    rw [reached_limits]
    exact overwriting_replaces 127
  obtain ⟨outcome, engine', w', state, hrun, hstatus, -, hleft, -, hstate, -⟩ :=
    state_put_back_iff hcheck rfl rfl hreplaces
  refine ⟨hcheck, outcome, engine', w', hrun, hstatus, ?_⟩
  rw [hleft, hstate.2 ((restorable_nested_iff 127).2 (by decide))]

/-- One more, and the state is lost. -/
theorem deep_state_lost :
    (reached ⟨.empty, .empty⟩ {} (overwritingHistory 128)).checks[0]? = some (overwritingCheck 128) ∧
      (overwritingCheck 128).state.isDict = true ∧
      Replaces {} (overwritingCheck 128) .emptyDict none 1000 { outside := () } ∧
      (reached ⟨.empty, .empty⟩ {}
          (.run 0 .emptyDict none 1000 { outside := () } :: overwritingHistory 128)).checks[0]? =
        some { overwritingCheck 128 with state := .emptyDict } ∧
      (overwritingCheck 128).state ≠ .emptyDict := by
  have hcheck := registered_overwriting 127
  refine ⟨hcheck, rfl, overwriting_replaces 128, ?_, fun h => ?_⟩
  · have hdeep : Json.maxDepth < (overwritingCheck 128).state.depth := by
      rw [overwritingCheck, depth_nested]
      decide
    rw [reached, after_run_checks, if_pos rfl, hcheck, Option.map_some, reached_limits,
      ((overwriting_replaces 128).runCheck rfl).2.2, restore_lost (.inr hdeep)]
  · have hdepth := depth_nested 128
    rw [show nested 128 = .emptyDict from h] at hdepth
    cases hdepth

end CheckEngine

end FuzzCampaign
