import FuzzCampaign.Proofs.Check.Run
import FuzzCampaign.Proofs.Steps
set_option autoImplicit false

/-! # The live state of a check is a dictionary

A check begins with a dictionary and a hook that ends normally leaves one, because a state that is none
gives way to the tree before the run. The other ends of a run put nothing back: a hook that replaced its
tree through the live state by something else and then fails, ends abnormally, or was refused another
replacement before, leaves that behind for its next run. `live_state_isDict_iff` says for every history of
the engine that this is the only way. -/

namespace FuzzCampaign

variable {μ : Type}

/-- A call to the engine. Every run happens in surroundings of its own. -/
inductive EngineCall (μ : Type) where
  | register (definition : CheckDefinition μ)
  | run (index : Nat) (request : Tree) (response : Option Tree) (callDeadline : Nat) (world : World μ)

namespace CheckEngine

/-- The engine after a call; a call that is refused leaves it as it is. -/
def after (engine : CheckEngine μ) : EngineCall μ → CheckEngine μ
  | .register definition =>
    match engine.register definition with
    | .ok engine => engine
    | .error _ => engine
  | .run index request response callDeadline w =>
    match engine.run index request response callDeadline w with
    | .ok (_, engine, _) => engine
    | .error _ => engine

/-- What a history of calls, the latest first, makes of an empty engine. -/
def reached (filter : TagFilter) (limits : CheckLimits) : List (EngineCall μ) → CheckEngine μ
  | [] => { filter, limits }
  | call :: earlier => (reached filter limits earlier).after call

/-- A run after which the tree that its hook left is not put back although it is no dictionary: the hook
failed, or was refused a replacement of the state. -/
def Spoils (limits : CheckLimits) (check : Check μ) (request : Tree) (response : Option Tree)
    (callDeadline : Nat) (w : World μ) : Prop :=
  check.kind = .afterResponse ∧
    (runHook limits check request response callDeadline w.look).2.1.state.isDict = false ∧
    ((runHook limits check request response callDeadline w.look).1 ≠ .ok () ∨
      (runHook limits check request response callDeadline w.look).2.1.badAssignment ≠ none)

/-- Whether the latest run of the check at a position spoiled its state. -/
def Spoiled (filter : TagFilter) (limits : CheckLimits) : List (EngineCall μ) → Nat → Prop
  | [], _ => False
  | .register _ :: earlier, i => Spoiled filter limits earlier i
  | .run index request response callDeadline w :: earlier, i =>
    if index = i then
      ∃ check, (reached filter limits earlier).checks[i]? = some check ∧
        Spoils limits check request response callDeadline w
    else Spoiled filter limits earlier i

/-! ## What one run leaves -/

theorem restore_isDict (before : Option String) : (restore before).isDict = true := by
  unfold restore
  split
  · split
    · assumption
    · rfl
  · rfl

/-- Classification keeps the tree that the hook left, unless the hook ended normally and was refused
nothing; then a dictionary takes the place of anything else. -/
theorem classify_state_isDict_iff (before : Option String) (result : Except HookError Unit)
    (badAssignment : Option String) (state : Tree) :
    (classify before result badAssignment state).state.isDict = true ↔
      state.isDict = true ∨ (result = .ok () ∧ badAssignment = none) := by
  cases result with
  | error e => simp [classify]
  | ok u =>
    cases badAssignment with
    | some kind => simp [classify]
    | none =>
      by_cases hdict : state.isDict = true
      · have hkept : (classify before (.ok u) none state).state = state := by
          simp only [classify, hdict]
          cases state.canonical with
          | error e => rfl
          | ok text => by_cases h : before = some text <;> simp [h]
        simp [hkept, hdict]
      · simp [classify, hdict, restore_isDict]

/-- A run leaves a dictionary unless it spoils the state, given that a check before the request, whose
state no run touches, has one. -/
theorem runCheck_isDict_iff (limits : CheckLimits) (check : Check μ) (request : Tree)
    (response : Option Tree) (callDeadline : Nat) (w : World μ)
    (hbefore : check.kind = .beforeRequest → check.state.isDict = true) :
    (runCheck limits check request response callDeadline w).2.1.state.isDict = true ↔
      ¬ Spoils limits check request response callDeadline w := by
  rw [runCheck_check]
  cases hkind : check.kind with
  | beforeRequest => simp [Spoils, hkind, hbefore hkind]
  | afterResponse =>
    simp only [classify_state_isDict_iff, Spoils, hkind, true_and]
    by_cases hdict : (runHook limits check request response callDeadline w.look).2.1.state.isDict = true
    · simp [hdict]
    · simp [hdict]

/-! ## Histories -/

/-- A check before the request begins with the empty dictionary. -/
theorem initialState_before_iff {name : String} {given : Option Tree} {state : Tree} :
    initialState name .beforeRequest given = .ok state ↔
      (given = none ∨ given = some .emptyDict) ∧ state = .emptyDict := by
  cases given with
  | none => simp [initialState, Tree.emptyDict, eq_comm]
  | some t =>
    have hempty : t.isEmptyDict = true ↔ t = .emptyDict := by
      unfold Tree.isEmptyDict Tree.emptyDict
      split <;> simp_all
    by_cases ht : t = .emptyDict
    · simp [initialState, ht, Tree.isEmptyDict, Tree.emptyDict, eq_comm]
    · simp [initialState, hempty, ht]

/-- A check after the response begins with the literal dictionary that it is given, or with the empty one. -/
theorem initialState_after_iff {name : String} {given : Option Tree} {state : Tree} :
    initialState name .afterResponse given = .ok state ↔
      (given = none ∧ state = .emptyDict) ∨
        (given = some state ∧ state.isDict = true ∧ state.isLiteral = true) := by
  cases given with
  | none => simp only [initialState, Except.ok.injEq, reduceCtorEq, true_and, false_and, or_false, eq_comm]
  | some t =>
    simp only [initialState, reduceCtorEq, false_and, false_or, Option.some.injEq]
    cases hdict : t.isDict <;> cases hliteral : t.isLiteral <;> simp <;> rintro rfl <;> simp [hdict, hliteral]

theorem initialState_isDict {name : String} {kind : HookKind} {given : Option Tree} {state : Tree}
    (h : initialState name kind given = .ok state) : state.isDict = true := by
  cases kind with
  | beforeRequest =>
    rw [(initialState_before_iff.1 h).2]
    rfl
  | afterResponse =>
    rcases initialState_after_iff.1 h with ⟨-, rfl⟩ | ⟨-, hdict, -⟩
    · rfl
    · exact hdict

/-- A definition is accepted as a check. -/
structure Accepted (taken : List String) (d : CheckDefinition μ) (check : Check μ) : Prop where
  legal : legalName "check" d.name = .ok ()
  free : d.name ∉ taken
  hook : ∃ hook, onlyHook d = .ok (check.kind, hook) ∧ hook.arity = 1 ∧ check.program = hook.program
  state : initialState d.name check.kind d.state = .ok check.state
  legalTags : legalNames "tag" d.tags.toList = .ok ()
  name : check.name = d.name
  tags : check.tags = d.tags

theorem validate_eq_ok_iff {taken : List String} {d : CheckDefinition μ} {check : Check μ} :
    validate taken d = .ok check ↔ Accepted taken d check := by
  constructor
  · intro h
    unfold validate at h
    obtain ⟨u, hlegal, h⟩ := bind_eq_ok_iff.1 h
    split at h
    · cases h
    next hfree =>
    obtain ⟨⟨kind, hook⟩, hhook, h⟩ := bind_eq_ok_iff.1 h
    dsimp only at h
    split at h
    · cases h
    next harity =>
    obtain ⟨state, hstate, h⟩ := bind_eq_ok_iff.1 h
    obtain ⟨v, htags, h⟩ := bind_eq_ok_iff.1 h
    cases h
    exact ⟨hlegal, hfree, ⟨hook, hhook, not_not.1 harity, rfl⟩, hstate, htags, rfl, rfl⟩
  · rintro ⟨hlegal, hfree, ⟨hook, hhook, harity, hprogram⟩, hstate, htags, hname, hchecktags⟩
    obtain ⟨name, kind, program, tags, state⟩ := check
    cases hprogram
    cases hname
    cases hchecktags
    unfold validate
    refine bind_eq_ok_iff.2 ⟨(), hlegal, ?_⟩
    rw [if_neg hfree]
    refine bind_eq_ok_iff.2 ⟨(kind, hook), hhook, ?_⟩
    dsimp only
    rw [if_neg (not_not.2 harity)]
    exact bind_eq_ok_iff.2 ⟨state, hstate, bind_eq_ok_iff.2 ⟨(), htags, rfl⟩⟩

theorem validate_isDict {taken : List String} {d : CheckDefinition μ} {check : Check μ}
    (h : validate taken d = .ok check) : check.state.isDict = true := by
  exact initialState_isDict (validate_eq_ok_iff.1 h).state

theorem after_register (engine : CheckEngine μ) (d : CheckDefinition μ) :
    (∃ check, validate (engine.checks.map Check.name) d = .ok check ∧
      engine.after (.register d) = { engine with checks := engine.checks ++ [check] }) ∨
    engine.after (.register d) = engine := by
  simp only [after, register]
  cases hvalid : validate (engine.checks.map Check.name) d with
  | error e => exact Or.inr rfl
  | ok check => exact Or.inl ⟨check, rfl, rfl⟩

/-- A check that is there after a registration was there before, or it is new and has a dictionary. -/
theorem after_register_checks {engine : CheckEngine μ} {d : CheckDefinition μ} {i : Nat} {check : Check μ}
    (h : (engine.after (.register d)).checks[i]? = some check) :
    engine.checks[i]? = some check ∨ (engine.checks.length ≤ i ∧ check.state.isDict = true) := by
  rcases after_register engine d with ⟨new, hnew, hafter⟩ | hafter
  · rw [hafter, List.getElem?_append] at h
    split at h
    · exact Or.inl h
    · next hnot =>
      have hcheck : check = new := by simpa using List.mem_of_getElem? h
      exact Or.inr ⟨Nat.le_of_not_lt hnot, hcheck ▸ validate_isDict hnew⟩
  · exact Or.inl (hafter ▸ h)

theorem after_run_checks (engine : CheckEngine μ) (index : Nat) (request : Tree) (response : Option Tree)
    (callDeadline : Nat) (w : World μ) (i : Nat) :
    (engine.after (.run index request response callDeadline w)).checks[i]? =
      if index = i then
        (engine.checks[i]?).map fun check =>
          (runCheck engine.limits check request response callDeadline w).2.1
      else engine.checks[i]? := by
  simp only [after, run]
  cases hcheck : engine.checks[index]? with
  | none =>
    by_cases hi : index = i
    · subst hi
      simp [hcheck]
    · simp [hi]
  | some check =>
    simp only [List.getElem?_set]
    by_cases hi : index = i
    · subst hi
      obtain ⟨hlt, hget⟩ := List.getElem?_eq_some_iff.1 hcheck
      simp [hlt, hget]
    · simp [hi]

theorem after_limits (engine : CheckEngine μ) (call : EngineCall μ) :
    (engine.after call).limits = engine.limits := by
  cases call with
  | register d =>
    rcases after_register engine d with ⟨check, -, h⟩ | h <;> rw [h]
  | run index request response callDeadline w =>
    simp only [after, run]
    cases engine.checks[index]? <;> rfl

section
variable (filter : TagFilter) (limits : CheckLimits)

@[simp]
theorem reached_limits (history : List (EngineCall μ)) : (reached filter limits history).limits = limits := by
  induction history with
  | nil => rfl
  | cons call earlier ih => rw [reached, after_limits, ih]

/-- Only a check that is there can have been run. -/
theorem lt_of_spoiled {history : List (EngineCall μ)} {i : Nat} (h : Spoiled filter limits history i) :
    i < (reached filter limits history).checks.length := by
  induction history with
  | nil => exact absurd h (by simp [Spoiled])
  | cons call earlier ih =>
    cases call with
    | register d =>
      have hearlier := ih h
      rw [reached]
      rcases after_register (reached filter limits earlier) d with ⟨check, -, hafter⟩ | hafter
      · rw [hafter, List.length_append]
        omega
      · rwa [hafter]
    | run index request response callDeadline w =>
      have hthere : (reached filter limits earlier).checks[i]? ≠ none := by
        rw [Spoiled] at h
        split at h
        · obtain ⟨check, hcheck, -⟩ := h
          simp [hcheck]
        · simpa using ih h
      rw [reached, ← Nat.not_le, ← List.getElem?_eq_none_iff, after_run_checks]
      split
      · simpa using hthere
      · simpa using hthere

/-- A run before the request works on an empty dictionary of its own. -/
theorem before_isDict {history : List (EngineCall μ)} {i : Nat} {check : Check μ}
    (hcheck : (reached filter limits history).checks[i]? = some check) (hkind : check.kind = .beforeRequest) :
    check.state.isDict = true := by
  induction history generalizing i check with
  | nil => simp [reached] at hcheck
  | cons call earlier ih =>
    rw [reached] at hcheck
    cases call with
    | register d =>
      rcases after_register_checks hcheck with hold | ⟨-, hnew⟩
      · exact ih hold hkind
      · exact hnew
    | run index request response callDeadline w =>
      rw [after_run_checks] at hcheck
      split at hcheck
      · obtain ⟨old, hold, rfl⟩ := Option.map_eq_some_iff.1 hcheck
        rw [runCheck_kind] at hkind
        -- its live state is the one from before the run
        rw [runCheck_check, hkind]
        exact ih hold hkind
      · exact ih hcheck hkind

/-- **The live state of a check is a dictionary unless its latest run spoiled it.** The history is any
sequence of registrations and runs, and the hooks are any programs, which may remember anything. -/
theorem live_state_isDict_iff {history : List (EngineCall μ)} {i : Nat} {check : Check μ}
    (hcheck : (reached filter limits history).checks[i]? = some check) :
    check.state.isDict = true ↔ ¬ Spoiled filter limits history i := by
  induction history generalizing i check with
  | nil => simp [reached] at hcheck
  | cons call earlier ih =>
    rw [reached] at hcheck
    cases call with
    | register d =>
      rw [Spoiled]
      rcases after_register_checks hcheck with hold | ⟨hnew, hdict⟩
      · exact ih hold
      · -- the check is new, and no earlier run was one of its runs
        have hfresh : ¬ Spoiled filter limits earlier i :=
          fun h => Nat.not_lt.2 hnew (lt_of_spoiled filter limits h)
        simp [hdict, hfresh]
    | run index request response callDeadline w =>
      rw [after_run_checks] at hcheck
      rw [Spoiled]
      split at hcheck
      · next hindex =>
        obtain ⟨old, hold, rfl⟩ := Option.map_eq_some_iff.1 hcheck
        -- only this run decides, whatever the state was before it
        rw [if_pos hindex, runCheck_isDict_iff _ _ _ _ _ _ (before_isDict filter limits hold)]
        simp [hold]
      · next hindex =>
        rw [if_neg hindex]
        exact ih hcheck

end

/-! ## A state that is spoiled -/

/-- A hook that replaces a dictionary by `null` and then fails. -/
def carelessHook : HookProgram Unit :=
  .state (fun _ => .null) fun
    | .ok tree => if tree.isDict then .fail (.script "boom") else .done
    | .error e => .fail e

/-- A careless check is registered and then runs, the latest call first. -/
def carelessHistory : List (EngineCall Unit) :=
  [.run 0 .emptyDict none 1000 { outside := () },
    .register { name := "a", after := some { program := fun _ => carelessHook } }]

/-- A run that fails leaves `null` behind for the next one. -/
theorem careless_run_leaves_no_dict :
    (reached ⟨.empty, .empty⟩ {} carelessHistory).checks.map (·.state.isDict) = [false] := by
  decide +kernel

/-- The same run as `live_state_isDict_iff` sees it. -/
theorem careless_run_spoiled :
    ∃ check, (reached ⟨.empty, .empty⟩ {} carelessHistory).checks[0]? = some check ∧
      check.state.isDict = false ∧ Spoiled ⟨.empty, .empty⟩ {} carelessHistory 0 := by
  have hleft : ((reached ⟨.empty, .empty⟩ {} carelessHistory).checks[0]?).map (·.state.isDict) =
      some false := by decide +kernel
  obtain ⟨check, hcheck, hstate⟩ := Option.map_eq_some_iff.1 hleft
  have hiff := live_state_isDict_iff _ _ hcheck
  rw [hstate] at hiff
  exact ⟨check, hcheck, hstate, by simpa using hiff⟩

end CheckEngine

end FuzzCampaign
