import FuzzCampaign.Proofs.Check.AccessOrder
import FuzzCampaign.Proofs.Check.LiveState
set_option autoImplicit false

/-! # The state of a check is its own

Runs of other checks are no concern of a check. `isolated_of_keptEmpty` says so for every sequence of runs: each run
of the check begins with the state that its previous run left, and the runs of an engine that has no other check,
which observe the same interruptions, have the same outcomes and leave the same states. What a hook remembers outside
is shared by all hooks, so that it has to remember the same in both. -/

namespace FuzzCampaign

variable {μ : Type}

/-! ## Two runs of a hook that differ in their deadline -/

namespace HookContext

/-- The same context with another deadline. -/
def dueAt (ctx : HookContext) (deadline : Nat) : HookContext := { ctx with limits := { ctx.limits with deadline } }

theorem grant_dueAt (ctx : HookContext) (call : AccessCall) (deadline : Nat) :
    (ctx.dueAt deadline).grant call = ((ctx.grant call).1, (ctx.grant call).2.dueAt deadline) := by
  cases call with
  | setState value => cases hdict : value.isDict <;> simp [grant, dueAt, hdict]
  | step | request | response | state | assertThat => rfl

/-- An access that is granted alike is answered alike. -/
theorem ask_dueAt {ctx : HookContext} (call : AccessCall) {deadline : Nat} {w₁ w₂ : World μ}
    (hgranted : ((ctx.dueAt deadline).step w₂).1 = (ctx.step w₁).1) :
    ((ctx.dueAt deadline).ask call w₂).1 = (ctx.ask call w₁).1 ∧
      ((ctx.dueAt deadline).ask call w₂).2.1 = (ctx.ask call w₁).2.1.dueAt deadline := by
  cases hstep : (ctx.step w₁).1 with
  | error e =>
    rw [ask_refused hstep, ask_refused (hgranted.trans hstep)]
    exact ⟨rfl, rfl⟩
  | ok u =>
    obtain ⟨hanswer, hcontext⟩ := Prod.ext_iff.1 (grant_dueAt ctx.stepped call deadline)
    rw [ask_granted hstep, ask_granted (hgranted.trans hstep)]
    exact ⟨hanswer, hcontext⟩

end HookContext

/-- A hook that observes the same interruptions does the same, whatever its deadline is. -/
theorem HookProgram.run_dueAt (program : HookProgram μ) (ctx : HookContext) (deadline : Nat) (w₁ w₂ : World μ)
    (hinterrupted : InterruptedAlike (program.accesses ctx w₁) (program.accesses (ctx.dueAt deadline) w₂)) :
    (program.run (ctx.dueAt deadline) w₂).1 = (program.run ctx w₁).1 ∧
      (program.run (ctx.dueAt deadline) w₂).2.1 = (program.run ctx w₁).2.1.dueAt deadline := by
  induction program using moveInduction generalizing ctx w₁ w₂ with
  | ends program result hmove =>
    rw [(run_ends _ _ hmove).1, (run_ends _ _ hmove).1]
    exact ⟨rfl, rfl⟩
  | does program act next hmove ih =>
    obtain ⟨hrun₁, haccesses₁⟩ := run_does ctx w₁ hmove
    obtain ⟨hrun₂, haccesses₂⟩ := run_does (ctx.dueAt deadline) w₂ hmove
    have hafter : act.after (ctx.dueAt deadline) = (act.after ctx).dueAt deadline := by cases act <;> rfl
    rw [haccesses₁, haccesses₂, hafter] at hinterrupted
    rw [hrun₁, hrun₂, hafter]
    exact ih _ _ _ hinterrupted
  | asks program call further hmove ih =>
    obtain ⟨hrun₁, haccesses₁⟩ := run_asks ctx w₁ hmove
    obtain ⟨hrun₂, haccesses₂⟩ := run_asks (ctx.dueAt deadline) w₂ hmove
    rw [haccesses₁, haccesses₂] at hinterrupted
    obtain ⟨hgranted, hinterrupted⟩ := interruptedAlike_cons.1 hinterrupted
    obtain ⟨hanswer, hcontext⟩ := HookContext.ask_dueAt call hgranted.symm
    rw [hanswer, hcontext] at hinterrupted
    rw [hrun₁, hrun₂, hanswer, hcontext]
    exact ih _ _ _ _ hinterrupted

/-! ## Runs of an engine -/

/-- An outcome without the time spent. -/
def Outcome.untimed (o : Outcome) : Outcome := { o with elapsed := 0 }

/-- A run that is asked for: the position of a check, the call, and the surroundings of the run. -/
structure CheckRun (μ : Type) where
  index : Nat
  request : Tree
  response : Option Tree
  callDeadline : Nat
  world : World μ

/-- The run as a call to the engine. -/
def CheckRun.call (r : CheckRun μ) : EngineCall μ := .run r.index r.request r.response r.callDeadline r.world

/-- One run of a check. -/
structure CheckPass where
  /-- The state that it begins with. -/
  found : Option Tree
  /-- Its outcome, without the time spent. -/
  outcome : Option Outcome
  /-- The live state that it leaves. -/
  left : Option Tree

namespace CheckEngine

/-- The engine after runs. -/
def afterRuns (engine : CheckEngine μ) (runs : List (CheckRun μ)) : CheckEngine μ :=
  runs.foldl (fun engine r => engine.after r.call) engine

/-- The live state of the check at a position. -/
def live (engine : CheckEngine μ) (k : Nat) : Option Tree := (engine.checks[k]?).map Check.state

/-- The outcome of a run. -/
def outcome? (engine : CheckEngine μ) (r : CheckRun μ) : Option Outcome :=
  (engine.run r.index r.request r.response r.callDeadline r.world).toOption.map Prod.fst

/-- What a run asks for and is answered. -/
def observed (engine : CheckEngine μ) (r : CheckRun μ) : List Access :=
  match engine.checks[r.index]? with
  | some check => hookAccesses engine.limits check r.request r.response r.callDeadline r.world.look
  | none => []

/-- What the hook of a run does, by what it remembers. -/
def hookOf (engine : CheckEngine μ) (r : CheckRun μ) : Option (HookProgram μ) :=
  (engine.checks[r.index]?).map fun check => check.program r.world.outside

/-- Among these runs those of the check at a position. -/
def passes (k : Nat) : CheckEngine μ → List (CheckRun μ) → List CheckPass
  | _, [] => []
  | engine, r :: runs =>
    (if r.index = k then
      [⟨(engine.checks[k]?).map startingState, (engine.outcome? r).map Outcome.untimed,
        (engine.after r.call).live k⟩]
    else []) ++ passes k (engine.after r.call) runs

/-- Each run begins with what the one before left, the first one with this state. -/
def Continues : Option Tree → List CheckPass → Prop
  | _, [] => True
  | state, pass :: rest => pass.found = state ∧ Continues pass.left rest

/-- The engine with no other check than this one. -/
def alone (engine : CheckEngine μ) (check : Check μ) : CheckEngine μ := { engine with checks := [check] }

/-- The runs `solo` of an engine that has no other check are those of the check at `k` among `runs`: for the same
calls, the hook remembers nothing else, and they observe the same interruptions, though their surroundings may be
others. -/
inductive ObservedAlike (k : Nat) : CheckEngine μ → List (CheckRun μ) → CheckEngine μ → List (CheckRun μ) → Prop where
  | nil {engine lone : CheckEngine μ} : ObservedAlike k engine [] lone []
  | other {engine lone : CheckEngine μ} {r : CheckRun μ} {runs solo : List (CheckRun μ)} : r.index ≠ k →
      ObservedAlike k (engine.after r.call) runs lone solo → ObservedAlike k engine (r :: runs) lone solo
  | own {engine lone : CheckEngine μ} {r r' : CheckRun μ} {runs solo : List (CheckRun μ)} : r.index = k → r'.index = 0 →
      r'.request = r.request → r'.response = r.response → lone.hookOf r' = engine.hookOf r →
      InterruptedAlike (engine.observed r) (lone.observed r') →
      ObservedAlike k (engine.after r.call) runs (lone.after r'.call) solo →
      ObservedAlike k engine (r :: runs) lone (r' :: solo)

/-- The runs of the check at `k`, as runs of the only check. -/
def ownRuns (k : Nat) (runs : List (CheckRun μ)) : List (CheckRun μ) :=
  (runs.filter (·.index = k)).map fun r => { r with index := 0 }

/-- A check before the request has an empty dictionary. -/
def KeptEmpty (check : Check μ) : Prop := check.kind = .beforeRequest → check.state = .emptyDict

/-- The check at `k` is isolated from the others. -/
structure Isolated (engine : CheckEngine μ) (k : Nat) (check : Check μ) : Prop where
  /-- Each of its runs begins with the state that the one before left. -/
  continues : ∀ runs, Continues (some check.state) (engine.passes k runs)
  /-- It runs as if it were the only check, -/
  alone : ∀ runs solo, ObservedAlike k engine runs (engine.alone check) solo →
    engine.passes k runs = (engine.alone check).passes 0 solo ∧
      (engine.afterRuns runs).live k = ((engine.alone check).afterRuns solo).live 0
  /-- and in particular when its own runs are made in the same surroundings. -/
  sameSurroundings : ∀ runs, ObservedAlike k engine runs (engine.alone check) (ownRuns k runs)
  /-- A check before the request keeps an empty dictionary. -/
  before : check.kind = .beforeRequest → ∀ runs, (engine.afterRuns runs).live k = some .emptyDict

/-! ## One run -/

/-- Two runs of a check for the same call, whose hook remembers the same and observes the same interruptions, come to
the same. -/
theorem runCheck_alike (limits : CheckLimits) (check : Check μ) (request : Tree) (response : Option Tree)
    {callDeadline₁ callDeadline₂ : Nat} {w₁ w₂ : World μ} (hhook : check.program w₂.outside = check.program w₁.outside)
    (h : InterruptedAlike (hookAccesses limits check request response callDeadline₁ w₁.look)
      (hookAccesses limits check request response callDeadline₂ w₂.look)) :
    (runCheck limits check request response callDeadline₂ w₂).1.untimed =
        (runCheck limits check request response callDeadline₁ w₁).1.untimed ∧
      (runCheck limits check request response callDeadline₂ w₂).2.1 =
        (runCheck limits check request response callDeadline₁ w₁).2.1 := by
  have hend : (runHook limits check request response callDeadline₂ w₂.look).1 =
        (runHook limits check request response callDeadline₁ w₁.look).1 ∧
      (runHook limits check request response callDeadline₂ w₂.look).2.1 =
        (runHook limits check request response callDeadline₁ w₁.look).2.1.dueAt
          (min callDeadline₂ (w₂.look.clock + limits.checkTimeout)) := by
    unfold runHook hookAccesses at *
    rw [World.outside_look, World.outside_look, hhook] at *
    exact HookProgram.run_dueAt _ (startingContext limits check request response callDeadline₁ w₁.look.clock)
      (min callDeadline₂ (w₂.look.clock + limits.checkTimeout)) w₁.look w₂.look h
  simp only [runCheck, hend]
  exact ⟨rfl, rfl⟩

section
variable {engine : CheckEngine μ} {k : Nat} {check : Check μ} {r : CheckRun μ}

theorem outcome?_eq (hcheck : engine.checks[r.index]? = some check) :
    engine.outcome? r =
      some (runCheck engine.limits check r.request r.response r.callDeadline r.world).1 := by
  simp only [outcome?, run, hcheck]
  rfl

/-- The run of another check changes nothing of this one. -/
theorem checks_after_other (h : r.index ≠ k) : (engine.after r.call).checks[k]? = engine.checks[k]? := by
  rw [CheckRun.call, after_run_checks, if_neg h]

theorem checks_after_own (hcheck : engine.checks[k]? = some check) (h : r.index = k) :
    (engine.after r.call).checks[k]? =
      some (runCheck engine.limits check r.request r.response r.callDeadline r.world).2.1 := by
  rw [CheckRun.call, after_run_checks, if_pos h, hcheck, Option.map_some]

theorem KeptEmpty.startingState (h : KeptEmpty check) : CheckEngine.startingState check = check.state := by
  unfold CheckEngine.startingState
  split
  · next hkind => rw [h hkind]
  · rfl

theorem KeptEmpty.runCheck (h : KeptEmpty check) (limits : CheckLimits) (request : Tree) (response : Option Tree)
    (callDeadline : Nat) (w : World μ) :
    KeptEmpty (CheckEngine.runCheck limits check request response callDeadline w).2.1 := by
  intro hkind
  rw [runCheck_kind] at hkind
  rw [runCheck_check, hkind]
  exact h hkind

/-- An own run comes to the same in an engine that has no other check. -/
theorem own_alike {lone : CheckEngine μ} {r' : CheckRun μ} (hcheck : engine.checks[k]? = some check)
    (hlone : lone.checks[0]? = some check) (hlimits : lone.limits = engine.limits) (hindex : r.index = k)
    (hindex' : r'.index = 0) (hrequest : r'.request = r.request) (hresponse : r'.response = r.response)
    (hhook : lone.hookOf r' = engine.hookOf r) (h : InterruptedAlike (engine.observed r) (lone.observed r')) :
    (lone.outcome? r').map Outcome.untimed = (engine.outcome? r).map Outcome.untimed ∧
      (lone.after r'.call).checks[0]? = (engine.after r.call).checks[k]? := by
  have hcheck' : engine.checks[r.index]? = some check := hindex ▸ hcheck
  have hlone' : lone.checks[r'.index]? = some check := hindex' ▸ hlone
  simp only [observed, hcheck', hlone', hlimits, hrequest, hresponse] at h
  simp only [hookOf, hcheck', hlone', Option.map_some, Option.some.injEq] at hhook
  obtain ⟨houtcome, hleft⟩ := runCheck_alike engine.limits check r.request r.response hhook h
  rw [outcome?_eq hcheck', outcome?_eq hlone', checks_after_own hcheck hindex, checks_after_own hlone hindex', hlimits,
    hrequest, hresponse, hleft, Option.map_some, Option.map_some, houtcome]
  exact ⟨rfl, rfl⟩

end

/-! ## Sequences of runs -/

section
variable {engine lone : CheckEngine μ} {k : Nat} {check : Check μ} {runs solo : List (CheckRun μ)}

/-- The check that a run leaves at a position where there is one. -/
theorem exists_after (hcheck : engine.checks[k]? = some check) (r : CheckRun μ) :
    ∃ check', (engine.after r.call).checks[k]? = some check' ∧ check'.kind = check.kind ∧
      (KeptEmpty check → KeptEmpty check') := by
  by_cases hindex : r.index = k
  · exact ⟨_, checks_after_own hcheck hindex, runCheck_kind _ _ _ _ _ _, fun h => h.runCheck _ _ _ _ _⟩
  · exact ⟨check, (checks_after_other hindex).trans hcheck, rfl, id⟩

theorem ObservedAlike.passes_eq (h : ObservedAlike k engine runs lone solo) (hcheck : engine.checks[k]? = some check)
    (hlone : lone.checks[0]? = some check) (hlimits : lone.limits = engine.limits) :
    engine.passes k runs = lone.passes 0 solo ∧ (engine.afterRuns runs).live k = (lone.afterRuns solo).live 0 := by
  induction h generalizing check with
  | nil => exact ⟨rfl, by simp only [afterRuns, List.foldl_nil, live, hcheck, hlone]⟩
  | @other engine lone r runs solo hindex _ ih =>
    -- a run of another check has no counterpart, and leaves the check as it is
    rw [passes, if_neg hindex, List.nil_append]
    exact ih ((checks_after_other hindex).trans hcheck) hlone (by rw [hlimits, after_limits])
  | @own engine lone r r' runs solo hindex hindex' hrequest hresponse hhook hobserved _ ih =>
    -- an own run leaves the same check in both engines, so both go on alike
    obtain ⟨houtcome, hafter⟩ :=
      own_alike hcheck hlone hlimits hindex hindex' hrequest hresponse hhook hobserved
    obtain ⟨left, hleft, -, -⟩ := exists_after hcheck r
    obtain ⟨hpasses, hlive⟩ := ih hleft (hafter.trans hleft) (by rw [after_limits, after_limits, hlimits])
    refine ⟨?_, hlive⟩
    rw [passes, passes, if_pos hindex, if_pos hindex', hpasses, houtcome, hcheck, hlone, live, live, hafter]

theorem interruptedAlike_refl (run : List Access) : InterruptedAlike run run := by
  induction run with
  | nil => simp [InterruptedAlike]
  | cons a run ih => exact interruptedAlike_cons.2 ⟨rfl, ih⟩

/-- In the same surroundings the same is observed. -/
theorem observedAlike_ownRuns (runs : List (CheckRun μ)) (hcheck : engine.checks[k]? = some check)
    (hlone : lone.checks[0]? = some check) (hlimits : lone.limits = engine.limits) :
    ObservedAlike k engine runs lone (ownRuns k runs) := by
  induction runs generalizing engine lone check with
  | nil => exact .nil
  | cons r runs ih =>
    by_cases hindex : r.index = k
    · have hzero : ({ r with index := 0 } : CheckRun μ).index = 0 := rfl
      have hobserved : InterruptedAlike (engine.observed r) (lone.observed { r with index := 0 }) := by
        simp only [observed, hindex, hcheck, hlone, hlimits]
        exact interruptedAlike_refl _
      have hhook : lone.hookOf { r with index := 0 } = engine.hookOf r := by
        simp only [hookOf, hindex, hcheck, hlone]
      obtain ⟨left, hleft, -, -⟩ := exists_after hcheck r
      have hafter := (own_alike hcheck hlone hlimits hindex hzero rfl rfl hhook hobserved).2
      rw [ownRuns, List.filter_cons_of_pos (by simpa using hindex), List.map_cons]
      exact .own hindex rfl rfl rfl hhook hobserved
        (ih hleft (hafter.trans hleft) (by rw [after_limits, after_limits, hlimits]))
    · rw [ownRuns, List.filter_cons_of_neg (by simpa using hindex)]
      exact .other hindex (ih ((checks_after_other hindex).trans hcheck) hlone (by rw [hlimits, after_limits]))

theorem continues_passes (runs : List (CheckRun μ)) (hcheck : engine.checks[k]? = some check)
    (hkept : KeptEmpty check) : Continues (some check.state) (engine.passes k runs) := by
  induction runs generalizing engine check with
  | nil => trivial
  | cons r runs ih =>
    obtain ⟨left, hleft, -, hkept'⟩ := exists_after hcheck r
    have hrest := ih hleft (hkept' hkept)
    rw [passes]
    by_cases hindex : r.index = k
    · rw [if_pos hindex, List.singleton_append]
      refine ⟨?_, ?_⟩
      · rw [hcheck, Option.map_some, hkept.startingState]
      · rwa [live, hleft, Option.map_some]
    · have hsame : check = left := by
        rw [checks_after_other hindex, hcheck] at hleft
        exact Option.some.inj hleft
      rw [if_neg hindex, List.nil_append, hsame]
      exact hrest

theorem live_before (runs : List (CheckRun μ)) (hcheck : engine.checks[k]? = some check) (hkept : KeptEmpty check)
    (hkind : check.kind = .beforeRequest) : (engine.afterRuns runs).live k = some .emptyDict := by
  induction runs generalizing engine check with
  | nil => rw [afterRuns, List.foldl_nil, live, hcheck, Option.map_some, hkept hkind]
  | cons r runs ih =>
    obtain ⟨left, hleft, hsame, hkept'⟩ := exists_after hcheck r
    exact ih hleft (hkept' hkept) (hsame.trans hkind)

/-- A check is isolated when it has an empty dictionary, in case that it runs before the request. -/
theorem isolated_of_keptEmpty (hcheck : engine.checks[k]? = some check) (hkept : KeptEmpty check) :
    Isolated engine k check where
  continues runs := continues_passes runs hcheck hkept
  alone _ _ h := h.passes_eq hcheck rfl rfl
  sameSurroundings runs := observedAlike_ownRuns runs hcheck rfl rfl
  before hkind runs := live_before runs hcheck hkept hkind

end

/-! ## Reachable engines -/

/-- In every engine that can be reached. -/
theorem keptEmpty_reached (filter : TagFilter) (limits : CheckLimits) {calls : List (EngineCall μ)} {k : Nat}
    {check : Check μ} (hcheck : (reached filter limits calls).checks[k]? = some check) : KeptEmpty check := by
  induction calls generalizing k check with
  | nil => simp [reached] at hcheck
  | cons call earlier ih =>
    rw [reached] at hcheck
    cases call with
    | register d =>
      rcases after_register (reached filter limits earlier) d with ⟨new, hnew, hafter⟩ | hafter
      · rw [hafter] at hcheck
        rcases List.mem_append.1 (List.mem_of_getElem? hcheck) with hold | hmem
        · obtain ⟨i, hi⟩ := List.getElem?_of_mem hold
          exact ih hi
        · obtain rfl : check = new := List.mem_singleton.1 hmem
          have hstate := (validate_eq_ok_iff.1 hnew).state
          intro hkind
          rw [hkind] at hstate
          exact (initialState_before_iff.1 hstate).2
      · exact ih (hafter ▸ hcheck)
    | run index request response callDeadline w =>
      rw [after_run_checks] at hcheck
      split at hcheck
      · obtain ⟨old, hold, rfl⟩ := Option.map_eq_some_iff.1 hcheck
        exact (ih hold).runCheck _ _ _ _ _
      · exact ih hcheck

end CheckEngine

end FuzzCampaign
