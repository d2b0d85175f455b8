import FuzzCampaign.Check.Engine
import FuzzCampaign.Proofs.World
set_option autoImplicit false

/-! # One run of a check

A run queues nothing, whatever its hook does, its outcome carries the name and the origin of its check,
and it changes nothing of the engine but the live state of that check. -/

namespace FuzzCampaign

open World (Queued queued_look queued_nudge queued_printLines queued_remember)

variable {μ : Type}

/-! ## Hooks queue nothing -/

namespace HookContext

theorem queued_step (ctx : HookContext) (w : World μ) : Queued w [] (ctx.step w).2.2 := by
  unfold step
  dsimp only
  split
  · exact Queued.refl w
  · split
    · exact queued_look w
    · split
      · exact queued_look w
      · exact queued_look w

/-- An access that goes on after a step leaves the surroundings as the step left them. -/
theorem queued_access (ctx : HookContext) (w : World μ) :
    Queued w [] (ctx.readRequest w).2.2 ∧ Queued w [] (ctx.readResponse w).2.2 ∧
      (∀ change, Queued w [] (ctx.takeState change w).2.2) ∧
      (∀ value, Queued w [] (ctx.replaceState value w).2.2) ∧
      (∀ condition message, Queued w [] (ctx.assertThat condition message w).2.2) := by
  have hstep := queued_step ctx w
  unfold readRequest readResponse takeState replaceState assertThat
  generalize ctx.step w = stepped at hstep
  obtain ⟨answer, ctx', w'⟩ := stepped
  cases answer with
  | error e => exact ⟨hstep, hstep, fun _ => hstep, fun _ => hstep, fun _ _ => hstep⟩
  | ok u =>
    refine ⟨hstep, hstep, fun _ => hstep, fun value => ?_, fun _ _ => hstep⟩
    dsimp only
    split
    · exact hstep
    · exact hstep

end HookContext

/-- A hook queues nothing, whatever it does. -/
theorem HookProgram.queued_run (program : HookProgram μ) (ctx : HookContext) (w : World μ) :
    Queued w [] (program.run ctx w).2.2 := by
  induction program generalizing ctx w with
  | done | fail | panic => exact Queued.refl w
  | step next ih => exact (ctx.queued_step w).after (ih _ _ _)
  | request next ih => exact (ctx.queued_access w).1.after (ih _ _ _)
  | response next ih => exact (ctx.queued_access w).2.1.after (ih _ _ _)
  | state change next ih => exact ((ctx.queued_access w).2.2.1 change).after (ih _ _ _)
  | setState value next ih => exact ((ctx.queued_access w).2.2.2.1 value).after (ih _ _ _)
  | assertThat condition message next ih =>
    exact ((ctx.queued_access w).2.2.2.2 condition message).after (ih _ _ _)
  | print line next ih => exact ih _ _
  | act nudge next ih => exact (queued_nudge w nudge).after (ih _ _)
  | remember memory next ih => exact (queued_remember w memory).after (ih _ _)

namespace CheckEngine

/-! ## One run -/

section
variable (limits : CheckLimits) (check : Check μ) (request : Tree) (response : Option Tree)
  (callDeadline : Nat) (w : World μ)

theorem queued_runCheck : Queued w [] (runCheck limits check request response callDeadline w).2.2 := by
  have hhook : Queued w.look [] (runHook limits check request response callDeadline w.look).2.2 :=
    HookProgram.queued_run _ _ _
  exact ((queued_look w).after hhook).after (queued_printLines _ _)

/-- What a run leaves of its check. -/
theorem runCheck_check :
    (runCheck limits check request response callDeadline w).2.1 =
      match check.kind with
      | .beforeRequest => check
      | .afterResponse => { check with
          state := (classify (startingState check).canonical.toOption
            (runHook limits check request response callDeadline w.look).1
            (runHook limits check request response callDeadline w.look).2.1.badAssignment
            (runHook limits check request response callDeadline w.look).2.1.state).state } := rfl

/-- A run changes no more than the live state of its check. -/
theorem runCheck_keeps :
    ∃ state, (runCheck limits check request response callDeadline w).2.1 = { check with state } := by
  rw [runCheck_check]
  split
  · exact ⟨check.state, rfl⟩
  · exact ⟨_, rfl⟩

theorem runCheck_kind : (runCheck limits check request response callDeadline w).2.1.kind = check.kind := by
  obtain ⟨state, hkeeps⟩ := runCheck_keeps limits check request response callDeadline w
  rw [hkeeps]

/-- Who an outcome is about. -/
theorem runCheck_outcome :
    (runCheck limits check request response callDeadline w).1.name = check.name ∧
      (runCheck limits check request response callDeadline w).1.origin = check.kind.origin ∧
      (runCheck limits check request response callDeadline w).1.userProperty = true := by
  obtain ⟨state, hkeeps⟩ := runCheck_keeps limits check request response callDeadline w
  have hname := congrArg Check.name hkeeps
  have horigin := congrArg HookKind.origin (runCheck_kind limits check request response callDeadline w)
  exact ⟨hname, horigin, rfl⟩

/-- A run that was given up failed. -/
theorem runCheck_abandoned (h : (runCheck limits check request response callDeadline w).1.abandoned = true) :
    (runCheck limits check request response callDeadline w).1.isFailure = true := by
  have hclassify : ∀ (before : Option String) (result : Except HookError Unit) (bad : Option String)
      (state : Tree), (classify before result bad state).abandoned = true →
      (classify before result bad state).status = .failure := by
    intro before result bad state habandoned
    unfold classify at *
    repeat' split at habandoned
    all_goals simp_all
  simp only [Outcome.isFailure, beq_iff_eq]
  exact hclassify _ _ _ _ h

end

/-! ## The engine after a run -/

/-- What a run never changes of a check. -/
def fixed (check : Check μ) : String × HookKind × StringSet := (check.name, check.kind, check.tags)

/-- Two engines whose checks differ in their live states only. -/
structure Alike (engine engine' : CheckEngine μ) : Prop where
  filter : engine'.filter = engine.filter
  checks : engine'.checks.map fixed = engine.checks.map fixed

theorem Alike.refl (engine : CheckEngine μ) : Alike engine engine := ⟨rfl, rfl⟩

theorem Alike.trans {e e' e'' : CheckEngine μ} (h : Alike e e') (h' : Alike e' e'') : Alike e e'' :=
  ⟨h'.filter.trans h.filter, h'.checks.trans h.checks⟩

theorem Alike.check {engine engine' : CheckEngine μ} (h : Alike engine engine') (i : Nat) :
    (engine'.checks[i]?).map fixed = (engine.checks[i]?).map fixed := by
  rw [← List.getElem?_map, ← List.getElem?_map, h.checks]

theorem Alike.name? {engine engine' : CheckEngine μ} (h : Alike engine engine') (i : Nat) :
    engine'.name? i = engine.name? i := by
  have hfixed := congrArg (Option.map Prod.fst) (h.check i)
  simpa [CheckEngine.name?, fixed, Function.comp_def] using hfixed

theorem Alike.active {engine engine' : CheckEngine μ} (h : Alike engine engine') (kind : HookKind) :
    engine'.active kind = engine.active kind := by
  have hlength : engine'.checks.length = engine.checks.length := by
    simpa using congrArg List.length h.checks
  unfold CheckEngine.active
  rw [hlength]
  congr 1
  funext i
  have hfixed := h.check i
  rw [h.filter]
  cases hnew : engine'.checks[i]? with
  | none =>
    cases hold : engine.checks[i]? with
    | none => rfl
    | some old => simp [hnew, hold] at hfixed
  | some new =>
    cases hold : engine.checks[i]? with
    | none => simp [hnew, hold] at hfixed
    | some old =>
      obtain ⟨-, hkind, htags⟩ : new.name = old.name ∧ new.kind = old.kind ∧ new.tags = old.tags := by
        simpa [hnew, hold, fixed] using hfixed
      simp only [hkind, htags]

theorem Alike.of_kind {engine engine' : CheckEngine μ} (h : Alike engine engine') {i : Nat} {check : Check μ}
    (hcheck : engine.checks[i]? = some check) {kind : HookKind} (hkind : check.kind = kind) :
    ∃ check', engine'.checks[i]? = some check' ∧ check'.kind = kind := by
  have hfixed := h.check i
  rw [hcheck, Option.map_some] at hfixed
  obtain ⟨check', hcheck', hsame⟩ := Option.map_eq_some_iff.1 hfixed
  exact ⟨check', hcheck', (congrArg (·.2.1) hsame).trans hkind⟩

/-- The positions of active checks are those of checks of the kind. -/
theorem mem_active {engine : CheckEngine μ} {kind : HookKind} {i : Nat} (h : i ∈ engine.active kind) :
    ∃ check, engine.checks[i]? = some check ∧ check.kind = kind := by
  have hactive := (List.mem_filter.1 h).2
  cases hcheck : engine.checks[i]? with
  | none => simp [hcheck] at hactive
  | some check =>
    rw [hcheck] at hactive
    simp only [Bool.and_eq_true, beq_iff_eq] at hactive
    exact ⟨check, rfl, hactive.1⟩

/-- The run of a check that is there: it queues nothing, its outcome is about this check, and the engine
stays the same but for live states. -/
theorem run_spec {engine : CheckEngine μ} {i : Nat} {check : Check μ} (hcheck : engine.checks[i]? = some check)
    (request : Tree) (response : Option Tree) (callDeadline : Nat) (w : World μ) :
    ∃ outcome engine' w', engine.run i request response callDeadline w = .ok (outcome, engine', w') ∧
      Queued w [] w' ∧ Alike engine engine' ∧
      outcome.name = check.name ∧ outcome.origin = check.kind.origin ∧ outcome.userProperty = true ∧
      (outcome.abandoned = true → outcome.isFailure = true) := by
  obtain ⟨state, hkeeps⟩ := runCheck_keeps engine.limits check request response callDeadline w
  obtain ⟨hname, horigin, huser⟩ := runCheck_outcome engine.limits check request response callDeadline w
  have hset : (engine.checks.set i { check with state }).map fixed = engine.checks.map fixed := by
    obtain ⟨hlt, rfl⟩ := List.getElem?_eq_some_iff.1 hcheck
    have hlt' : i < (engine.checks.map fixed).length := by simpa using hlt
    have hsame : fixed { engine.checks[i] with state } = (engine.checks.map fixed)[i] := by simp [fixed]
    rw [List.map_set, hsame, List.set_getElem_self]
  refine ⟨(runCheck engine.limits check request response callDeadline w).1,
    { engine with checks := engine.checks.set i { check with state } },
    (runCheck engine.limits check request response callDeadline w).2.2, ?_,
    queued_runCheck _ _ _ _ _ _, ⟨rfl, hset⟩, hname, horigin, huser, runCheck_abandoned _ _ _ _ _ _⟩
  simp only [run, hcheck, ← hkeeps]

/-- What a run did that was made. -/
theorem of_run {engine engine' : CheckEngine μ} {i : Nat} {request : Tree} {response : Option Tree} {callDeadline : Nat}
    {w w' : World μ} {outcome : Outcome}
    (hrun : engine.run i request response callDeadline w = .ok (outcome, engine', w')) :
    ∃ check, engine.checks[i]? = some check ∧
      w' = (runCheck engine.limits check request response callDeadline w).2.2 ∧ Queued w [] w' ∧
      Alike engine engine' ∧ outcome.name = check.name ∧ outcome.origin = check.kind.origin ∧
      outcome.userProperty = true := by
  cases hcheck : engine.checks[i]? with
  | none => simp [run, hcheck] at hrun
  | some check =>
    have hworld : w' = (runCheck engine.limits check request response callDeadline w).2.2 := by
      simp only [run, hcheck] at hrun
      cases hrun
      rfl
    obtain ⟨_, _, _, hmade, hqueued, halike, hname, horigin, huser, -⟩ :=
      run_spec hcheck request response callDeadline w
    cases hrun.symm.trans hmade
    exact ⟨check, rfl, hworld, hqueued, halike, hname, horigin, huser⟩

end CheckEngine

end FuzzCampaign
