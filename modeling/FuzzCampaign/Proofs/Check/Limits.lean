import FuzzCampaign.Proofs.Check.Accesses
set_option autoImplicit false

/-! # The limits of a run

Every access of a hook counts as a step, and a step is refused when the budget is used up, when the session
is cancelled or when the deadline has passed, in this order. None of these conditions ever goes away, so a
hook that passes over the refusal gets nothing from any later access: `runs_within_limits` says so of every
moment of every run, whatever the hook does. -/

namespace FuzzCampaign

variable {μ : Type}

/-! ## Steps -/

namespace HookContext

section
variable {ctx : HookContext} {call : AccessCall} {w : World μ}

/-- An access counts as a step and leaves the limits alone. -/
theorem ask_counted :
    (ctx.ask call w).2.1.limits = ctx.limits ∧ (ctx.ask call w).2.1.steps = ctx.steps + 1 := by
  cases hstep : (ctx.step w).1 with
  | error e =>
    rw [ask_refused hstep]
    exact ⟨rfl, rfl⟩
  | ok u =>
    rw [ask_granted hstep]
    cases call with
    | setState value =>
      simp only [grant]
      split <;> exact ⟨rfl, rfl⟩
    | step | request | response | state | assertThat => exact ⟨rfl, rfl⟩

@[simp]
theorem limits_ask : (ctx.ask call w).2.1.limits = ctx.limits := ask_counted.1

@[simp]
theorem steps_ask : (ctx.ask call w).2.1.steps = ctx.steps + 1 := ask_counted.2

end

end HookContext

/-- A reason for which steps are refused. -/
def HookError.IsLimit : HookError → Prop
  | .stepBudgetExceeded _ | .cancelled | .deadlineExceeded => True
  | _ => False

/-- An access that was granted fails for other reasons only. -/
theorem HookContext.grant_not_limit {ctx : HookContext} {call : AccessCall} {e : HookError}
    (h : (ctx.grant call).1 = .error e) : ¬ e.IsLimit := by
  cases call with
  | step | state => cases h
  | request | response =>
    simp only [grant, frozen] at h
    repeat' split at h
    all_goals cases h
    all_goals exact id
  | setState value =>
    simp only [grant] at h
    split at h <;> cases h
    exact id
  | assertThat condition message =>
    simp only [grant] at h
    split at h <;> cases h
    exact id

/-- An access fails for such a reason exactly when its step is refused for it. -/
theorem HookContext.answer_eq_limit_iff {ctx : HookContext} {call : AccessCall} {w : World μ} {e : HookError}
    (hlimit : e.IsLimit) : (ctx.ask call w).1 = .error e ↔ (ctx.step w).1 = .error e := by
  cases hstep : (ctx.step w).1 with
  | error e' => rw [ask_refused hstep, Except.error.injEq, Except.error.injEq]
  | ok u =>
    rw [ask_granted hstep]
    exact iff_of_false (fun h => grant_not_limit h hlimit) nofun

/-! ## Moments -/

/-- A moment of a run: what the hook has still to do, its context and its surroundings. -/
structure HookMoment (μ : Type) where
  program : HookProgram μ
  context : HookContext
  world : World μ

namespace HookMoment

/-- The accesses from a moment on. -/
def accesses (m : HookMoment μ) : List Access := m.program.accesses m.context m.world

/-- How the run ends, what it leaves of the context, and the surroundings then. -/
def ending (m : HookMoment μ) : Except HookError Unit × HookContext × World μ := m.program.run m.context m.world

/-- The moment after something that the hook does without an answer. -/
def afterAct (m : HookMoment μ) (act : HookAct μ) (next : HookProgram μ) : HookMoment μ :=
  ⟨next, act.after m.context, act.during m.world⟩

/-- The moment after an access. -/
def afterAccess (m : HookMoment μ) (call : AccessCall) (further : Except HookError (Option Tree) → HookProgram μ) :
    HookMoment μ :=
  let asked := m.context.ask call m.world
  ⟨further asked.1, asked.2.1, asked.2.2⟩

section
variable (m : HookMoment μ)

theorem limits_afterAct (act : HookAct μ) (next : HookProgram μ) :
    (m.afterAct act next).context.limits = m.context.limits := by
  cases act <;> rfl

theorem steps_afterAct (act : HookAct μ) (next : HookProgram μ) :
    (m.afterAct act next).context.steps = m.context.steps := by
  cases act <;> rfl

variable (call : AccessCall) (further : Except HookError (Option Tree) → HookProgram μ)

theorem limits_afterAccess : (m.afterAccess call further).context.limits = m.context.limits := HookContext.limits_ask

theorem steps_afterAccess : (m.afterAccess call further).context.steps = m.context.steps + 1 := HookContext.steps_ask

theorem world_afterAccess : (m.afterAccess call further).world = (m.context.step m.world).2.2 := HookContext.ask_world

end

/-- From one moment a run comes to another and makes these accesses on its way. -/
inductive Leads : HookMoment μ → List Access → HookMoment μ → Prop where
  | here (m : HookMoment μ) : Leads m [] m
  | does {m m' : HookMoment μ} {made : List Access} {act : HookAct μ} {next : HookProgram μ} :
      m.program.move = .does act next → Leads (m.afterAct act next) made m' → Leads m made m'
  | asks {m m' : HookMoment μ} {made : List Access} {call : AccessCall}
      {further : Except HookError (Option Tree) → HookProgram μ} :
      m.program.move = .asks call further → Leads (m.afterAccess call further) made m' →
      Leads m (m.context.access call m.world :: made) m'

/-- The run is the one that goes on from each of its moments. -/
theorem Leads.accesses {m m' : HookMoment μ} {made : List Access} (h : m.Leads made m') :
    m.accesses = made ++ m'.accesses := by
  induction h with
  | here m => rfl
  | does hmove _ ih => exact (HookProgram.run_does _ _ hmove).2.trans ih
  | asks hmove _ ih => exact (HookProgram.run_asks _ _ hmove).2.trans (congrArg _ ih)

theorem Leads.ending {m m' : HookMoment μ} {made : List Access} (h : m.Leads made m') : m.ending = m'.ending := by
  induction h with
  | here m => rfl
  | does hmove _ ih => exact (HookProgram.run_does _ _ hmove).1.trans ih
  | asks hmove _ ih => exact (HookProgram.run_asks _ _ hmove).1.trans ih

/-- A condition that nothing a hook does makes go away. -/
structure Lasting (P : HookMoment μ → Prop) : Prop where
  act : ∀ m act next, P m → P (m.afterAct act next)
  access : ∀ m call further, P m → P (m.afterAccess call further)

theorem Lasting.and {P Q : HookMoment μ → Prop} (hp : Lasting P) (hq : Lasting Q) : Lasting fun m => P m ∧ Q m :=
  ⟨fun m act next h => ⟨hp.act m act next h.1, hq.act m act next h.2⟩,
    fun m call further h => ⟨hp.access m call further h.1, hq.access m call further h.2⟩⟩

theorem Leads.keeps {P : HookMoment μ → Prop} (hlasting : Lasting P) {m m' : HookMoment μ} {made : List Access}
    (h : m.Leads made m') (hm : P m) : P m' := by
  induction h with
  | here m => exact hm
  | does _ _ ih => exact ih (hlasting.act _ _ _ hm)
  | asks _ _ ih => exact ih (hlasting.access _ _ _ hm)

/-- A run counts its accesses. -/
theorem Leads.steps {m m' : HookMoment μ} {made : List Access} (h : m.Leads made m') :
    m'.context.steps = m.context.steps + made.length := by
  induction h with
  | here m => rfl
  | does _ _ ih => rw [ih, steps_afterAct]
  | asks _ _ ih =>
    rw [ih, steps_afterAccess, List.length_cons]
    omega

/-- What an access tells of its moment is true ever after, if it lasts. -/
theorem Leads.told {P : HookMoment μ → Prop} {Q : Access → Prop} (hlasting : Lasting P)
    (htold : ∀ m call, Q (m.context.access call m.world) → P m) {m m' : HookMoment μ} {made : List Access}
    (h : m.Leads made m') (hmade : ∃ a ∈ made, Q a) : P m' := by
  induction h with
  | here m =>
    obtain ⟨a, ha, -⟩ := hmade
    cases ha
  | does _ _ ih => exact ih hmade
  | @asks m m' made call further hmove hleads ih =>
    obtain ⟨a, ha, hq⟩ := hmade
    rcases List.mem_cons.1 ha with rfl | ha
    · exact hleads.keeps hlasting (hlasting.access m call further (htold m call hq))
    · exact ih ⟨a, ha, hq⟩

/-- Every access is made at some moment. -/
theorem exists_moment {program : HookProgram μ} {ctx : HookContext} {w : World μ} {made rest : List Access} {a : Access}
    (h : program.accesses ctx w = made ++ a :: rest) :
    ∃ m call further, Leads ⟨program, ctx, w⟩ made m ∧ m.program.move = .asks call further ∧
      a = m.context.access call m.world ∧ (m.afterAccess call further).accesses = rest := by
  induction program using HookProgram.moveInduction generalizing ctx w made with
  | ends program result hmove =>
    rw [(HookProgram.run_ends ctx w hmove).2] at h
    simp at h
  | does program act next hmove ih =>
    rw [(HookProgram.run_does ctx w hmove).2] at h
    obtain ⟨m, call, further, hleads, hm⟩ := ih h
    exact ⟨m, call, further, .does hmove hleads, hm⟩
  | asks program call further hmove ih =>
    rw [(HookProgram.run_asks ctx w hmove).2] at h
    cases made with
    | nil =>
      obtain ⟨hfirst, hrest⟩ := List.cons.inj h
      exact ⟨⟨program, ctx, w⟩, call, further, .here _, hmove, hfirst.symm, hrest⟩
    | cons first made =>
      obtain ⟨rfl, hrest⟩ := List.cons.inj h
      obtain ⟨m, call', further', hleads, hm⟩ := ih _ hrest
      exact ⟨m, call', further', .asks hmove hleads, hm⟩

/-! ## Limits that are reached -/

/-- The budget is used up. -/
def Spent (m : HookMoment μ) : Prop := m.context.limits.maxSteps ≤ m.context.steps

/-- The session is cancelled, by the time of the next look at the latest. -/
def Cancelled (m : HookMoment μ) : Prop := m.world.look.cancelled = true

/-- The deadline has passed, by the time of the next look at the latest. -/
def Late (m : HookMoment μ) : Prop := m.context.limits.deadline ≤ m.world.look.clock

/-- A step is refused for the first of the three reasons that applies. -/
theorem step_cases (m : HookMoment μ) :
    m.Spent ∧ (m.context.step m.world).1 = .error (.stepBudgetExceeded m.context.limits.maxSteps) ∨
      ¬ m.Spent ∧ m.Cancelled ∧ (m.context.step m.world).1 = .error .cancelled ∨
      ¬ m.Spent ∧ ¬ m.Cancelled ∧ m.Late ∧ (m.context.step m.world).1 = .error .deadlineExceeded ∨
      ¬ m.Spent ∧ ¬ m.Cancelled ∧ ¬ m.Late ∧ (m.context.step m.world).1 = .ok () := by
  unfold HookContext.step Spent Cancelled Late
  dsimp only
  split
  · next hspent => exact Or.inl ⟨Nat.le_of_lt_succ hspent, rfl⟩
  next hunspent =>
  have hunspent := fun h => hunspent (Nat.lt_succ_of_le h)
  split
  · next hcancelled => exact Or.inr (Or.inl ⟨hunspent, hcancelled, rfl⟩)
  next hgoing =>
  split
  · next hlate => exact Or.inr (Or.inr (Or.inl ⟨hunspent, hgoing, hlate, rfl⟩))
  · next hearly => exact Or.inr (Or.inr (Or.inr ⟨hunspent, hgoing, hearly, rfl⟩))

end HookMoment

/-- Time does not go back and a cancellation stays. -/
structure World.Later (w w' : World μ) : Prop where
  clock : w.clock ≤ w'.clock
  cancelled : w.cancelled = true → w'.cancelled = true

namespace World

theorem clock_look (w : World μ) : w.look.clock = w.clock + w.pending.head?.elim 0 Nudge.pause := by
  unfold look
  cases w.pending <;> rfl

theorem cancelled_look (w : World μ) : w.look.cancelled = (w.cancelled || w.pending.head?.elim false Nudge.cancel) := by
  unfold look
  cases w.pending with
  | nil => exact (Bool.or_false _).symm
  | cons n rest => rfl

theorem later_look (w : World μ) : Later w w.look :=
  ⟨by rw [clock_look]; exact Nat.le_add_right _ _, fun h => by rw [cancelled_look, h, Bool.true_or]⟩

/-- The next look finds no less after an act of a hook. -/
theorem later_look_during (w : World μ) (act : HookAct μ) : Later w.look (act.during w).look := by
  have hlater : Later w (act.during w) := by
    cases act with
    | print | remember => exact ⟨Nat.le_refl _, id⟩
    | nudge n => exact ⟨Nat.le_add_right _ _, fun h => by simp [HookAct.during, nudge, h]⟩
  have hpending : (act.during w).pending = w.pending := by cases act <;> rfl
  constructor
  · rw [clock_look, clock_look, hpending]
    exact Nat.add_le_add_right hlater.clock _
  · rw [cancelled_look, cancelled_look, hpending]
    intro h
    rcases Bool.or_eq_true_iff.1 h with hnow | hnext
    · rw [hlater.cancelled hnow, Bool.true_or]
    · rw [hnext, Bool.or_true]

theorem later_look_step (ctx : HookContext) (w : World μ) : Later w.look (ctx.step w).2.2.look := by
  rw [HookContext.step_world]
  split
  · exact ⟨Nat.le_refl _, id⟩
  · exact later_look _

end World

namespace HookMoment

theorem lasting_limits (limits : HookLimits) : Lasting fun m : HookMoment μ => m.context.limits = limits where
  act m act next h := (m.limits_afterAct act next).trans h
  access m call further h := (m.limits_afterAccess call further).trans h

theorem lasting_spent : Lasting (Spent : HookMoment μ → Prop) where
  act m act next h := by
    unfold Spent
    rwa [limits_afterAct, steps_afterAct]
  access m call further h := by
    unfold Spent
    rw [limits_afterAccess, steps_afterAccess]
    exact Nat.le_succ_of_le h

theorem lasting_cancelled : Lasting (Cancelled : HookMoment μ → Prop) where
  act m act _ h := (m.world.later_look_during act).cancelled h
  access m call further h := by
    unfold Cancelled
    rw [world_afterAccess]
    exact (World.later_look_step m.context m.world).cancelled h

theorem lasting_late : Lasting (Late : HookMoment μ → Prop) where
  act m act next h := by
    unfold Late
    rw [limits_afterAct]
    exact Nat.le_trans h (m.world.later_look_during act).clock
  access m call further h := by
    unfold Late
    rw [world_afterAccess, limits_afterAccess]
    exact Nat.le_trans h (World.later_look_step m.context m.world).clock

/-- From a moment on every access is refused, for one of these reasons, and the live state stays as it is. -/
structure Shut (m : HookMoment μ) (reason : HookError → Prop) : Prop where
  refused : ∀ a ∈ m.accesses, ∃ e, reason e ∧ a.granted = .error e ∧ a.answer = .error e
  state : m.ending.2.1.state = m.context.state

/-- A condition that lasts and has steps refused shuts everything off. -/
theorem shut_of_lasting {P : HookMoment μ → Prop} {reason : HookError → Prop} (hlasting : Lasting P)
    (hrefused : ∀ m, P m → ∃ e, reason e ∧ (m.context.step m.world).1 = .error e) {m : HookMoment μ} (h : P m) :
    m.Shut reason := by
  obtain ⟨program, ctx, w⟩ := m
  -- induction on the moves of the hook; the condition holds again at the moment after each of them
  induction program using HookProgram.moveInduction generalizing ctx w with
  | ends program result hmove =>
    obtain ⟨hrun, haccesses⟩ := HookProgram.run_ends ctx w hmove
    exact ⟨by simp [accesses, haccesses], by simp [ending, hrun]⟩
  | does program act next hmove ih =>
    obtain ⟨hrun, haccesses⟩ := HookProgram.run_does ctx w hmove
    obtain ⟨hshut, hstate⟩ := ih _ _ (hlasting.act _ act next h)
    have hkept : (act.after ctx).state = ctx.state := by cases act <;> rfl
    exact ⟨by rwa [accesses, haccesses], by rw [ending, hrun]; exact hstate.trans hkept⟩
  | asks program call further hmove ih =>
    obtain ⟨hrun, haccesses⟩ := HookProgram.run_asks ctx w hmove
    obtain ⟨hshut, hstate⟩ := ih _ _ _ (hlasting.access _ call further h)
    obtain ⟨e, hreason, hstep⟩ := hrefused _ h
    have hasked : ctx.ask call w = (.error e, ctx.stepped, (ctx.step w).2.2) := HookContext.ask_refused hstep
    refine ⟨?_, ?_⟩
    · rw [accesses, haccesses, List.forall_mem_cons]
      exact ⟨⟨e, hreason, hstep, congrArg Prod.fst hasked⟩, hshut⟩
    · rw [ending, hrun]
      exact hstate.trans (by rw [hasked]; rfl)

section
variable {limits : HookLimits} {m : HookMoment μ}

theorem Spent.shut (h : m.Spent) (hlimits : m.context.limits = limits) :
    m.Shut (· = .stepBudgetExceeded limits.maxSteps) := by
  refine shut_of_lasting (lasting_spent.and (lasting_limits limits)) ?_ ⟨h, hlimits⟩
  rintro m ⟨hspent, rfl⟩
  rcases m.step_cases with ⟨-, hstep⟩ | ⟨hunspent, -⟩ | ⟨hunspent, -⟩ | ⟨hunspent, -⟩
  · exact ⟨_, rfl, hstep⟩
  all_goals exact absurd hspent hunspent

theorem Cancelled.shut (h : m.Cancelled) (hlimits : m.context.limits = limits) :
    m.Shut fun e => e = .cancelled ∨ e = .stepBudgetExceeded limits.maxSteps := by
  refine shut_of_lasting (lasting_cancelled.and (lasting_limits limits)) ?_ ⟨h, hlimits⟩
  rintro m ⟨hcancelled, rfl⟩
  rcases m.step_cases with ⟨-, hstep⟩ | ⟨-, -, hstep⟩ | ⟨-, hgoing, -⟩ | ⟨-, hgoing, -⟩
  · exact ⟨_, Or.inr rfl, hstep⟩
  · exact ⟨_, Or.inl rfl, hstep⟩
  all_goals exact absurd hcancelled hgoing

theorem Late.shut (h : m.Late) (hlimits : m.context.limits = limits) :
    m.Shut fun e => e = .deadlineExceeded ∨ e = .cancelled ∨ e = .stepBudgetExceeded limits.maxSteps := by
  refine shut_of_lasting (lasting_late.and (lasting_limits limits)) ?_ ⟨h, hlimits⟩
  rintro m ⟨hlate, rfl⟩
  rcases m.step_cases with ⟨-, hstep⟩ | ⟨-, -, hstep⟩ | ⟨-, -, -, hstep⟩ | ⟨-, -, hearly, -⟩
  · exact ⟨_, Or.inr (Or.inr rfl), hstep⟩
  · exact ⟨_, Or.inr (Or.inl rfl), hstep⟩
  · exact ⟨_, Or.inl rfl, hstep⟩
  · exact absurd hlate hearly

end

/-! ## Limits that accesses tell -/

section
variable {m : HookMoment μ} {call : AccessCall}

theorem spent_iff_answer :
    m.Spent ↔ ∃ n, (m.context.access call m.world).answer = .error (.stepBudgetExceeded n) := by
  constructor
  · intro hspent
    rcases m.step_cases with ⟨-, hstep⟩ | ⟨hunspent, -⟩ | ⟨hunspent, -⟩ | ⟨hunspent, -⟩
    · exact ⟨_, congrArg Prod.fst (HookContext.ask_refused hstep)⟩
    all_goals exact absurd hspent hunspent
  · rintro ⟨n, hanswer⟩
    have hrefused : (m.context.step m.world).1 = .error (.stepBudgetExceeded n) :=
      (HookContext.answer_eq_limit_iff (e := .stepBudgetExceeded n) trivial).1 hanswer
    rcases m.step_cases with ⟨hspent, -⟩ | ⟨-, -, hstep⟩ | ⟨-, -, -, hstep⟩ | ⟨-, -, -, hstep⟩
    · exact hspent
    all_goals
      rw [hstep] at hrefused
      cases hrefused

theorem cancelled_of_answer (h : (m.context.access call m.world).answer = .error .cancelled) : m.Cancelled := by
  have hrefused := (HookContext.answer_eq_limit_iff (e := .cancelled) trivial).1 h
  rcases m.step_cases with ⟨-, hstep⟩ | ⟨-, hcancelled, -⟩ | ⟨-, -, -, hstep⟩ | ⟨-, -, -, hstep⟩
  case inr.inl => exact hcancelled
  all_goals
    rw [hstep] at hrefused
    cases hrefused

theorem late_of_answer (h : (m.context.access call m.world).answer = .error .deadlineExceeded) : m.Late := by
  have hrefused := (HookContext.answer_eq_limit_iff (e := .deadlineExceeded) trivial).1 h
  rcases m.step_cases with ⟨-, hstep⟩ | ⟨-, -, hstep⟩ | ⟨-, -, hlate, -⟩ | ⟨-, -, -, hstep⟩
  case inr.inr.inl => exact hlate
  all_goals
    rw [hstep] at hrefused
    cases hrefused

end

/-- What the limits make of a run with this budget at a moment at which these accesses were made. -/
structure Limited (budget : Nat) (made : List Access) (m : HookMoment μ) : Prop where
  /-- After an access that failed because the budget was used up, every access does. -/
  spent : (∃ a ∈ made, ∃ n, a.answer = .error (.stepBudgetExceeded n)) → m.Shut (· = .stepBudgetExceeded budget)
  /-- Once the session is cancelled every access fails for this reason or for the one that is tested before. -/
  cancelled : m.Cancelled → m.Shut fun e => e = .cancelled ∨ e = .stepBudgetExceeded budget
  /-- Once the deadline has passed every access fails for this reason or for one that is tested before. -/
  late : m.Late → m.Shut fun e => e = .deadlineExceeded ∨ e = .cancelled ∨ e = .stepBudgetExceeded budget
  /-- No access fails for any of the reasons too early. -/
  tellCancelled : (∃ a ∈ made, a.answer = .error .cancelled) → m.Cancelled
  tellLate : (∃ a ∈ made, a.answer = .error .deadlineExceeded) → m.Late

theorem Leads.limited {m m' : HookMoment μ} {made : List Access} (h : m.Leads made m') :
    Limited m.context.limits.maxSteps made m' where
  spent hmade :=
    (h.told lasting_spent (fun _ _ => spent_iff_answer.2) hmade).shut (h.keeps (lasting_limits m.context.limits) rfl)
  cancelled hcancelled := hcancelled.shut (h.keeps (lasting_limits m.context.limits) rfl)
  late hlate := hlate.shut (h.keeps (lasting_limits m.context.limits) rfl)
  tellCancelled := h.told lasting_cancelled fun _ _ => cancelled_of_answer
  tellLate := h.told lasting_late fun _ _ => late_of_answer

end HookMoment

/-! ## Runs -/

namespace HookProgram

section
variable (program : HookProgram μ) (ctx : HookContext) (w : World μ)

/-- An access fails because the budget is used up exactly when as many were made before. -/
theorem spent_iff_le {k : Nat} {a : Access} (h : (program.accesses ctx w)[k]? = some a) :
    (∃ n, a.answer = .error (.stepBudgetExceeded n)) ↔ ctx.limits.maxSteps ≤ ctx.steps + k := by
  obtain ⟨hk, hget⟩ := List.getElem?_eq_some_iff.1 h
  have hsplit : program.accesses ctx w =
      (program.accesses ctx w).take k ++ a :: (program.accesses ctx w).drop (k + 1) := by
    rw [← hget, List.getElem_cons_drop, List.take_append_drop]
  obtain ⟨m, call, further, hleads, -, rfl, -⟩ := HookMoment.exists_moment hsplit
  have hlimits : m.context.limits = ctx.limits := hleads.keeps (HookMoment.lasting_limits _) rfl
  have hsteps : m.context.steps = ctx.steps + k := by
    rw [hleads.steps, List.length_take, Nat.min_eq_left (Nat.le_of_lt hk)]
  rw [← HookMoment.spent_iff_answer, HookMoment.Spent, hlimits, hsteps]

/-- No more accesses succeed than the budget allows. -/
theorem countP_accesses_le (hfresh : ctx.steps = 0) :
    (program.accesses ctx w).countP (fun a => a.answer.isOk) ≤ ctx.limits.maxSteps := by
  -- only the accesses before the budget is used up can count
  have hlate : ((program.accesses ctx w).drop ctx.limits.maxSteps).countP (fun a => a.answer.isOk) = 0 := by
    rw [List.countP_eq_zero]
    intro a ha
    obtain ⟨k, hk⟩ := List.getElem?_of_mem ha
    rw [List.getElem?_drop] at hk
    obtain ⟨n, hanswer⟩ := (program.spent_iff_le ctx w hk).2 (by omega)
    rw [hanswer]
    exact Bool.false_ne_true
  rw [← List.take_append_drop ctx.limits.maxSteps (program.accesses ctx w), List.countP_append, hlate, Nat.add_zero]
  exact Nat.le_trans List.countP_le_length (List.length_take_le _ _)

/-- A run counts its accesses. -/
theorem steps_run : (program.run ctx w).2.1.steps = ctx.steps + (program.accesses ctx w).length := by
  induction program using moveInduction generalizing ctx w with
  | ends program result hmove =>
    obtain ⟨hrun, haccesses⟩ := run_ends ctx w hmove
    rw [hrun, haccesses, List.length_nil, Nat.add_zero]
  | does program act next hmove ih =>
    obtain ⟨hrun, haccesses⟩ := run_does ctx w hmove
    have hkept : (act.after ctx).steps = ctx.steps := by cases act <;> rfl
    rw [hrun, haccesses, ih, hkept]
  | asks program call further hmove ih =>
    obtain ⟨hrun, haccesses⟩ := run_asks ctx w hmove
    rw [hrun, haccesses, ih, HookContext.steps_ask, List.length_cons]
    omega

end

end HookProgram

namespace CheckEngine

/-- The moment at which the run of a check's hook begins. -/
def firstMoment (limits : CheckLimits) (check : Check μ) (request : Tree) (response : Option Tree)
    (callDeadline : Nat) (w : World μ) : HookMoment μ :=
  ⟨check.program w.outside, startingContext limits check request response callDeadline w.clock, w⟩

/-- **A run stays within its limits, whatever its hook passes over.** No more accesses succeed than the budget
allows, and exactly those behind the budget fail because it is used up. At every moment of the run: after an access
that failed because the budget was used up, once the session is cancelled, and once the deadline has passed, every
access is refused, for this reason or for one that is tested before it, and the live state stays as it is. The steps
that are reported are the accesses that were made. -/
theorem runs_within_limits (limits : CheckLimits) (check : Check μ) (request : Tree) (response : Option Tree)
    (callDeadline : Nat) (w : World μ) :
    let run := hookAccesses limits check request response callDeadline w.look
    let outcome := (runCheck limits check request response callDeadline w).1
    run.countP (fun a => a.answer.isOk) ≤ limits.stepBudget ∧
      (∀ k a, run[k]? = some a →
        ((∃ n, a.answer = .error (.stepBudgetExceeded n)) ↔ limits.stepBudget ≤ k)) ∧
      (∀ made m, (firstMoment limits check request response callDeadline w.look).Leads made m →
        run = made ++ m.accesses ∧ m.Limited limits.stepBudget made) ∧
      outcome.executionSteps = run.length ∧
      (run.length < 2 ^ 64 → outcome.progress.executionSteps.toNat = run.length) := by
  intro run outcome
  have hcounted : outcome.executionSteps = run.length := by
    refine (HookProgram.steps_run (check.program w.look.outside) _ w.look).trans ?_
    exact Nat.zero_add _
  refine ⟨HookProgram.countP_accesses_le (check.program w.look.outside) _ w.look rfl, fun k a hk => ?_,
    fun made m hleads => ?_, hcounted, fun hfew => ?_⟩
  · simpa [startingContext] using HookProgram.spent_iff_le (check.program w.look.outside) _ w.look hk
  · exact ⟨hleads.accesses, hleads.limited⟩
  · rw [Outcome.progress, UInt64.toNat_ofNat', hcounted, Nat.mod_eq_of_lt hfew]

/-! ## A hook that passes over everything -/

/-- A check whose hook is late, has the session cancelled, and ignores all errors. -/
def stubbornCheck : Check Unit where
  name := "stubborn"
  kind := .afterResponse
  program := fun _ => .step fun _ => .act { pause := 5000000000 } <| .request fun _ => .act { cancel := true } <|
    .response fun _ => .state (fun _ => .null) fun _ => .setState (.dict [("a", .null)]) fun _ => .done
  tags := .empty
  state := .emptyDict

/-- Bounds of three steps and of three seconds. -/
def threeSteps : CheckLimits := { stepBudget := 3 }

/-- The moment at which a run of the check begins. -/
def stubbornStart : HookMoment Unit :=
  firstMoment threeSteps stubbornCheck .null none 9000000000 (World.look { outside := () })

/-- The accesses of the run but for the last one. -/
def stubbornAccesses : List Access :=
  [⟨.step, .ok (), .ok none⟩,
    ⟨.request, .error .deadlineExceeded, .error .deadlineExceeded⟩,
    ⟨.response, .error .cancelled, .error .cancelled⟩,
    ⟨.state fun _ => .null, .error (.stepBudgetExceeded 3), .error (.stepBudgetExceeded 3)⟩]

/-- The moment before the last access. -/
def stubbornEnd : HookMoment Unit where
  program := .setState (.dict [("a", .null)]) fun _ => .done
  context := { request := .null, response := none, state := .emptyDict, limits := ⟨3, 3000000000⟩, steps := 4 }
  world := { clock := 5000000000, cancelled := true, outside := () }

/-- Only the first access succeeds; then one is too late, one finds the session cancelled, and the others are beyond
the budget. Before the last access every limit is reached, and the state stays empty. -/
theorem stubborn_run_limited :
    stubbornStart.Leads stubbornAccesses stubbornEnd ∧ stubbornEnd.Late ∧ stubbornEnd.Cancelled ∧
      stubbornEnd.Shut (· = .stepBudgetExceeded 3) ∧ stubbornEnd.ending.2.1.state = .emptyDict ∧
      (runCheck threeSteps stubbornCheck .null none 9000000000
        { outside := () }).1.progress.executionSteps.toNat = 5 := by
  obtain ⟨-, -, hmoments, -, hreported⟩ := runs_within_limits threeSteps stubbornCheck .null none 9000000000
    { outside := () }
  have hleads : stubbornStart.Leads stubbornAccesses stubbornEnd :=
    .asks rfl (.does rfl (.asks rfl (.does rfl (.asks rfl (.asks rfl (.here _))))))
  obtain ⟨hrun, hlimited⟩ := hmoments _ _ hleads
  have hspent := hlimited.spent ⟨_, List.mem_of_getElem? (i := 3) rfl, 3, rfl⟩
  have hcancelled := hlimited.tellCancelled ⟨_, List.mem_of_getElem? (i := 2) rfl, rfl⟩
  have hlate := hlimited.tellLate ⟨_, List.mem_of_getElem? (i := 1) rfl, rfl⟩
  have hlength :
      (hookAccesses threeSteps stubbornCheck .null none 9000000000 (World.look { outside := () })).length = 5 := by
    rw [hrun]
    rfl
  have hreported := (hreported (by rw [hlength]; decide)).trans hlength
  exact ⟨hleads, hlate, hcancelled, hspent,
    (hlimited.cancelled hcancelled).state.trans (hlimited.late hlate).state, hreported⟩

end CheckEngine

end FuzzCampaign
