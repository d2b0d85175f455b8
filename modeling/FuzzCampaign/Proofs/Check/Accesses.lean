import FuzzCampaign.Check.Engine
import FuzzCampaign.Proofs.World
set_option autoImplicit false

/-! # What a hook asks of its context

A hook ends, does something that it gets no answer to, or asks its context for an access and goes on with
the answer. Seen this way every statement about hooks has three cases. The accesses of a run, with the
results of their steps and their answers, are what the statements are about. -/

namespace FuzzCampaign

variable {μ : Type}

/-! ## Moves -/

/-- An access that a hook asks for. -/
inductive AccessCall where
  | step
  | request
  | response
  | state (change : Tree → Tree)
  | setState (value : Tree)
  | assertThat (condition : Bool) (message : String)

/-- Whether the access reads the request or the response. -/
def AccessCall.isRead : AccessCall → Bool
  | .request | .response => true
  | _ => false

/-- Whether the access takes hold of the state or replaces it. -/
def AccessCall.reachesState : AccessCall → Bool
  | .state _ | .setState _ => true
  | _ => false

/-- Something that a hook does without an answer. -/
inductive HookAct (μ : Type) where
  | print (line : String)
  | nudge (nudge : Nudge)
  | remember (memory : μ)

/-- What a hook does next. -/
inductive HookMove (μ : Type) where
  | ends (result : Except HookError Unit)
  | does (act : HookAct μ) (next : HookProgram μ)
  | asks (call : AccessCall) (next : Except HookError (Option Tree) → HookProgram μ)

/-- What a program does first. -/
def HookProgram.move : HookProgram μ → HookMove μ
  | .done => .ends (.ok ())
  | .fail e => .ends (.error e)
  | .panic => .ends (.error (.script "hook panicked"))
  | .step next => .asks .step fun answer => next (answer.map fun _ => ())
  | .request next => .asks .request fun answer => next (answer.map fun tree => tree.getD .null)
  | .response next => .asks .response fun answer => next (answer.map fun tree => tree.getD .null)
  | .state change next => .asks (.state change) fun answer => next (answer.map fun tree => tree.getD .null)
  | .setState value next => .asks (.setState value) fun answer => next (answer.map fun _ => ())
  | .assertThat condition message next =>
    .asks (.assertThat condition message) fun answer => next (answer.map fun _ => ())
  | .print line next => .does (.print line) next
  | .act nudge next => .does (.nudge nudge) next
  | .remember memory next => .does (.remember memory) next

/-- Induction over what a program does first. -/
@[elab_as_elim]
theorem HookProgram.moveInduction {P : HookProgram μ → Prop}
    (ends : ∀ program result, program.move = .ends result → P program)
    (does : ∀ program act next, program.move = .does act next → P next → P program)
    (asks : ∀ program call next, program.move = .asks call next → (∀ answer, P (next answer)) → P program)
    (program : HookProgram μ) : P program := by
  induction program with
  | done | fail | panic => exact ends _ _ rfl
  | step _ ih | request _ ih | response _ ih | state _ _ ih | setState _ _ ih | assertThat _ _ _ ih =>
    exact asks _ _ _ rfl fun answer => ih _
  | print _ _ ih | act _ _ ih | remember _ _ ih => exact does _ _ _ rfl ih

/-- What an act leaves of the context. -/
def HookAct.after (ctx : HookContext) : HookAct μ → HookContext
  | .print line => ctx.print line
  | _ => ctx

/-- What an act does to the surroundings. -/
def HookAct.during (w : World μ) : HookAct μ → World μ
  | .print _ => w
  | .nudge n => w.nudge n
  | .remember memory => w.remember memory

namespace HookContext

/-- With one more step. -/
def stepped (ctx : HookContext) : HookContext := { ctx with steps := ctx.steps + 1 }

/-- An access whose step was granted: the answer, and what it leaves of the context. -/
def grant (ctx : HookContext) : AccessCall → Except HookError (Option Tree) × HookContext
  | .step => (.ok none, ctx)
  | .request => ((ctx.frozen "request" (some ctx.request)).map some, ctx)
  | .response => ((ctx.frozen "response" ctx.response).map some, ctx)
  | .state change => (.ok (some ctx.state), { ctx with touched := true, state := change ctx.state })
  | .setState value =>
    if value.isDict then (.ok none, { ctx with touched := true, state := value })
    else
      (.error (.stateNotTree value.typeName),
        { ctx with touched := true, badAssignment := some value.typeName })
  | .assertThat condition message => (if condition then .ok none else .error (.assertion message), ctx)

/-- An access: the answer, and what it leaves of the context and the surroundings. -/
def ask (ctx : HookContext) (call : AccessCall) (w : World μ) :
    Except HookError (Option Tree) × HookContext × World μ :=
  match (ctx.step w).1 with
  | .error e => (.error e, ctx.stepped, (ctx.step w).2.2)
  | .ok () => ((ctx.stepped.grant call).1, (ctx.stepped.grant call).2, (ctx.step w).2.2)

@[simp]
theorem step_context (ctx : HookContext) (w : World μ) : (ctx.step w).2.1 = ctx.stepped := by
  unfold step
  dsimp only
  repeat' split
  all_goals rfl

section
variable {ctx : HookContext} {call : AccessCall} {w : World μ}

@[simp]
theorem ask_world : (ctx.ask call w).2.2 = (ctx.step w).2.2 := by
  unfold ask
  split <;> rfl

theorem ask_refused {e : HookError} (h : (ctx.step w).1 = .error e) :
    ctx.ask call w = (.error e, ctx.stepped, (ctx.step w).2.2) := by
  rw [ask, h]

theorem ask_granted (h : (ctx.step w).1 = .ok ()) :
    ctx.ask call w = ((ctx.stepped.grant call).1, (ctx.stepped.grant call).2, (ctx.step w).2.2) := by
  rw [ask, h]

end

/-- A step within the budget looks at the surroundings, a step beyond it does not. -/
theorem step_world (ctx : HookContext) (w : World μ) :
    (ctx.step w).2.2 = if ctx.limits.maxSteps < ctx.steps + 1 then w else w.look := by
  unfold step
  dsimp only
  repeat' split
  all_goals rfl

theorem shown_step (ctx : HookContext) (w : World μ) : (ctx.step w).2.2.shown = w.shown := by
  rw [step_world]
  split
  · rfl
  · exact w.shown_look

/-- Every accessor is an access, with the answer at the accessor's own type. -/
theorem accessors_eq_ask (ctx : HookContext) (w : World μ) :
    ctx.step w = ((ctx.ask .step w).1.map fun _ => (), (ctx.ask .step w).2) ∧
    ctx.readRequest w = ((ctx.ask .request w).1.map (·.getD .null), (ctx.ask .request w).2) ∧
    ctx.readResponse w = ((ctx.ask .response w).1.map (·.getD .null), (ctx.ask .response w).2) ∧
    (∀ change, ctx.takeState change w =
      ((ctx.ask (.state change) w).1.map (·.getD .null), (ctx.ask (.state change) w).2)) ∧
    (∀ value, ctx.replaceState value w =
      ((ctx.ask (.setState value) w).1.map fun _ => (), (ctx.ask (.setState value) w).2)) ∧
    ∀ condition message, ctx.assertThat condition message w =
      ((ctx.ask (.assertThat condition message) w).1.map fun _ => (),
        (ctx.ask (.assertThat condition message) w).2) := by
  have hcontext := step_context ctx w
  unfold ask readRequest readResponse takeState replaceState assertThat
  rcases hstep : ctx.step w with ⟨answer, ctx', w'⟩
  rw [hstep] at hcontext
  subst hcontext
  cases answer with
  | error e => exact ⟨rfl, rfl, rfl, fun _ => rfl, fun _ => rfl, fun _ _ => rfl⟩
  | ok u =>
    refine ⟨rfl, ?_, ?_, fun _ => rfl, fun value => ?_, fun condition message => ?_⟩
    · simp only [grant]
      cases ctx.stepped.frozen "request" _ <;> rfl
    · simp only [grant]
      cases ctx.stepped.frozen "response" _ <;> rfl
    · simp only [grant]
      split <;> rfl
    · cases condition <;> rfl

end HookContext

/-! ## Runs -/

/-- An access of a run: what was asked for, whether its step was granted, and the answer. -/
structure Access where
  call : AccessCall
  granted : Except HookError Unit
  answer : Except HookError (Option Tree)

namespace Access

/-- Whether the access gave the state away, to be changed or replaced; a replacement that is refused counts as
well. -/
def touches (a : Access) : Bool :=
  match a.granted with
  | .ok () => a.call.reachesState
  | .error _ => false

/-- Whether the access was to replace the state by something that is no dictionary, and got past its step. -/
def Refused (a : Access) : Prop :=
  a.granted = .ok () ∧ ∃ value, a.call = .setState value ∧ value.isDict = false

end Access

/-- The record of an access. -/
def HookContext.access (ctx : HookContext) (call : AccessCall) (w : World μ) : Access :=
  ⟨call, (ctx.step w).1, (ctx.ask call w).1⟩

namespace HookContext

theorem badAssignment_ask (ctx : HookContext) (call : AccessCall) (w : World μ) :
    (ctx.ask call w).2.1.badAssignment ≠ none ↔
      ctx.badAssignment ≠ none ∨ (ctx.access call w).Refused := by
  cases hstep : (ctx.step w).1 with
  | error e => simp [ask_refused hstep, stepped, Access.Refused, access, hstep]
  | ok u =>
    rw [ask_granted hstep]
    cases call with
    | setState value => cases hdict : value.isDict <;> simp [grant, stepped, Access.Refused, access, hstep, hdict]
    | step | request | response | state | assertThat => simp [grant, stepped, Access.Refused, access]

end HookContext

namespace HookProgram

/-- The accesses of a run, in order. -/
def accesses : HookProgram μ → HookContext → World μ → List Access
  | .done, _, _ | .fail _, _, _ | .panic, _, _ => []
  | .step next, ctx, w =>
    let (answer, ctx', w') := ctx.step w
    ctx.access .step w :: (next answer).accesses ctx' w'
  | .request next, ctx, w =>
    let (answer, ctx', w') := ctx.readRequest w
    ctx.access .request w :: (next answer).accesses ctx' w'
  | .response next, ctx, w =>
    let (answer, ctx', w') := ctx.readResponse w
    ctx.access .response w :: (next answer).accesses ctx' w'
  | .state change next, ctx, w =>
    let (answer, ctx', w') := ctx.takeState change w
    ctx.access (.state change) w :: (next answer).accesses ctx' w'
  | .setState value next, ctx, w =>
    let (answer, ctx', w') := ctx.replaceState value w
    ctx.access (.setState value) w :: (next answer).accesses ctx' w'
  | .assertThat condition message next, ctx, w =>
    let (answer, ctx', w') := ctx.assertThat condition message w
    ctx.access (.assertThat condition message) w :: (next answer).accesses ctx' w'
  | .print line next, ctx, w => next.accesses (ctx.print line) w
  | .act nudge next, ctx, w => next.accesses ctx (w.nudge nudge)
  | .remember memory next, ctx, w => next.accesses ctx (w.remember memory)

section
variable {program next : HookProgram μ} {result : Except HookError Unit} {act : HookAct μ} {call : AccessCall}
  {further : Except HookError (Option Tree) → HookProgram μ} (ctx : HookContext) (w : World μ)

theorem run_ends (h : program.move = .ends result) :
    program.run ctx w = (result, ctx, w) ∧ program.accesses ctx w = [] := by
  cases program <;> cases h <;> exact ⟨rfl, rfl⟩

theorem run_does (h : program.move = .does act next) :
    program.run ctx w = next.run (act.after ctx) (act.during w) ∧
      program.accesses ctx w = next.accesses (act.after ctx) (act.during w) := by
  cases program <;> cases h <;> exact ⟨rfl, rfl⟩

theorem run_asks (h : program.move = .asks call further) :
    program.run ctx w = (further (ctx.ask call w).1).run (ctx.ask call w).2.1 (ctx.ask call w).2.2 ∧
      program.accesses ctx w = ctx.access call w ::
        (further (ctx.ask call w).1).accesses (ctx.ask call w).2.1 (ctx.ask call w).2.2 := by
  obtain ⟨hstep, hrequest, hresponse, hstate, hset, hassert⟩ := ctx.accessors_eq_ask w
  cases program <;> cases h <;> simp only [run, accesses]
  · rw [hstep]
    exact ⟨rfl, rfl⟩
  · rw [hrequest]
    exact ⟨rfl, rfl⟩
  · rw [hresponse]
    exact ⟨rfl, rfl⟩
  · rw [hstate]
    exact ⟨rfl, rfl⟩
  · rw [hset]
    exact ⟨rfl, rfl⟩
  · rw [hassert]
    exact ⟨rfl, rfl⟩

end

/-- A hook was refused a replacement of the state when one of its accesses was. -/
theorem badAssignment_run (program : HookProgram μ) (ctx : HookContext) (w : World μ) :
    (program.run ctx w).2.1.badAssignment ≠ none ↔
      ctx.badAssignment ≠ none ∨ ∃ a ∈ program.accesses ctx w, a.Refused := by
  induction program using moveInduction generalizing ctx w with
  | ends program result h =>
    obtain ⟨hrun, haccesses⟩ := run_ends ctx w h
    simp [hrun, haccesses]
  | does program act next h ih =>
    obtain ⟨hrun, haccesses⟩ := run_does ctx w h
    have hkept : (act.after ctx).badAssignment = ctx.badAssignment := by cases act <;> rfl
    rw [hrun, haccesses, ih, hkept]
  | asks program call further h ih =>
    obtain ⟨hrun, haccesses⟩ := run_asks ctx w h
    simp only [hrun, haccesses, ih, HookContext.badAssignment_ask, List.mem_cons, exists_eq_or_imp, or_assoc]

end HookProgram

/-- The accesses of a run of a check's hook. -/
def CheckEngine.hookAccesses (limits : CheckLimits) (check : Check μ) (request : Tree) (response : Option Tree)
    (callDeadline : Nat) (w : World μ) : List Access :=
  (check.program w.outside).accesses (startingContext limits check request response callDeadline w.clock) w

end FuzzCampaign
