import FuzzCampaign.Proofs.Check.Accesses
set_option autoImplicit false

/-! # The state depends on nothing that is read after it

Once a hook was given its state, or tried to replace it, no request and no response is read any more.
`touched_state_shuts_out_call` says this of every run, and what follows from it for two: runs that start
from one state, are interrupted alike and read the same before they touch the state differ in nothing, whatever
else the two requests and responses hold. -/

namespace FuzzCampaign

variable {μ : Type}

/-! ## One run -/

namespace HookContext

/-- Reading ends when the state is touched. -/
theorem touched_ask (ctx : HookContext) (call : AccessCall) (w : World μ) :
    (ctx.ask call w).2.1.touched = (ctx.touched || (ctx.access call w).touches) := by
  cases hstep : (ctx.step w).1 with
  | error e => simp [ask_refused hstep, stepped, Access.touches, access, hstep]
  | ok u =>
    rw [ask_granted hstep]
    cases call with
    | setState value => cases hdict : value.isDict <;>
        simp [grant, stepped, Access.touches, access, hstep, AccessCall.reachesState, hdict]
    | step | request | response | state | assertThat =>
      simp [grant, stepped, Access.touches, access, hstep, AccessCall.reachesState]

theorem frozen_of_touched {ctx : HookContext} (htouched : ctx.touched = true) (what : String)
    (value : Option Tree) :
    ctx.frozen what value = .error (.accessOrder ("cannot read " ++ what ++ " after accessing state")) := by
  unfold frozen
  rw [if_pos htouched]

theorem ask_read_of_touched {ctx : HookContext} {call : AccessCall} (htouched : ctx.touched = true)
    (hread : call.isRead = true) (w : World μ) : ∃ e, (ctx.ask call w).1 = .error e := by
  cases hstep : (ctx.step w).1 with
  | error e => exact ⟨e, by rw [ask_refused hstep]⟩
  | ok u =>
    have hstepped : ctx.stepped.touched = true := htouched
    rw [ask_granted hstep]
    cases call with
    | request | response =>
      rw [grant, frozen_of_touched hstepped]
      exact ⟨_, rfl⟩
    | step | state | setState | assertThat => cases hread

end HookContext

namespace HookProgram

/-- After a touch nothing is read. -/
theorem accesses_of_touched (program : HookProgram μ) {ctx : HookContext} (htouched : ctx.touched = true)
    (w : World μ) : ∀ a ∈ program.accesses ctx w, a.call.isRead = true → ∃ e, a.answer = .error e := by
  induction program using moveInduction generalizing ctx w with
  | ends program result h => simp [(run_ends ctx w h).2]
  | does program act next h ih =>
    rw [(run_does ctx w h).2]
    refine ih ?_ _
    cases act <;> exact htouched
  | asks program call further h ih =>
    rw [(run_asks ctx w h).2, List.forall_mem_cons]
    refine ⟨fun hread => ctx.ask_read_of_touched htouched hread w, ih _ ?_ _⟩
    rw [ctx.touched_ask, htouched, Bool.true_or]

/-- No read that comes after a touch is answered with a value. -/
theorem pairwise_accesses (program : HookProgram μ) (ctx : HookContext) (w : World μ) :
    (program.accesses ctx w).Pairwise fun a b =>
      a.touches = true → b.call.isRead = true → ∃ e, b.answer = .error e := by
  induction program using moveInduction generalizing ctx w with
  | ends program result h => simp [(run_ends ctx w h).2]
  | does program act next h ih =>
    rw [(run_does ctx w h).2]
    exact ih _ _
  | asks program call further h ih =>
    rw [(run_asks ctx w h).2, List.pairwise_cons]
    refine ⟨fun b hb htouches => ?_, ih _ _ _⟩
    refine accesses_of_touched _ ?_ _ b hb
    rw [ctx.touched_ask, htouches, Bool.or_true]

/-- A hook shows nothing while it runs. -/
theorem shown_run (program : HookProgram μ) (ctx : HookContext) (w : World μ) :
    (program.run ctx w).2.2.shown = w.shown := by
  induction program using moveInduction generalizing ctx w with
  | ends program result h => rw [(run_ends ctx w h).1]
  | does program act next h ih =>
    rw [(run_does ctx w h).1, ih]
    cases act <;> rfl
  | asks program call further h ih =>
    rw [(run_asks ctx w h).1, ih, HookContext.ask_world, ctx.shown_step]

end HookProgram

/-! ## Two runs -/

/-- The steps that both runs make are granted alike. -/
def InterruptedAlike (run₁ run₂ : List Access) : Prop :=
  ∀ pair ∈ run₁.zip run₂, pair.1.granted = pair.2.granted

/-- The accesses before the first that touches the state. -/
def beforeTouch (run : List Access) : List Access := run.takeWhile fun a => !a.touches

/-- Before the state is touched both runs read the same. -/
def ReadAlike (run₁ run₂ : List Access) : Prop :=
  ∀ pair ∈ (beforeTouch run₁).zip (beforeTouch run₂), pair.1.call.isRead = true → pair.1.answer = pair.2.answer

theorem interruptedAlike_cons {a b : Access} {run₁ run₂ : List Access} :
    InterruptedAlike (a :: run₁) (b :: run₂) ↔ a.granted = b.granted ∧ InterruptedAlike run₁ run₂ := by
  simp [InterruptedAlike]

theorem touches_of_isRead {a : Access} (h : a.call.isRead = true) : a.touches = false := by
  unfold Access.touches
  split
  · cases hcall : a.call <;> rw [hcall] at h <;> first | rfl | cases h
  · rfl

/-- The first accesses of two runs are answered alike when they read. -/
theorem ReadAlike.head {a b : Access} {run₁ run₂ : List Access} (h : ReadAlike (a :: run₁) (b :: run₂))
    (hreads : a.call.isRead = true) (hcall : a.call = b.call) : a.answer = b.answer := by
  refine h (a, b) ?_ hreads
  rw [beforeTouch, beforeTouch, List.takeWhile_cons_of_pos (by simp [touches_of_isRead hreads]),
    List.takeWhile_cons_of_pos (by simp [touches_of_isRead (hcall ▸ hreads)])]
  exact List.mem_cons_self

theorem ReadAlike.tail {a : Access} {run₁ run₂ : List Access} (h : ReadAlike (a :: run₁) (a :: run₂))
    (hnot : a.touches = false) : ReadAlike run₁ run₂ := by
  intro pair hpair
  refine h pair ?_
  rw [beforeTouch, beforeTouch, List.takeWhile_cons_of_pos (by simp [hnot]),
    List.takeWhile_cons_of_pos (by simp [hnot])]
  exact List.mem_cons_of_mem _ hpair

/-- Two contexts that differ in nothing but the request, the response and the deadline. -/
structure HookContext.Parallel (ctx₁ ctx₂ : HookContext) : Prop where
  state : ctx₁.state = ctx₂.state
  maxSteps : ctx₁.limits.maxSteps = ctx₂.limits.maxSteps
  touched : ctx₁.touched = ctx₂.touched
  badAssignment : ctx₁.badAssignment = ctx₂.badAssignment
  steps : ctx₁.steps = ctx₂.steps
  output : ctx₁.output = ctx₂.output

/-- Two worlds in which the same time passes, before and at all looks to come. -/
structure World.InTime (w₁ w₂ : World μ) : Prop where
  clock : w₁.clock = w₂.clock
  pending : w₁.pending = w₂.pending

section
variable {w₁ w₂ : World μ}

theorem World.InTime.look (h : InTime w₁ w₂) : InTime w₁.look w₂.look := by
  unfold World.look
  rw [h.pending]
  split
  · exact h
  · exact ⟨by rw [World.nudge, World.nudge, h.clock], rfl⟩

theorem World.InTime.during (h : InTime w₁ w₂) (act : HookAct μ) : InTime (act.during w₁) (act.during w₂) := by
  cases act with
  | print | remember => exact ⟨h.clock, h.pending⟩
  | nudge n => exact ⟨by rw [HookAct.during, HookAct.during, World.nudge, World.nudge, h.clock], h.pending⟩

end

namespace HookContext

section
variable {ctx₁ ctx₂ : HookContext} {w₁ w₂ : World μ} {call : AccessCall}

theorem Parallel.after (h : Parallel ctx₁ ctx₂) (act : HookAct μ) : Parallel (act.after ctx₁) (act.after ctx₂) := by
  cases act with
  | print => exact ⟨h.state, h.maxSteps, h.touched, h.badAssignment, h.steps, by simp [HookAct.after, print, h.output]⟩
  | nudge | remember => exact h

theorem Parallel.stepped (h : Parallel ctx₁ ctx₂) : Parallel ctx₁.stepped ctx₂.stepped :=
  ⟨h.state, h.maxSteps, h.touched, h.badAssignment, by simp [HookContext.stepped, h.steps], h.output⟩

theorem Parallel.step_inTime (h : Parallel ctx₁ ctx₂) (htime : World.InTime w₁ w₂) :
    World.InTime (ctx₁.step w₁).2.2 (ctx₂.step w₂).2.2 := by
  rw [step_world, step_world, h.maxSteps, h.steps]
  split
  · exact htime
  · exact htime.look

/-- A granted access is answered alike, unless it is a read that the two contexts answer differently. -/
theorem Parallel.grant (h : Parallel ctx₁ ctx₂) (call : AccessCall)
    (hread : call.isRead = true → (ctx₁.grant call).1 = (ctx₂.grant call).1) :
    (ctx₁.grant call).1 = (ctx₂.grant call).1 ∧ Parallel (ctx₁.grant call).2 (ctx₂.grant call).2 := by
  cases call with
  | request | response => exact ⟨hread rfl, h⟩
  | step | assertThat => exact ⟨rfl, h⟩
  | state change =>
    exact ⟨by simp [HookContext.grant, h.state], ⟨by simp [HookContext.grant, h.state], h.maxSteps, rfl,
      h.badAssignment, h.steps, h.output⟩⟩
  | setState value =>
    cases hdict : value.isDict <;>
      simp only [HookContext.grant, hdict, if_true, Bool.false_eq_true, if_false, true_and]
    · exact ⟨h.state, h.maxSteps, rfl, rfl, h.steps, h.output⟩
    · exact ⟨rfl, h.maxSteps, rfl, h.badAssignment, h.steps, h.output⟩

/-- One access of two runs: granted alike, and read alike as long as the state is not touched. -/
theorem Parallel.access (h : Parallel ctx₁ ctx₂)
    (hgranted : (ctx₁.access call w₁).granted = (ctx₂.access call w₂).granted)
    (hread : ctx₁.touched = false → call.isRead = true →
      (ctx₁.access call w₁).answer = (ctx₂.access call w₂).answer) :
    ctx₁.access call w₁ = ctx₂.access call w₂ ∧ Parallel (ctx₁.ask call w₁).2.1 (ctx₂.ask call w₂).2.1 := by
  have hstep : (ctx₁.step w₁).1 = (ctx₂.step w₂).1 := hgranted
  simp only [HookContext.access, Access.mk.injEq, true_and] at hread ⊢
  cases hstep₂ : (ctx₂.step w₂).1 with
  | error e =>
    rw [ask_refused hstep₂, ask_refused (hstep.trans hstep₂), hstep, hstep₂]
    exact ⟨⟨rfl, rfl⟩, h.stepped⟩
  | ok u =>
    rw [ask_granted hstep₂, ask_granted (hstep.trans hstep₂)] at hread ⊢
    have hgrant := h.stepped.grant call fun hisRead => by
      cases htouched : ctx₁.touched with
      | false => exact hread htouched hisRead
      | true =>
        -- both are refused, with the same text
        have htouched₁ : ctx₁.stepped.touched = true := htouched
        have htouched₂ : ctx₂.stepped.touched = true := h.touched ▸ htouched
        cases call with
        | request | response => simp only [HookContext.grant, frozen_of_touched htouched₁, frozen_of_touched htouched₂]
        | step | state | setState | assertThat => cases hisRead
    exact ⟨⟨hstep.trans hstep₂, hgrant.1⟩, hgrant.2⟩

end

end HookContext

namespace HookProgram

/-- Two runs that are interrupted alike, and read alike before the state is touched, do the same. -/
theorem run_parallel (program : HookProgram μ) {ctx₁ ctx₂ : HookContext} (h : ctx₁.Parallel ctx₂) (w₁ w₂ : World μ)
    (hinterrupted : InterruptedAlike (program.accesses ctx₁ w₁) (program.accesses ctx₂ w₂))
    (hread : ctx₁.touched = false → ReadAlike (program.accesses ctx₁ w₁) (program.accesses ctx₂ w₂)) :
    program.accesses ctx₁ w₁ = program.accesses ctx₂ w₂ ∧
      (program.run ctx₁ w₁).1 = (program.run ctx₂ w₂).1 ∧
      (program.run ctx₁ w₁).2.1.Parallel (program.run ctx₂ w₂).2.1 ∧
      (w₁.InTime w₂ → (program.run ctx₁ w₁).2.2.InTime (program.run ctx₂ w₂).2.2) := by
  induction program using moveInduction generalizing ctx₁ ctx₂ w₁ w₂ with
  | ends program result hmove =>
    obtain ⟨hrun₁, haccesses₁⟩ := run_ends ctx₁ w₁ hmove
    obtain ⟨hrun₂, haccesses₂⟩ := run_ends ctx₂ w₂ hmove
    rw [hrun₁, hrun₂, haccesses₁, haccesses₂]
    exact ⟨rfl, rfl, h, id⟩
  | does program act next hmove ih =>
    obtain ⟨hrun₁, haccesses₁⟩ := run_does ctx₁ w₁ hmove
    obtain ⟨hrun₂, haccesses₂⟩ := run_does ctx₂ w₂ hmove
    rw [haccesses₁, haccesses₂] at hinterrupted hread ⊢
    have htouched : (act.after ctx₁).touched = ctx₁.touched := by cases act <;> rfl
    obtain ⟨haccesses, hresult, hctx, htime⟩ :=
      ih (h.after act) _ _ hinterrupted fun hnot => hread (htouched ▸ hnot)
    rw [hrun₁, hrun₂]
    exact ⟨haccesses, hresult, hctx, fun h' => htime (h'.during act)⟩
  | asks program call further hmove ih =>
    obtain ⟨hrun₁, haccesses₁⟩ := run_asks ctx₁ w₁ hmove
    obtain ⟨hrun₂, haccesses₂⟩ := run_asks ctx₂ w₂ hmove
    rw [haccesses₁, haccesses₂] at hinterrupted hread ⊢
    obtain ⟨hgranted, hinterrupted⟩ := interruptedAlike_cons.1 hinterrupted
    obtain ⟨haccess, hctx⟩ := h.access hgranted fun hnot hisRead => (hread hnot).head hisRead rfl
    have hanswer : (ctx₁.ask call w₁).1 = (ctx₂.ask call w₂).1 := congrArg Access.answer haccess
    rw [hanswer, haccess] at hread
    rw [hanswer] at hinterrupted
    have hread' : (ctx₁.ask call w₁).2.1.touched = false → ReadAlike
        ((further (ctx₂.ask call w₂).1).accesses (ctx₁.ask call w₁).2.1 (ctx₁.ask call w₁).2.2)
        ((further (ctx₂.ask call w₂).1).accesses (ctx₂.ask call w₂).2.1 (ctx₂.ask call w₂).2.2) := by
      intro hnot
      rw [ctx₁.touched_ask, Bool.or_eq_false_iff, haccess] at hnot
      exact (hread hnot.1).tail hnot.2
    obtain ⟨haccesses, hresult, hlast, htime⟩ := ih _ hctx _ _ hinterrupted hread'
    rw [hrun₁, hrun₂, hanswer, haccess]
    refine ⟨congrArg _ haccesses, hresult, hlast, fun h' => htime ?_⟩
    rw [HookContext.ask_world, HookContext.ask_world]
    exact h.step_inTime h'

end HookProgram

namespace CheckEngine

/-! ## Runs of a check -/

section
variable (limits : CheckLimits) (check : Check μ)

theorem shown_runCheck (request : Tree) (response : Option Tree) (callDeadline : Nat) (w : World μ) :
    (runCheck limits check request response callDeadline w).2.2.shown =
      w.shown ++ (runHook limits check request response callDeadline w.look).2.1.output.map
        fun line => .printf (check.name ++ ": " ++ line) := by
  have hshown : (runHook limits check request response callDeadline w.look).2.2.shown = w.look.shown :=
    HookProgram.shown_run _ _ _
  rw [World.shown_look] at hshown
  simp only [runCheck, World.printLines, List.map_map, hshown]
  rfl

/-- Two runs of a hook that remembers the same in both. -/
theorem runHook_parallel {request₁ request₂ : Tree} {response₁ response₂ : Option Tree}
    {callDeadline₁ callDeadline₂ : Nat} {w₁ w₂ : World μ}
    (hprogram : check.program w₁.outside = check.program w₂.outside)
    (hinterrupted : InterruptedAlike (hookAccesses limits check request₁ response₁ callDeadline₁ w₁)
      (hookAccesses limits check request₂ response₂ callDeadline₂ w₂))
    (hread : ReadAlike (hookAccesses limits check request₁ response₁ callDeadline₁ w₁)
      (hookAccesses limits check request₂ response₂ callDeadline₂ w₂)) :
    let run₁ := runHook limits check request₁ response₁ callDeadline₁ w₁
    let run₂ := runHook limits check request₂ response₂ callDeadline₂ w₂
    hookAccesses limits check request₁ response₁ callDeadline₁ w₁ =
        hookAccesses limits check request₂ response₂ callDeadline₂ w₂ ∧
      run₁.1 = run₂.1 ∧ run₁.2.1.Parallel run₂.2.1 ∧ (w₁.InTime w₂ → run₁.2.2.InTime run₂.2.2) := by
  have hstart : (startingContext limits check request₁ response₁ callDeadline₁ w₁.clock).Parallel
      (startingContext limits check request₂ response₂ callDeadline₂ w₂.clock) :=
    ⟨rfl, rfl, rfl, rfl, rfl, rfl⟩
  unfold hookAccesses runHook at *
  rw [hprogram] at hinterrupted hread ⊢
  exact HookProgram.run_parallel _ hstart w₁ w₂ hinterrupted fun _ => hread

/-- Runs that end alike are classified alike. -/
theorem verdict_parallel (before : Option String) {result₁ result₂ : Except HookError Unit}
    {ctx₁ ctx₂ : HookContext} (hresult : result₁ = result₂) (h : ctx₁.Parallel ctx₂) :
    classify before result₁ ctx₁.badAssignment ctx₁.state =
      classify before result₂ ctx₂.badAssignment ctx₂.state := by
  rw [hresult, h.badAssignment, h.state]

/-- **Nothing is read after the state is touched, and nothing depends on what else there was to read.** In a
run no read that comes after a touch is answered with a value. Two runs of a check in one state, with one
step budget, of a hook that remembers the same, that are interrupted alike and read alike before the state is touched
make the same accesses with the same answers, show the same lines, leave the same check and have the same outcome, up
to the time spent, which is the same when the same time passes in both. -/
theorem touched_state_shuts_out_call :
    (∀ request response callDeadline w,
      (hookAccesses limits check request response callDeadline w).Pairwise fun a b =>
        a.touches = true → b.call.isRead = true → ∃ e, b.answer = .error e) ∧
    ∀ (request₁ request₂ : Tree) (response₁ response₂ : Option Tree) (callDeadline₁ callDeadline₂ : Nat)
      (w₁ w₂ : World μ),
      let run₁ := hookAccesses limits check request₁ response₁ callDeadline₁ w₁.look
      let run₂ := hookAccesses limits check request₂ response₂ callDeadline₂ w₂.look
      let end₁ := runCheck limits check request₁ response₁ callDeadline₁ w₁
      let end₂ := runCheck limits check request₂ response₂ callDeadline₂ w₂
      check.program w₁.outside = check.program w₂.outside → InterruptedAlike run₁ run₂ → ReadAlike run₁ run₂ →
        run₁ = run₂ ∧
        (∃ lines, end₁.2.2.shown = w₁.shown ++ lines ∧ end₂.2.2.shown = w₂.shown ++ lines) ∧
        end₁.2.1 = end₂.2.1 ∧
        { end₁.1 with elapsed := 0 } = { end₂.1 with elapsed := 0 } ∧
        (w₁.InTime w₂ → end₁.1 = end₂.1) := by
  refine ⟨fun request response callDeadline w => HookProgram.pairwise_accesses _ _ _, ?_⟩
  intro request₁ request₂ response₁ response₂ callDeadline₁ callDeadline₂ w₁ w₂ run₁ run₂ end₁ end₂
    hprogram hinterrupted hread
  obtain ⟨haccesses, hresult, hctx, htime⟩ :=
    runHook_parallel limits check (by simpa using hprogram) hinterrupted hread
  have hverdict := verdict_parallel (startingState check).canonical.toOption hresult hctx
  have houtcome : { end₁.1 with elapsed := 0 } = { end₂.1 with elapsed := 0 } := by
    simp only [end₁, end₂, runCheck, hverdict, hctx.steps]
  refine ⟨haccesses, ⟨_, shown_runCheck limits check request₁ response₁ callDeadline₁ w₁, ?_⟩, ?_, houtcome,
    fun h => ?_⟩
  · rw [shown_runCheck]
    rw [hctx.output]
  · simp only [end₁, end₂, runCheck, hverdict]
  · have helapsed : end₁.1.elapsed = end₂.1.elapsed := by
      have hstarted := h.look.clock
      have hended := (htime h.look).clock
      simp only [end₁, end₂, runCheck, World.elapsed, World.printLines, hstarted] at hended ⊢
      rw [hended]
    calc end₁.1 = { ({ end₁.1 with elapsed := 0 } : Outcome) with elapsed := end₁.1.elapsed } := rfl
      _ = { ({ end₂.1 with elapsed := 0 } : Outcome) with elapsed := end₂.1.elapsed } := by rw [houtcome, helapsed]
      _ = end₂.1 := rfl

end

/-! ## A request that is read too late -/

/-- A check that keeps the response, then wants the request, and passes over the error. -/
def lateReader : Check Unit where
  name := "late"
  kind := .afterResponse
  program := fun _ => .response fun
    | .ok tree => .setState (.dict [("seen", tree)]) fun _ => .request fun
      | .ok _ => .fail (.script "read")
      | .error e => .print e.message .done
    | .error e => .fail e
  tags := .empty
  state := .emptyDict

/-- A run of the check against a request. -/
def lateRun (request : Tree) : Outcome × Check Unit × World Unit :=
  runCheck {} lateReader request (some (.int 7)) 1000 { outside := () }

/-- Two requests that differ leave the same outcome and the same state. -/
theorem late_reader_ignores_request :
    (lateRun (.str "a")).1 = (lateRun (.str "b")).1 ∧
      (lateRun (.str "a")).2.1.state = (lateRun (.str "b")).2.1.state ∧
      (lateRun (.str "a")).2.2.shown =
        [.printf "late: access order: cannot read request after accessing state"] := by
  have hrun : ∀ request, hookAccesses {} lateReader request (some (.int 7)) 1000 (World.look { outside := () }) =
      [⟨.response, .ok (), .ok (some (.int 7))⟩, ⟨.setState (.dict [("seen", .int 7)]), .ok (), .ok none⟩,
        ⟨.request, .ok (), .error (.accessOrder "cannot read request after accessing state")⟩] :=
    fun request => rfl
  have hinterrupted : InterruptedAlike
      (hookAccesses {} lateReader (.str "a") (some (.int 7)) 1000 (World.look { outside := () }))
      (hookAccesses {} lateReader (.str "b") (some (.int 7)) 1000 (World.look { outside := () })) := by
    simp [InterruptedAlike, hrun]
  have hread : ReadAlike
      (hookAccesses {} lateReader (.str "a") (some (.int 7)) 1000 (World.look { outside := () }))
      (hookAccesses {} lateReader (.str "b") (some (.int 7)) 1000 (World.look { outside := () })) := by
    simp [ReadAlike, beforeTouch, Access.touches, AccessCall.reachesState, hrun]
  obtain ⟨-, hshut⟩ := touched_state_shuts_out_call {} lateReader
  obtain ⟨-, -, hcheck, -, houtcome⟩ :=
    hshut (.str "a") (.str "b") (some (.int 7)) (some (.int 7)) 1000 1000 { outside := () } { outside := () } rfl
      hinterrupted hread
  exact ⟨houtcome ⟨rfl, rfl⟩, congrArg Check.state hcheck, rfl⟩

end CheckEngine

end FuzzCampaign
