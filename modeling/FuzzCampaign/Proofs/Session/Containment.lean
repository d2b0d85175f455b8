import FuzzCampaign.Proofs.Session.Effects
set_option autoImplicit false

/-! # What a session does not depend on

Checks, hooks, interactions and resets may come out one way or the other; as long as nothing disturbs it from
outside, a session takes the same course. `runs_contained` compares two sessions that were given the same
messages: turn by turn they stay abreast, so they begin the same attempts with the same campaigns and end alike,
up to whether a failure is put down to the resetter. -/

namespace FuzzCampaign

open World (Quiet)

/-- The verdict without the distinction of failures. -/
def Verdict.blurred : Verdict → Verdict
  | .failureDueToResetterError seed => .failure seed
  | verdict => verdict

/-- The end of an attempt without the distinction of failures. -/
def AttemptEnd.blurred : AttemptEnd → AttemptEnd
  | .continueWith seed => .continueWith seed
  | .concluded verdict => .concluded verdict.blurred

/-- A reset of which every message is taken ends as the lifecycle answers. -/
theorem ResetController.reset_answered {σ μ : Type} (c : ResetController) (lifecycle : Lifecycle σ μ)
    (env : EnvSnapshot) (state : σ) (w : World μ) (hopen : (c.reset lifecycle env state w).2.2.2.closed = false) :
    (c.reset lifecycle env state w).1 =
      (lifecycle.reset env (w.send resetStarted).2.look.cancelled (w.send resetStarted).2.look.clock state
        (w.send resetStarted).2.look.outside).1 := by
  unfold ResetController.reset at hopen ⊢
  unfold resetStarted
  generalize lifecycle.reset env = act at hopen ⊢
  dsimp only at hopen ⊢
  generalize hsend : w.send (.resetProgress ⟨.started, 0, []⟩) = started at hopen ⊢
  obtain ⟨e | u, w₁⟩ := started
  · rw [World.closed_of_send_error hsend] at hopen
    cases hopen
  dsimp only at hopen ⊢
  generalize act w₁.look.cancelled w₁.look.clock state w₁.look.outside = done at hopen ⊢
  obtain ⟨e | u, effects, state'⟩ := done
  · rfl
  dsimp only at hopen ⊢
  generalize hreport : (w₁.look.apply effects).send _ = reported at hopen ⊢
  obtain ⟨e | u, w₂⟩ := reported
  · rw [World.closed_of_send_error hreport] at hopen
    cases hopen
  · rfl

namespace Session

variable {σ σ₁ σ₂ μ μ₁ μ₂ : Type}

/-! ## Undisturbed sessions -/

/-- What the lifecycle answers to a reset that could be announced. -/
def resetAnswer (plan : SessionPlan σ μ) (env : EnvSnapshot) (s : Session σ μ) : Except CampaignError Unit :=
  let w := (s.world.send resetStarted).2.look
  (plan.lifecycle.reset env w.cancelled w.clock s.lifecycleState w.outside).1

/-- A turn that nothing disturbs from outside. -/
structure UndisturbedTurn (plan : SessionPlan σ μ) (env : EnvSnapshot) (a : Attempt) (s : Session σ μ) : Prop where
  /-- The session is not cancelled. -/
  uncancelled : (turn plan env a s).2.world.cancelled = false
  /-- The wait for a message does not time out: the stream ends when there is none. -/
  answered : s.inbound.items = [] → s.inbound.staysOpen = false
  /-- A call is not rejected, and all its messages are taken. -/
  calls : ∀ m a₁ s₁ call, Takes plan a s m a₁ s₁ → m.payload = .call call →
    (∃ caller, (plan.model.prepare call s₁.world.outside).1 = .ok caller) ∧
      (executeCall plan call s₁).1 ≠ .error World.writerStopped
  /-- All messages of a reset are taken, and when it fails its error is not fatal. -/
  resets : ∀ m a₁ s₁, Takes plan a s m a₁ s₁ → m.payload = .reset →
    (executeReset plan env a₁ s₁).2.world.closed = false ∧
      ∀ e, resetAnswer plan env s₁ = .error e → e.isFatal = false

/-- Nothing disturbs the turns from some point on. -/
def UndisturbedFrom (plan : SessionPlan σ μ) (env : EnvSnapshot) (a : Attempt) (s : Session σ μ) : Prop :=
  ∀ messages a' s', Turns plan env a s messages a' s' → UndisturbedTurn plan env a' s'

/-- An attempt that nothing disturbs from outside: its resetter is built, its campaign is taken, and its cleanup
succeeds. -/
structure UndisturbedAttempt (plan : SessionPlan σ μ) (seed : List UInt8) (start : Session σ μ) : Prop where
  built : (plan.lifecycle.build start.lifecycleState start.world.outside).1 = .ok ()
  announced : (announce plan seed start).1 = .ok ()
  turns : UndisturbedFrom plan (campaign plan seed start).env {} (announce plan seed start).2
  released : (release plan (driven plan seed start).2).1 = .ok ()
  flushed : (flush plan (release plan (driven plan seed start).2).2).1 = .ok ()

/-- A session that nothing disturbs from outside, when it begins with a seed. -/
def Undisturbed (plan : SessionPlan σ μ) (seed : List UInt8) (s : Session σ μ) : Prop :=
  ∀ seed' start, Begins plan seed s seed' start → UndisturbedAttempt plan seed' start

section
variable {plan : SessionPlan σ μ} {env : EnvSnapshot} {a a' : Attempt} {s s' : Session σ μ}

theorem receive_undisturbed (timeout : Nat) (hcancelled : s.world.look.cancelled = false)
    (hanswered : s.inbound.items = [] → s.inbound.staysOpen = false) :
    s.receive timeout = (s.inbound.items.head?.getD (.error streamClosed),
      { s with world := s.world.look, inbound := { s.inbound with items := s.inbound.items.tail } }) := by
  unfold receive
  simp only [hcancelled, Bool.false_eq_true, if_false]
  obtain ⟨engine, world, ⟨_ | ⟨item, rest⟩, staysOpen⟩, state, entered, attempts, flushes⟩ := s
  · obtain rfl : staysOpen = false := hanswered rfl
    rfl
  · rfl

/-- A wait that is neither cancelled nor without an answer takes what comes next. -/
theorem await_undisturbed (h : UndisturbedTurn plan env a s) :
    await plan s = (s.inbound.items.head?.getD (.error streamClosed),
      { s.enter .awaitDirective with
        world := s.world.look
        inbound := { s.inbound with items := s.inbound.items.tail } }) := by
  refine receive_undisturbed (s := s.enter .awaitDirective) plan.options.replyTimeout ?_ h.answered
  by_contra hcancelled
  rw [Bool.not_eq_false] at hcancelled
  -- a cancelled wait ends the turn in cancelled surroundings
  have hawait : await plan s = (.error receiveCancelled, { s.enter .awaitDirective with world := s.world.look }) :=
    if_pos hcancelled
  have huncancelled := h.uncancelled
  simp only [turn, hawait] at huncancelled
  rw [enter] at hcancelled
  rw [hcancelled] at huncancelled
  cases huncancelled

theorem executeCall_undisturbed {a₁ : Attempt} {s₁ : Session σ μ} {m : ServerMessage} {call : Call}
    (h : UndisturbedTurn plan env a s) (htakes : Takes plan a s m a₁ s₁) (hm : m.payload = .call call) :
    (executeCall plan call s₁).1 = .ok () := by
  obtain ⟨⟨caller, hprepare⟩, htaken⟩ := h.calls m a₁ s₁ call htakes hm
  have huncancelled := h.uncancelled
  rw [htakes.turn_eq, hm, dispatch] at huncancelled
  cases hexecute : (executeCall plan call s₁).1 with
  | ok u => rfl
  | error e =>
    have herror : (CallExecution.execute plan.model plan.options.callBudget call s₁.engine s₁.world).1 = .error e := by
      cases hresult : (CallExecution.execute plan.model plan.options.callBudget call s₁.engine s₁.world).1 with
      | error e' =>
        simp only [executeCall, enter, hresult] at hexecute
        cases hexecute
        rfl
      | ok verdict =>
        simp only [executeCall, enter, hresult] at hexecute
        cases hexecute
    rcases CallExecution.execute_error _ _ _ _ _ hprepare herror with rfl | hcancelled
    · exact absurd hexecute htaken
    · -- the call ends the turn in cancelled surroundings
      have hworld : (executeCall plan call s₁).2.world.cancelled = true := hcancelled
      rcases hcall : executeCall plan call s₁ with ⟨e' | u, s'⟩
      · rw [hcall] at hworld huncancelled
        rw [huncancelled] at hworld
        cases hworld
      · rw [hcall] at hexecute
        cases hexecute

theorem executeReset_undisturbed {a₁ : Attempt} {s₁ : Session σ μ} {m : ServerMessage}
    (h : UndisturbedTurn plan env a s) (htakes : Takes plan a s m a₁ s₁) (hm : m.payload = .reset) :
    ∃ controller, (executeReset plan env a₁ s₁).1 = .ok { a₁ with controller } := by
  obtain ⟨hopen, hnot⟩ := h.resets m a₁ s₁ htakes hm
  rw [executeReset_session] at hopen
  have hanswer := a₁.controller.reset_answered plan.lifecycle env s₁.lifecycleState s₁.world hopen
  have hnot' : ∀ e, (a₁.controller.reset plan.lifecycle env s₁.lifecycleState s₁.world).1 = .error e →
      e.isFatal = false := fun e he => hnot e (hanswer.symm.trans he)
  unfold executeReset
  dsimp only [enter]
  generalize a₁.controller.reset plan.lifecycle env s₁.lifecycleState s₁.world = done at hnot' ⊢
  obtain ⟨e | u, controller, state, w⟩ := done
  · exact ⟨controller, by simp [hnot' e rfl]⟩
  · exact ⟨controller, rfl⟩

end

/-! ## One turn of two sessions -/

/-- Two sessions that took the same messages and entered the same states in as many attempts. -/
structure Abreast (s₁ : Session σ₁ μ₁) (s₂ : Session σ₂ μ₂) : Prop where
  inbound : s₁.inbound = s₂.inbound
  entered : s₁.entered = s₂.entered
  attempts : s₁.attempts = s₂.attempts

theorem Abreast.symm {s₁ : Session σ₁ μ₁} {s₂ : Session σ₂ μ₂} (h : Abreast s₁ s₂) : Abreast s₂ s₁ :=
  ⟨h.inbound.symm, h.entered.symm, h.attempts.symm⟩

/-- Two turns with the same end, up to what failures are put down to; attempts that go on have the same
counters. -/
inductive TurnEnd.Alike : TurnEnd → TurnEnd → Prop where
  | ended {result₁ result₂ : Except CampaignError AttemptEnd} :
      result₁.map AttemptEnd.blurred = result₂.map AttemptEnd.blurred → Alike (.ended result₁) (.ended result₂)
  | goesOn {a₁ a₂ : Attempt} : a₁.progress = a₂.progress → Alike (.goesOn a₁) (.goesOn a₂)

/-- Failed resets only blur a verdict. -/
theorem conclude_blurred (result : FuzzingResult) (hadResetError hadResetError' : Bool) :
    (conclude result hadResetError).blurred = (conclude result hadResetError').blurred := by
  unfold conclude
  cases result.nextSeed with
  | some seed => rfl
  | none =>
    dsimp only [AttemptEnd.blurred]
    cases result.success <;> cases result.willShrink <;> cases hadResetError <;> cases hadResetError' <;> rfl

theorem state_blurred (ending : AttemptEnd) : AttemptEnd.state ending.blurred = AttemptEnd.state ending := by
  cases ending <;> rfl

theorem statesOf_alike (a₁ a₂ : Attempt) (payload : ServerPayload) : statesOf a₁ payload = statesOf a₂ payload := by
  cases payload with
  | fuzzingReport | call | reset => rfl
  | fuzzingResult result =>
    rw [statesOf, statesOf, ← state_blurred, conclude_blurred result _ a₂.controller.hadResetError, state_blurred]

section
variable {plan₁ : SessionPlan σ₁ μ₁} {plan₂ : SessionPlan σ₂ μ₂} {env : EnvSnapshot} {a₁ b₁ a₂ b₂ : Attempt}
  {s₁ t₁ : Session σ₁ μ₁} {s₂ t₂ : Session σ₂ μ₂} {m : ServerMessage}

/-- What a message asks for ends alike. -/
theorem dispatch_alike (h₁ : UndisturbedTurn plan₁ env a₁ s₁) (h₂ : UndisturbedTurn plan₂ env a₂ s₂)
    (htakes₁ : Takes plan₁ a₁ s₁ m b₁ t₁) (htakes₂ : Takes plan₂ a₂ s₂ m b₂ t₂)
    (hprogress : b₁.progress = b₂.progress) (habreast : Abreast t₁ t₂) :
    TurnEnd.Alike (dispatch plan₁ env b₁ t₁ m.payload).1 (dispatch plan₂ env b₂ t₂ m.payload).1 ∧
      Abreast (dispatch plan₁ env b₁ t₁ m.payload).2 (dispatch plan₂ env b₂ t₂ m.payload).2 := by
  constructor
  · cases hm : m.payload with
    | fuzzingReport report => exact .goesOn hprogress
    | call call =>
      have hcall₁ := executeCall_undisturbed h₁ htakes₁ hm
      have hcall₂ := executeCall_undisturbed h₂ htakes₂ hm
      rw [dispatch, dispatch]
      generalize executeCall plan₁ call t₁ = executed₁ at hcall₁ ⊢
      generalize executeCall plan₂ call t₂ = executed₂ at hcall₂ ⊢
      obtain ⟨_, u₁⟩ := executed₁
      obtain ⟨_, u₂⟩ := executed₂
      cases hcall₁
      cases hcall₂
      exact .goesOn hprogress
    | reset =>
      obtain ⟨controller₁, hreset₁⟩ := executeReset_undisturbed h₁ htakes₁ hm
      obtain ⟨controller₂, hreset₂⟩ := executeReset_undisturbed h₂ htakes₂ hm
      rw [dispatch, dispatch]
      generalize executeReset plan₁ env b₁ t₁ = executed₁ at hreset₁ ⊢
      generalize executeReset plan₂ env b₂ t₂ = executed₂ at hreset₂ ⊢
      obtain ⟨_, u₁⟩ := executed₁
      obtain ⟨_, u₂⟩ := executed₂
      cases hreset₁
      cases hreset₂
      exact .goesOn hprogress
    | fuzzingResult result =>
      exact .ended (congrArg Except.ok (conclude_blurred result _ _))
  · obtain ⟨hinbound₁, hattempts₁, hentered₁⟩ := dispatch_keeps plan₁ env b₁ t₁ m.payload
    obtain ⟨hinbound₂, hattempts₂, hentered₂⟩ := dispatch_keeps plan₂ env b₂ t₂ m.payload
    constructor
    · rw [hinbound₁, hinbound₂, habreast.inbound]
    · rw [hentered₁, hentered₂, habreast.entered, statesOf_alike b₁ b₂]
    · rw [hattempts₁, hattempts₂, habreast.attempts]

theorem await_alike (h₁ : UndisturbedTurn plan₁ env a₁ s₁) (h₂ : UndisturbedTurn plan₂ env a₂ s₂)
    (habreast : Abreast s₁ s₂) :
    ∃ answer t₁ t₂, await plan₁ s₁ = (answer, t₁) ∧ await plan₂ s₂ = (answer, t₂) ∧ Abreast t₁ t₂ := by
  have hawait₂ := await_undisturbed h₂
  rw [← habreast.inbound] at hawait₂
  refine ⟨_, _, _, await_undisturbed h₁, hawait₂, rfl, ?_, habreast.attempts⟩
  simp only [enter, habreast.entered]

theorem takeProgress_alike (update : Option Progress) (hprogress : a₁.progress = a₂.progress)
    (habreast : Abreast s₁ s₂) :
    (∃ e, takeProgress update a₁ s₁ = (.error e, s₁) ∧ takeProgress update a₂ s₂ = (.error e, s₂)) ∨
      ∃ b₁ t₁ b₂ t₂, takeProgress update a₁ s₁ = (.ok b₁, t₁) ∧ takeProgress update a₂ s₂ = (.ok b₂, t₂) ∧
        b₁.progress = b₂.progress ∧ Abreast t₁ t₂ := by
  cases update with
  | none => exact Or.inr ⟨a₁, s₁, a₂, s₂, rfl, rfl, hprogress, habreast⟩
  | some update =>
    simp only [takeProgress, ← hprogress]
    cases a₁.progress.apply update with
    | error e => exact Or.inl ⟨e, rfl, rfl⟩
    | ok progress =>
      exact Or.inr ⟨_, _, _, _, rfl, rfl, rfl, habreast.inbound, habreast.entered, habreast.attempts⟩

/-- Two undisturbed turns end alike. -/
theorem turn_alike (h₁ : UndisturbedTurn plan₁ env a₁ s₁) (h₂ : UndisturbedTurn plan₂ env a₂ s₂)
    (hprogress : a₁.progress = a₂.progress) (habreast : Abreast s₁ s₂) :
    TurnEnd.Alike (turn plan₁ env a₁ s₁).1 (turn plan₂ env a₂ s₂).1 ∧
      Abreast (turn plan₁ env a₁ s₁).2 (turn plan₂ env a₂ s₂).2 := by
  obtain ⟨e | m, t₁, t₂, hawait₁, hawait₂, hwaited⟩ := await_alike h₁ h₂ habreast
  · simp only [turn, hawait₁, hawait₂]
    exact ⟨.ended rfl, hwaited⟩
  rcases takeProgress_alike m.progress hprogress hwaited with ⟨e, htake₁, htake₂⟩ |
    ⟨b₁, r₁, b₂, r₂, htake₁, htake₂, hkept, htaken⟩
  · simp only [turn, hawait₁, hawait₂, htake₁, htake₂]
    exact ⟨.ended rfl, hwaited⟩
  · have htakes₁ : Takes plan₁ a₁ s₁ m b₁ r₁ := ⟨t₁, hawait₁, htake₁⟩
    have htakes₂ : Takes plan₂ a₂ s₂ m b₂ r₂ := ⟨t₂, hawait₂, htake₂⟩
    rw [htakes₁.turn_eq, htakes₂.turn_eq]
    exact dispatch_alike h₁ h₂ htakes₁ htakes₂ hkept htaken

/-! ## One attempt of two sessions -/

/-- Nothing disturbs what comes after a turn. -/
theorem UndisturbedFrom.after {plan : SessionPlan σ μ} {a a' : Attempt} {s s' : Session σ μ}
    (h : UndisturbedFrom plan env a s) (hturn : turn plan env a s = (.goesOn a', s')) :
    UndisturbedFrom plan env a' s' := by
  obtain ⟨m, b, t, htakes, hdispatch⟩ := takes_of_goesOn hturn
  exact fun messages a'' s'' hturns => h _ _ _ (.cons htakes hdispatch hturns)

/-- Undisturbed turns end alike, however many there are. -/
theorem follow_alike (fuel : Nat) (h₁ : UndisturbedFrom plan₁ env a₁ s₁) (h₂ : UndisturbedFrom plan₂ env a₂ s₂)
    (hprogress : a₁.progress = a₂.progress) (habreast : Abreast s₁ s₂) :
    (follow plan₁ env fuel a₁ s₁).1.map AttemptEnd.blurred =
        (follow plan₂ env fuel a₂ s₂).1.map AttemptEnd.blurred ∧
      Abreast (follow plan₁ env fuel a₁ s₁).2 (follow plan₂ env fuel a₂ s₂).2 := by
  induction fuel generalizing a₁ s₁ a₂ s₂ with
  | zero => exact ⟨rfl, habreast⟩
  | succ fuel ih =>
    obtain ⟨hends, hleft⟩ := turn_alike (h₁ _ _ _ .nil) (h₂ _ _ _ .nil) hprogress habreast
    rw [follow_succ, follow_succ]
    rcases hturn₁ : turn plan₁ env a₁ s₁ with ⟨end₁, t₁⟩
    rcases hturn₂ : turn plan₂ env a₂ s₂ with ⟨end₂, t₂⟩
    rw [hturn₁, hturn₂] at hends hleft
    cases hends with
    | ended hresult => exact ⟨hresult, hleft⟩
    | goesOn hkept => exact ih (h₁.after hturn₁) (h₂.after hturn₂) hkept hleft

end

/-- The resetters of two attempts describe themselves alike. -/
def DescribedAlike (plan₁ : SessionPlan σ₁ μ₁) (start₁ : Session σ₁ μ₁) (plan₂ : SessionPlan σ₂ μ₂)
    (start₂ : Session σ₂ μ₂) : Prop :=
  plan₁.lifecycle.descriptor (equipped plan₁ start₁).lifecycleState =
    plan₂.lifecycle.descriptor (equipped plan₂ start₂).lifecycleState

section
variable {plan₁ : SessionPlan σ₁ μ₁} {plan₂ : SessionPlan σ₂ μ₂} {seed : List UInt8} {s₁ start₁ : Session σ₁ μ₁}
  {s₂ start₂ : Session σ₂ μ₂}

theorem campaign_alike (hdescriptor : plan₁.descriptor = plan₂.descriptor)
    (hdescribed : DescribedAlike plan₁ start₁ plan₂ start₂) :
    campaign plan₁ seed start₁ = campaign plan₂ seed start₂ := by
  rw [campaign, campaign, hdescriptor, hdescribed]

theorem abreast_announce (habreast : Abreast start₁ start₂) :
    Abreast (announce plan₁ seed start₁).2 (announce plan₂ seed start₂).2 where
  inbound := habreast.inbound
  entered := congrArg (· ++ [SessionState.init]) habreast.entered
  attempts := habreast.attempts

/-- What two undisturbed attempts come to before their cleanup. -/
theorem driven_alike (hdescriptor : plan₁.descriptor = plan₂.descriptor)
    (h₁ : UndisturbedAttempt plan₁ seed start₁) (h₂ : UndisturbedAttempt plan₂ seed start₂)
    (habreast : Abreast start₁ start₂) :
    (driven plan₁ seed start₁).1.map AttemptEnd.blurred = (driven plan₂ seed start₂).1.map AttemptEnd.blurred ∧
      Abreast (driven plan₁ seed start₁).2 (driven plan₂ seed start₂).2 := by
  have henv : (campaign plan₁ seed start₁).env = (campaign plan₂ seed start₂).env := by
    change plan₁.descriptor.env = plan₂.descriptor.env
    rw [hdescriptor]
  have hturns₂ := h₂.turns
  have hopened : Abreast (announce plan₁ seed start₁).2 (announce plan₂ seed start₂).2 := abreast_announce habreast
  rw [driven_announced h₁.announced, driven_announced h₂.announced]
  rw [← henv] at hturns₂ ⊢
  rw [← hopened.inbound]
  exact follow_alike _ h₁.turns hturns₂ rfl hopened

/-- A cleanup that succeeds leaves what an attempt came to itself. -/
theorem attempt_undisturbed {plan : SessionPlan σ μ} {start : Session σ μ} (h : UndisturbedAttempt plan seed start) :
    attempt plan seed start =
      ((driven plan seed start).1, (flush plan (release plan (driven plan seed start).2).2).2) := by
  rw [attempt_equipped seed h.built, h.released, h.flushed]
  cases (driven plan seed start).1 <;> rfl

/-- Two undisturbed attempts end alike. -/
theorem attempt_alike (hdescriptor : plan₁.descriptor = plan₂.descriptor)
    (h₁ : UndisturbedAttempt plan₁ seed start₁) (h₂ : UndisturbedAttempt plan₂ seed start₂)
    (habreast : Abreast start₁ start₂) :
    (attempt plan₁ seed start₁).1.map AttemptEnd.blurred = (attempt plan₂ seed start₂).1.map AttemptEnd.blurred ∧
      Abreast (attempt plan₁ seed start₁).2 (attempt plan₂ seed start₂).2 := by
  obtain ⟨hends, hinbound, hentered, hattempts⟩ := driven_alike hdescriptor h₁ h₂ habreast
  rw [attempt_undisturbed h₁, attempt_undisturbed h₂]
  exact ⟨hends, hinbound, hentered, hattempts⟩

end

/-! ## The campaigns that are announced -/

/-- The campaign that a message announces. -/
def campaign? : ClientMessage → Option CampaignDescriptor
  | .campaign descriptor => some descriptor
  | .callResponseRaw _ | .callResponseVerified _ | .checkProgress _ | .resetProgress _ => none

/-- The campaigns that were announced from `w` to `w'`. -/
def campaignsSince (w w' : World μ) : List CampaignDescriptor :=
  (w'.sent.drop w.sent.length).filterMap campaign?

section
variable {plan : SessionPlan σ μ} {env : EnvSnapshot}

theorem quiet_turn (a : Attempt) (s : Session σ μ) : Quiet (fun _ => True) s.world (turn plan env a s).2.world := by
  have hawaited : Quiet (fun _ => True) _ _ := quiet_await plan s
  unfold turn
  generalize await plan s = awaited at hawaited ⊢
  obtain ⟨e | m, s₁⟩ := awaited
  · exact hawaited
  dsimp only at hawaited ⊢
  have htaken : Quiet (fun _ => True) s₁.world (takeProgress m.progress a s₁).2.world := by
    unfold takeProgress
    cases m.progress with
    | none => exact .refl _
    | some update =>
      dsimp only
      cases a.progress.apply update with
      | error e => exact .refl _
      | ok progress => exact World.quiet_shown rfl rfl fun _ _ => trivial
  generalize takeProgress m.progress a s₁ = taken at htaken ⊢
  obtain ⟨e | a₁, s₂⟩ := taken
  · exact hawaited.trans htaken
  · exact (hawaited.trans htaken).trans ((quiet_dispatch plan env a₁ s₂ m.payload).mono fun _ _ => trivial)

theorem quiet_follow (fuel : Nat) (a : Attempt) (s : Session σ μ) :
    Quiet (fun _ => True) s.world (follow plan env fuel a s).2.world := by
  induction fuel generalizing a s with
  | zero => exact .refl _
  | succ fuel ih =>
    have hturn : Quiet _ _ (turn plan env a s).2.world := quiet_turn a s
    rw [follow_succ]
    generalize turn plan env a s = turned at hturn ⊢
    obtain ⟨result | a', s'⟩ := turned
    · exact hturn
    · exact hturn.trans (ih a' s')

/-- An undisturbed attempt announces its campaign and no other. -/
theorem campaignsSince_attempt {seed : List UInt8} {start : Session σ μ} (h : UndisturbedAttempt plan seed start) :
    campaignsSince start.world (attempt plan seed start).2.world = [campaign plan seed start] := by
  have hquiet : Quiet (fun _ => True) (announce plan seed start).2.world (attempt plan seed start).2.world := by
    rw [attempt_undisturbed h, driven_announced h.announced]
    exact (quiet_follow _ _ _).trans (((quiet_release plan _).mono fun _ _ => trivial).trans (quiet_flush plan _))
  obtain ⟨messages, hsent, hmessages⟩ := hquiet.sent
  have hannounced : (announce plan seed start).2.world.sent =
      start.world.sent ++ [.campaign (campaign plan seed start)] := by
    have hequipped : (equipped plan start).world.sent = start.world.sent := rfl
    obtain ⟨w, ⟨hsend, -⟩ | ⟨hsend, hqueued⟩⟩ :=
      World.send_cases (equipped plan start).world (.campaign (campaign plan seed start))
    · have hok := h.announced
      simp only [announce, send, enter, hsend] at hok
      cases hok
    · simpa only [announce, send, enter, hsend, hequipped] using hqueued.sent
  have hnone : messages.filterMap campaign? = [] := by
    rw [List.filterMap_eq_nil_iff]
    intro m hm
    cases m with
    | campaign d => exact absurd hm (hmessages d)
    | callResponseRaw | callResponseVerified | checkProgress | resetProgress => rfl
  rw [campaignsSince, hsent, hannounced, List.append_assoc, List.drop_left, List.filterMap_append, hnone,
    List.append_nil]
  rfl

end

/-! ## Two sessions -/

section
variable (plan₁ : SessionPlan σ₁ μ₁) (s₁ : Session σ₁ μ₁) (plan₂ : SessionPlan σ₂ μ₂) (s₂ : Session σ₂ μ₂)

/-- Every attempt of the first session is one of the second as well: with the same number and the same seed, after
the same messages and states, and announcing the same campaigns. -/
def AttemptsFollow : Prop :=
  ∀ seed start₁, Begins plan₁ plan₁.descriptor.seed s₁ seed start₁ →
    ∃ start₂, Begins plan₂ plan₂.descriptor.seed s₂ seed start₂ ∧ Abreast start₁ start₂ ∧
      Abreast (attempt plan₁ seed start₁).2 (attempt plan₂ seed start₂).2 ∧
      campaignsSince start₁.world (attempt plan₁ seed start₁).2.world =
        campaignsSince start₂.world (attempt plan₂ seed start₂).2.world

/-- Two sessions that cannot be told apart, but for what failures are put down to. -/
structure Contained : Prop where
  /-- They took the same messages and entered the same states in as many attempts. -/
  abreast : Abreast (run plan₁ s₁).2 (run plan₂ s₂).2
  /-- They come to the same error, or to the same verdict up to what a failure is put down to. -/
  outcome : (run plan₁ s₁).1.map Verdict.blurred = (run plan₂ s₂).1.map Verdict.blurred
  attempts : AttemptsFollow plan₁ s₁ plan₂ s₂
  attempts' : AttemptsFollow plan₂ s₂ plan₁ s₁

end

section
variable {plan₁ : SessionPlan σ₁ μ₁} {plan₂ : SessionPlan σ₂ μ₂} {seed : List UInt8} {s₁ start₁ : Session σ₁ μ₁}
  {s₂ start₂ : Session σ₂ μ₂}

/-- The next attempts of two sessions. -/
theorem Undisturbed.later {plan : SessionPlan σ μ} {next : List UInt8} {s stop : Session σ μ}
    (h : Undisturbed plan seed s) (hroom : s.attempts < plan.options.maxAttempts)
    (hattempt : attempt plan seed (counted s) = (.ok (.continueWith next), stop)) : Undisturbed plan next stop :=
  fun _ _ hbegins => h _ _ (.later hroom hattempt hbegins)

theorem abreast_counted (habreast : Abreast s₁ s₂) : Abreast (counted s₁) (counted s₂) where
  inbound := habreast.inbound
  entered := habreast.entered
  attempts := congrArg (· + 1) habreast.attempts

/-- Attempts that end alike end with the same error, ask for the same next one or conclude alike. -/
theorem ends_of_blurred {result₁ result₂ : Except CampaignError AttemptEnd}
    (h : result₁.map AttemptEnd.blurred = result₂.map AttemptEnd.blurred) :
    (∃ e, result₁ = .error e ∧ result₂ = .error e) ∨
      (∃ next, result₁ = .ok (.continueWith next) ∧ result₂ = .ok (.continueWith next)) ∨
      ∃ verdict₁ verdict₂, result₁ = .ok (.concluded verdict₁) ∧ result₂ = .ok (.concluded verdict₂) ∧
        verdict₁.blurred = verdict₂.blurred := by
  rcases result₁ with e₁ | next₁ | verdict₁ <;> rcases result₂ with e₂ | next₂ | verdict₂
  all_goals
    simp only [Except.map, AttemptEnd.blurred, Except.ok.injEq, Except.error.injEq, AttemptEnd.continueWith.injEq,
      AttemptEnd.concluded.injEq, reduceCtorEq] at h
  · exact Or.inl ⟨e₁, rfl, by rw [h]⟩
  · exact Or.inr (Or.inl ⟨next₁, rfl, by rw [h]⟩)
  · exact Or.inr (Or.inr ⟨verdict₁, verdict₂, rfl, rfl, h⟩)

/-- Undisturbed sessions end alike, however many attempts there are. -/
theorem runAttempts_alike (fuel : Nat) (hoptions : plan₁.options = plan₂.options)
    (hdescriptor : plan₁.descriptor = plan₂.descriptor) (h₁ : Undisturbed plan₁ seed s₁)
    (h₂ : Undisturbed plan₂ seed s₂) (habreast : Abreast s₁ s₂)
    (hfuel : plan₁.options.maxAttempts - s₁.attempts = fuel) :
    (runAttempts plan₁ fuel seed s₁).1.map Verdict.blurred = (runAttempts plan₂ fuel seed s₂).1.map Verdict.blurred ∧
      Abreast (runAttempts plan₁ fuel seed s₁).2 (runAttempts plan₂ fuel seed s₂).2 := by
  induction fuel generalizing seed s₁ s₂ with
  | zero =>
    rw [runAttempts, runAttempts, hoptions]
    exact ⟨rfl, habreast⟩
  | succ fuel ih =>
    have hroom₁ : s₁.attempts < plan₁.options.maxAttempts := by omega
    have hroom₂ : s₂.attempts < plan₂.options.maxAttempts := by
      rw [← habreast.attempts, ← hoptions]
      exact hroom₁
    obtain ⟨hends, hleft⟩ := attempt_alike hdescriptor (h₁ _ _ (.first hroom₁)) (h₂ _ _ (.first hroom₂))
      (abreast_counted habreast)
    have hattempts := attempt_attempts plan₁ seed (counted s₁)
    rw [runAttempts, runAttempts, ← counted, ← counted]
    rcases hattempt₁ : attempt plan₁ seed (counted s₁) with ⟨result₁, stop₁⟩
    rcases hattempt₂ : attempt plan₂ seed (counted s₂) with ⟨result₂, stop₂⟩
    rw [hattempt₁, hattempt₂] at hends hleft
    rw [hattempt₁] at hattempts
    rcases ends_of_blurred hends with ⟨e, rfl, rfl⟩ | ⟨next, rfl, rfl⟩ | ⟨verdict₁, verdict₂, rfl, rfl, hverdict⟩
    · exact ⟨rfl, hleft⟩
    · refine ih (h₁.later hroom₁ hattempt₁) (h₂.later hroom₂ hattempt₂) hleft ?_
      simp only [counted] at hattempts
      omega
    · exact ⟨congrArg Except.ok hverdict, hleft⟩

/-- Every attempt of an undisturbed session has its like in the other. -/
theorem begins_alike (hoptions : plan₁.options = plan₂.options) (hdescriptor : plan₁.descriptor = plan₂.descriptor)
    {seed' : List UInt8} (hbegins : Begins plan₁ seed s₁ seed' start₁) (h₁ : Undisturbed plan₁ seed s₁)
    (h₂ : Undisturbed plan₂ seed s₂) (habreast : Abreast s₁ s₂) :
    ∃ start₂, Begins plan₂ seed s₂ seed' start₂ ∧ Abreast start₁ start₂ := by
  induction hbegins generalizing s₂ with
  | first hroom =>
    refine ⟨counted s₂, .first ?_, abreast_counted habreast⟩
    rw [← habreast.attempts, ← hoptions]
    exact hroom
  | @later seed next seed' s stop start hroom hattempt hlater ih =>
    have hroom₂ : s₂.attempts < plan₂.options.maxAttempts := by
      rw [← habreast.attempts, ← hoptions]
      exact hroom
    obtain ⟨hends, hleft⟩ := attempt_alike hdescriptor (h₁ _ _ (.first hroom)) (h₂ _ _ (.first hroom₂))
      (abreast_counted habreast)
    rcases hattempt₂ : attempt plan₂ seed (counted s₂) with ⟨result₂, stop₂⟩
    rw [hattempt, hattempt₂] at hends hleft
    obtain rfl : result₂ = .ok (.continueWith next) := by
      rcases ends_of_blurred hends with ⟨e, h, -⟩ | ⟨next', h, h'⟩ | ⟨v, v', h, -⟩
      · cases h
      · cases h
        exact h'
      · cases h
    obtain ⟨start₂, hbegins₂, hstarts⟩ := ih (h₁.later hroom hattempt) (h₂.later hroom₂ hattempt₂) hleft
    exact ⟨start₂, .later hroom₂ hattempt₂ hbegins₂, hstarts⟩

/-- One direction of the comparison of attempts. -/
theorem attempts_follow (hoptions : plan₁.options = plan₂.options) (hdescriptor : plan₁.descriptor = plan₂.descriptor)
    (h₁ : Undisturbed plan₁ plan₁.descriptor.seed s₁) (h₂ : Undisturbed plan₂ plan₂.descriptor.seed s₂)
    (habreast : Abreast s₁ s₂)
    (hdescribed : ∀ seed start₁ start₂, Begins plan₁ plan₁.descriptor.seed s₁ seed start₁ →
      Begins plan₂ plan₂.descriptor.seed s₂ seed start₂ → start₁.attempts = start₂.attempts →
      DescribedAlike plan₁ start₁ plan₂ start₂) :
    AttemptsFollow plan₁ s₁ plan₂ s₂ := by
  intro seed start₁ hbegins₁
  have h₂' := h₂
  rw [← hdescriptor] at h₂'
  obtain ⟨start₂, hbegins₂, hstarts⟩ := begins_alike hoptions hdescriptor hbegins₁ h₁ h₂' habreast
  rw [hdescriptor] at hbegins₂
  have hundisturbed₁ := h₁ _ _ hbegins₁
  have hundisturbed₂ := h₂ _ _ hbegins₂
  refine ⟨start₂, hbegins₂, hstarts, (attempt_alike hdescriptor hundisturbed₁ hundisturbed₂ hstarts).2, ?_⟩
  rw [campaignsSince_attempt hundisturbed₁, campaignsSince_attempt hundisturbed₂,
    campaign_alike hdescriptor (hdescribed _ _ _ hbegins₁ hbegins₂ hstarts.attempts)]

/-- **Checks, hooks, interactions and resets are contained.** Two sessions with the same options, descriptor and
messages that nothing disturbs from outside, whatever their engines, models, hooks and lifecycles, take the same
messages, enter the same states, announce the same campaigns in the same attempts and come to the same error or to
the same verdict, up to what a failure is put down to. -/
theorem runs_contained (hoptions : plan₁.options = plan₂.options) (hdescriptor : plan₁.descriptor = plan₂.descriptor)
    (habreast : Abreast s₁ s₂) (h₁ : Undisturbed plan₁ plan₁.descriptor.seed s₁)
    (h₂ : Undisturbed plan₂ plan₂.descriptor.seed s₂)
    (hdescribed : ∀ seed start₁ start₂, Begins plan₁ plan₁.descriptor.seed s₁ seed start₁ →
      Begins plan₂ plan₂.descriptor.seed s₂ seed start₂ → start₁.attempts = start₂.attempts →
      DescribedAlike plan₁ start₁ plan₂ start₂) :
    Contained plan₁ s₁ plan₂ s₂ := by
  have h₂' := h₂
  rw [← hdescriptor] at h₂'
  obtain ⟨houtcome, hleft⟩ := runAttempts_alike _ hoptions hdescriptor h₁ h₂' habreast rfl
  have hrun : run plan₂ s₂ =
      runAttempts plan₂ (plan₁.options.maxAttempts - s₁.attempts) plan₁.descriptor.seed s₂ := by
    rw [run, hoptions, hdescriptor, habreast.attempts]
  rw [← hrun] at houtcome hleft
  exact {
    abreast := hleft
    outcome := houtcome
    attempts := attempts_follow hoptions hdescriptor h₁ h₂ habreast hdescribed
    attempts' := attempts_follow hoptions.symm hdescriptor.symm h₂ h₁ habreast.symm
      fun seed start₂ start₁ hbegins₂ hbegins₁ hnumber =>
        (hdescribed seed start₁ start₂ hbegins₁ hbegins₂ hnumber.symm).symm }

end

/-! ## A broken system under test -/

/-- Nothing disturbs a turn, nor what comes after it. -/
theorem undisturbedFrom_of_turn {plan : SessionPlan σ μ} {env : EnvSnapshot} {a : Attempt} {s : Session σ μ}
    (h : UndisturbedTurn plan env a s)
    (hnext : ∀ a' s', turn plan env a s = (.goesOn a', s') → UndisturbedFrom plan env a' s') :
    UndisturbedFrom plan env a s := by
  intro messages a' s' hturns
  cases hturns with
  | nil => exact h
  | cons htakes hdispatch hrest => exact hnext _ _ (htakes.turn_eq.trans hdispatch) _ _ _ hrest

theorem Takes.head {plan : SessionPlan σ μ} {a a₁ : Attempt} {s s₁ : Session σ μ} {m : ServerMessage}
    (h : Takes plan a s m a₁ s₁) : s.inbound.items.head? = some (.ok m) := by
  rw [h.items, List.head?_cons]

/-- A campaign whose resets succeed, and with them the check of its calls. When it is broken, a reset fails and leaves
the system down, and then the check panics. -/
def brittlePlan (broken : Bool) : SessionPlan Unit Bool :=
  { unheardPlan with
    model :=
      { prepare := fun _ down =>
          (.ok
            { request := .emptyDict
              invoke := fun _ down =>
                { effects := { outside := down }, raw := .null, response := none
                  checks := [⟨"status", fun down => (if down then none else some [], { outside := down })⟩] } },
            { outside := down }) }
    lifecycle :=
      { Lifecycle.noop with
        reset := fun _ _ _ s _ =>
          (if broken then .error (.phase "reset" "script failed") else .ok (), { outside := broken }, s) } }

/-- A reset, a call and a failure. -/
def brittleSession : Session Unit Bool :=
  { engine := { filter := ⟨.empty, .empty⟩, limits := {} }
    world := { outside := false }
    lifecycleState := ()
    inbound := ⟨[.ok ⟨none, .reset⟩, .ok ⟨none, .call ⟨1, .null⟩⟩,
      .ok ⟨none, .fuzzingResult { success := false, reproductionSeed := [7] }⟩], false⟩ }

/-- The session as it waits for its first message. -/
def brittleStart (broken : Bool) : Session Unit Bool := (announce (brittlePlan broken) [1] (counted brittleSession)).2

/-- The session after its reset. -/
def brittleReset (broken : Bool) : Session Unit Bool :=
  { brittleSession with
    attempts := 1
    entered := [.init, .awaitDirective, .executingReset]
    inbound := { brittleSession.inbound with items := brittleSession.inbound.items.tail }
    world :=
      { sent := [.campaign unheardPlan.descriptor, resetStarted,
          .resetProgress (if broken then ⟨.failed, 0, (CampaignError.phase "reset" "script failed").reasonLines⟩
            else ⟨.ended, 0, []⟩)]
        outside := broken } }

theorem turn_brittleStart (broken : Bool) :
    turn (brittlePlan broken) unheardPlan.descriptor.env {} (brittleStart broken) =
      (.goesOn ⟨⟨1, if broken then 1 else 0⟩, {}⟩, brittleReset broken) := by
  cases broken <;> rfl

theorem brittle_turns (broken : Bool) :
    UndisturbedFrom (brittlePlan broken) unheardPlan.descriptor.env {} (brittleStart broken) := by
  -- the reset
  refine undisturbedFrom_of_turn ⟨by cases broken <;> rfl, nofun, ?_, ?_⟩ fun a₁ s₁ hturn₁ => ?_
  · intro m b t call htakes hm
    cases htakes.head
    cases hm
  · rintro m b t ⟨received, hawait, htake⟩ hm
    cases hawait
    cases htake
    cases broken
    · exact ⟨rfl, nofun⟩
    · exact ⟨rfl, fun e he => by cases he; rfl⟩
  rw [turn_brittleStart] at hturn₁
  cases hturn₁
  -- the call
  refine undisturbedFrom_of_turn ⟨by cases broken <;> rfl, nofun, ?_, ?_⟩ fun a₂ s₂ hturn₂ => ?_
  · rintro m b t call ⟨received, hawait, htake⟩ hm
    cases hawait
    cases htake
    cases hm
    exact ⟨⟨_, rfl⟩, by cases broken <;> nofun⟩
  · intro m b t htakes hm
    cases htakes.head
    cases hm
  -- the result
  refine undisturbedFrom_of_turn (s := s₂) ⟨?_, ?_, ?_, ?_⟩ fun a₃ s₃ hturn₃ => ?_
  · cases broken <;> cases hturn₂ <;> rfl
  · cases broken <;> cases hturn₂ <;> nofun
  · intro m b t call htakes hm
    cases broken <;> cases hturn₂ <;> cases htakes.head <;> cases hm
  · intro m b t htakes hm
    cases broken <;> cases hturn₂ <;> cases htakes.head <;> cases hm
  · cases broken <;> cases hturn₂ <;> cases hturn₃

theorem brittle_undisturbed (broken : Bool) : Undisturbed (brittlePlan broken) [1] brittleSession := by
  intro seed start hbegins
  cases hbegins with
  | first hroom => exact ⟨rfl, rfl, brittle_turns broken, by cases broken <;> rfl, by cases broken <;> rfl⟩
  | later hroom hattempt hlater =>
    have hconcluded : ∃ verdict,
        (attempt (brittlePlan broken) [1] (counted brittleSession)).1 = .ok (.concluded verdict) := by
      cases broken
      · exact ⟨_, rfl⟩
      · exact ⟨_, rfl⟩
    obtain ⟨verdict, hverdict⟩ := hconcluded
    rw [hattempt] at hverdict
    cases hverdict

/-- Broken resets and checks change no more than what the failure is put down to. -/
theorem brittle_sessions_contained :
    Contained (brittlePlan false) brittleSession (brittlePlan true) brittleSession ∧
      (run (brittlePlan false) brittleSession).1 = .ok (.failure [7]) ∧
      (run (brittlePlan true) brittleSession).1 = .ok (.failureDueToResetterError [7]) :=
  ⟨runs_contained rfl rfl ⟨rfl, rfl, rfl⟩ (brittle_undisturbed false) (brittle_undisturbed true)
    fun _ _ _ _ _ _ => rfl, rfl, rfl⟩

end Session

end FuzzCampaign
