import FuzzCampaign.Proofs.Session.Turns
set_option autoImplicit false

/-! # The states of a session

The states that a session enters are a path of its machine. `run_states` says which path: an attempt with a
resetter begins with `init`, then every message that is taken contributes the states it asks for (`visits`), and
calls and resets are executed in the states that are named after them. The path ends in `done` when the session
comes to a verdict; it can only end there with an error when that error is one of the cleanup. -/

namespace FuzzCampaign

/-- The states that may follow a state. -/
def SessionState.successors : SessionState → List SessionState
  | .init => [.awaitDirective]
  | .awaitDirective => [.awaitDirective, .executingCall, .executingReset, .resultReceived]
  | .executingCall | .executingReset => [.awaitDirective]
  | .resultReceived => [.continuing, .done]
  | .continuing => [.init]
  | .done => []

/-- Whether a state may be entered after another one. -/
def SessionState.Precedes (s next : SessionState) : Prop := next ∈ s.successors

instance (s next : SessionState) : Decidable (s.Precedes next) := inferInstanceAs (Decidable (_ ∈ _))

namespace Session

variable {σ μ : Type}

/-! ## The states of a message -/

/-- The states entered for a message: the one in which it was waited for, and those of what it asks for. A result
leads on to another attempt when it gives a seed for it. -/
def visits (m : ServerMessage) : List SessionState :=
  .awaitDirective ::
    match m.payload with
    | .fuzzingReport _ => []
    | .call _ => [.executingCall]
    | .reset => [.executingReset]
    | .fuzzingResult result => [.resultReceived, if result.nextSeed.isSome then .continuing else .done]

/-- Whether the message is the result of an attempt. -/
def IsResult (m : ServerMessage) : Prop := ∃ result, m.payload = .fuzzingResult result

/-- The execution of what a message asks for, from the session in which it begins to the one after it. A call is
executed in `executingCall`, a reset in `executingReset`, and for no other message anything is executed. -/
inductive Executes (plan : SessionPlan σ μ) (env : EnvSnapshot) (a : Attempt) :
    ServerPayload → Session σ μ → Session σ μ → Prop where
  | report {s : Session σ μ} (report : FuzzingReport) : s.state = .awaitDirective →
      Executes plan env a (.fuzzingReport report) s { s with world := s.world.present (.report report) }
  | call {s : Session σ μ} {call : Call} {result : Except CampaignError CallVerdict} {engine : CheckEngine μ}
      {world : World μ} : s.state = .executingCall →
      CallExecution.execute plan.model plan.options.callBudget call s.engine s.world = (result, engine, world) →
      Executes plan env a (.call call) s { s with engine, world }
  | reset {s : Session σ μ} {result : Except CampaignError Unit} {controller : ResetController}
      {lifecycleState : σ} {world : World μ} : s.state = .executingReset →
      a.controller.reset plan.lifecycle env s.lifecycleState s.world =
        (result, controller, lifecycleState, world) →
      Executes plan env a .reset s { s with lifecycleState, world }
  | result {s : Session σ μ} {result : FuzzingResult} :
      s.state = (if result.nextSeed.isSome then .continuing else .done) →
      Executes plan env a (.fuzzingResult result) s s

/-- From `s` to `s'` no check, no resetter and no interaction was run and nothing was queued. -/
structure Idle (s s' : Session σ μ) : Prop where
  engine : s'.engine = s.engine
  lifecycleState : s'.lifecycleState = s.lifecycleState
  queued : World.Queued s.world [] s'.world

section
variable {plan : SessionPlan σ μ} {env : EnvSnapshot} {a a₁ a' : Attempt} {s s₁ s' : Session σ μ} {m : ServerMessage}
  {messages : List ServerMessage}

theorem state_conclude (result : FuzzingResult) (hadResetError : Bool) :
    AttemptEnd.state (conclude result hadResetError) =
      if result.nextSeed.isSome then .continuing else .done := by
  unfold conclude
  cases result.nextSeed <;> rfl

theorem visits_eq (a : Attempt) (m : ServerMessage) : visits m = .awaitDirective :: statesOf a m.payload := by
  unfold visits
  cases m.payload with
  | fuzzingReport | call | reset => rfl
  | fuzzingResult result => rw [statesOf, state_conclude]

theorem state_append_concat {entered : List SessionState} {last : SessionState}
    (h : s.entered = entered ++ [last]) : s.state = last := by
  simp [state, h]

/-! ## Waiting -/

theorem entered_receive (timeout : Nat) (s : Session σ μ) : (s.receive timeout).2.entered = s.entered := by
  unfold receive
  dsimp only
  repeat' split
  all_goals rfl

theorem entered_takeProgress (update : Option Progress) (a : Attempt) (s : Session σ μ) :
    (takeProgress update a s).2.entered = s.entered := by
  unfold takeProgress
  repeat' split
  all_goals rfl

theorem entered_await (plan : SessionPlan σ μ) (s : Session σ μ) :
    (await plan s).2.entered = s.entered ++ [.awaitDirective] :=
  entered_receive plan.options.replyTimeout (s.enter .awaitDirective)

theorem Takes.entered (h : Takes plan a s m a₁ s₁) : s₁.entered = s.entered ++ [.awaitDirective] := by
  obtain ⟨received, hawait, htake⟩ := h
  have hawaited := entered_await plan s
  have htaken := entered_takeProgress m.progress a received
  rw [hawait] at hawaited
  rw [htake] at htaken
  exact htaken.trans hawaited

theorem Idle.trans {s s' s'' : Session σ μ} (h : Idle s s') (h' : Idle s' s'') : Idle s s'' :=
  ⟨h'.engine.trans h.engine, h'.lifecycleState.trans h.lifecycleState, h.queued.after h'.queued⟩

theorem idle_receive (timeout : Nat) (s : Session σ μ) : Idle s (s.receive timeout).2 := by
  have hlook := World.queued_look s.world
  unfold receive
  dsimp only
  split
  · exact ⟨rfl, rfl, hlook⟩
  · split
    · exact ⟨rfl, rfl, hlook⟩
    · split
      · exact ⟨rfl, rfl, (hlook.after (World.queued_nudge _ _)).after (World.queued_look _)⟩
      · exact ⟨rfl, rfl, hlook⟩

theorem idle_takeProgress (update : Option Progress) (a : Attempt) (s : Session σ μ) :
    Idle s (takeProgress update a s).2 := by
  unfold takeProgress
  split
  · exact ⟨rfl, rfl, .refl _⟩
  · split
    · exact ⟨rfl, rfl, .refl _⟩
    · exact ⟨rfl, rfl, World.queued_present _ _⟩

theorem idle_await (plan : SessionPlan σ μ) (s : Session σ μ) : Idle s (await plan s).2 := by
  have hidle := idle_receive plan.options.replyTimeout (s.enter .awaitDirective)
  exact ⟨hidle.engine, hidle.lifecycleState, hidle.queued⟩

/-- Nothing is executed while a message is waited for and its counters are taken over. -/
theorem Takes.idle (h : Takes plan a s m a₁ s₁) : Idle s s₁ := by
  obtain ⟨received, hawait, htake⟩ := h
  have hawaited := idle_await plan s
  have htaken := idle_takeProgress m.progress a received
  rw [hawait] at hawaited
  rw [htake] at htaken
  exact hawaited.trans htaken

/-! ## Turns -/

/-- What a message asks for is executed in the state for it. -/
theorem dispatch_executes (hwaited : s.state = .awaitDirective) (payload : ServerPayload) :
    Executes plan env a payload { s with entered := s.entered ++ statesOf a payload }
      (dispatch plan env a s payload).2 := by
  cases payload with
  | fuzzingReport report =>
    simp only [statesOf, List.append_nil]
    exact .report report hwaited
  | call call =>
    have hsession : (dispatch plan env a s (.call call)).2 = (executeCall plan call s).2 := by
      dsimp only [dispatch]
      rcases executeCall plan call s with ⟨e | u, s'⟩ <;> rfl
    rw [hsession]
    exact .call (state_append_concat rfl) rfl
  | reset =>
    have hsession : (dispatch plan env a s .reset).2 = (executeReset plan env a s).2 := by
      dsimp only [dispatch]
      rcases executeReset plan env a s with ⟨e | a', s'⟩ <;> rfl
    rw [hsession, executeReset_session]
    exact .reset (state_append_concat rfl) rfl
  | fuzzingResult result =>
    have hsession : (dispatch plan env a s (.fuzzingResult result)).2 =
        { s with entered := s.entered ++ statesOf a (.fuzzingResult result) } := by
      simp [dispatch, enter, statesOf]
    rw [hsession]
    refine .result ?_
    rw [← state_conclude result a.controller.hadResetError]
    have hlast : s.entered ++ statesOf a (.fuzzingResult result) =
        (s.entered ++ [.resultReceived]) ++ [AttemptEnd.state (conclude result a.controller.hadResetError)] := by
      simp [statesOf]
    exact state_append_concat hlast

/-- A message that is taken and dispatched contributes its states. -/
theorem Takes.dispatch_entered (env : EnvSnapshot) (h : Takes plan a s m a₁ s₁) :
    (dispatch plan env a₁ s₁ m.payload).2.entered = s.entered ++ visits m := by
  rw [(dispatch_keeps plan env a₁ s₁ m.payload).2.2, h.entered, visits_eq a₁, List.append_assoc,
    List.singleton_append]

theorem Turns.entered (h : Turns plan env a s messages a' s') :
    s'.entered = s.entered ++ messages.flatMap visits := by
  induction h with
  | nil => simp
  | cons htakes hdispatch _ ih =>
    have hstates := htakes.dispatch_entered env
    rw [hdispatch] at hstates
    rw [ih, hstates, List.flatMap_cons, List.append_assoc]

/-- An attempt does not go on after its result. -/
theorem not_isResult_of_goesOn (h : dispatch plan env a s m.payload = (.goesOn a', s')) : ¬ IsResult m := by
  rintro ⟨result, hm⟩
  rw [hm] at h
  cases h

theorem Turns.not_isResult (h : Turns plan env a s messages a' s') : ∀ m ∈ messages, ¬ IsResult m := by
  induction h with
  | nil => simp
  | cons _ hdispatch _ ih => exact List.forall_mem_cons.2 ⟨not_isResult_of_goesOn hdispatch, ih⟩

/-- The turns up to one of the messages. -/
theorem Turns.split {before after : List ServerMessage}
    (h : Turns plan env a s (before ++ m :: after) a' s') :
    ∃ b waiting b₁ ready, Turns plan env a s before b waiting ∧ Takes plan b waiting m b₁ ready := by
  induction before generalizing a s with
  | nil =>
    cases h with
    | cons htakes _ _ => exact ⟨_, _, _, _, .nil, htakes⟩
  | cons first before ih =>
    cases h with
    | cons htakes hdispatch hrest =>
      obtain ⟨b, waiting, b₁, ready, hbefore, hm⟩ := ih hrest
      exact ⟨b, waiting, b₁, ready, .cons htakes hdispatch hbefore, hm⟩

end

/-! ## Paths -/

/-- A path of the machine. -/
def IsPath (states : List SessionState) : Prop := states.IsChain SessionState.Precedes

/-- Messages lead from a wait to a wait, as long as there is no result among them. -/
theorem isPath_visits {messages : List ServerMessage} {first : SessionState} {rest : List SessionState}
    (hfirst : first.Precedes .awaitDirective) (hnone : ∀ m ∈ messages, ¬ IsResult m)
    (hrest : ∀ last, last.Precedes .awaitDirective → IsPath (last :: rest)) :
    IsPath (first :: (messages.flatMap visits ++ rest)) := by
  induction messages generalizing first with
  | nil => exact hrest first hfirst
  | cons m messages ih =>
    obtain ⟨hm, hnone⟩ := List.forall_mem_cons.1 hnone
    rw [List.flatMap_cons, List.append_assoc]
    unfold visits
    -- a report is nothing but the wait; a call and a reset put a state between it and the next wait
    cases hpayload : m.payload with
    | fuzzingReport report => exact List.isChain_cons_cons.2 ⟨hfirst, ih (by decide) hnone⟩
    | call call =>
      exact List.isChain_cons_cons.2 ⟨hfirst, List.isChain_cons_cons.2 ⟨by decide, ih (by decide) hnone⟩⟩
    | reset =>
      exact List.isChain_cons_cons.2 ⟨hfirst, List.isChain_cons_cons.2 ⟨by decide, ih (by decide) hnone⟩⟩
    | fuzzingResult result => exact absurd ⟨result, hpayload⟩ hm

/-- A message may come last after any state that a wait may follow. -/
theorem isPath_cons_visits (m : ServerMessage) {last : SessionState} (hlast : last.Precedes .awaitDirective) :
    IsPath (last :: visits m) := by
  unfold visits
  refine List.isChain_cons_cons.2 ⟨hlast, ?_⟩
  cases m.payload with
  | fuzzingReport report => exact .singleton _
  | call call => exact List.isChain_cons_cons.2 ⟨by decide, .singleton _⟩
  | reset => exact List.isChain_cons_cons.2 ⟨by decide, .singleton _⟩
  | fuzzingResult result =>
    refine List.isChain_cons_cons.2 ⟨by decide, List.isChain_cons_cons.2 ⟨?_, .singleton _⟩⟩
    cases result.nextSeed with
    | none => decide
    | some seed => exact (by decide : SessionState.Precedes .resultReceived .continuing)

/-! ## The walk of an attempt -/

/-- After the messages `before` the message `m` is waited for, which executes nothing, and what it asks for is
executed in the state for it. -/
inductive Handles (plan : SessionPlan σ μ) (env : EnvSnapshot) (opened : Session σ μ) (before : List ServerMessage)
    (m : ServerMessage) : Prop where
  | intro {a a₁ : Attempt} {waiting ready : Session σ μ} : Turns plan env {} opened before a waiting →
      Takes plan a waiting m a₁ ready → Idle waiting ready →
      Executes plan env a₁ m.payload { ready with entered := ready.entered ++ statesOf a₁ m.payload }
        (dispatch plan env a₁ ready m.payload).2 → Handles plan env opened before m

/-- An attempt with a resetter that takes the messages `taken`: it goes from `init` through the states of these
messages, and may end with a wait for another one. -/
structure Walk (plan : SessionPlan σ μ) (seed : List UInt8) (start : Session σ μ) (taken : List ServerMessage)
    (waits : List SessionState) : Prop where
  entered : (driven plan seed start).2.entered = start.entered ++ .init :: (taken.flatMap visits ++ waits)
  path : IsPath (.init :: (taken.flatMap visits ++ waits))
  /-- They are the next messages of the stream. -/
  items : ∃ rest, start.inbound.items = taken.map .ok ++ rest
  handled : ∀ before m after, taken = before ++ m :: after →
    Handles plan (campaign plan seed start).env (announce plan seed start).2 before m
  /-- While the attempt waits for a message that it does not take, nothing is executed. -/
  waited : waits = [] ∨ waits = [.awaitDirective] ∧ ∃ a s,
    Turns plan (campaign plan seed start).env {} (announce plan seed start).2 taken a s ∧
      Idle s (driven plan seed start).2
  /-- It comes to an end with the state of the last message, which is a result. -/
  ended : ∀ ending, (driven plan seed start).1 = .ok ending →
    waits = [] ∧ ∃ before m, taken = before ++ [m] ∧ IsResult m ∧ (visits m).getLast? = some (AttemptEnd.state ending)
  /-- When it comes to an error, no message was a result. -/
  failed : ∀ e, (driven plan seed start).1 = .error e → ∀ m ∈ taken, ¬ IsResult m

section
variable {plan : SessionPlan σ μ} {seed : List UInt8} {start : Session σ μ} {env : EnvSnapshot} {opened : Session σ μ}

theorem announce_entered (plan : SessionPlan σ μ) (seed : List UInt8) (start : Session σ μ) :
    (announce plan seed start).2.entered = start.entered ++ [.init] := rfl

theorem Turns.handles {messages before after : List ServerMessage} {m : ServerMessage} {a : Attempt} {s : Session σ μ}
    (h : Turns plan env {} opened messages a s) (hsplit : messages = before ++ m :: after) :
    Handles plan env opened before m := by
  rw [hsplit] at h
  obtain ⟨b, waiting, b₁, ready, hbefore, htakes⟩ := h.split
  exact ⟨hbefore, htakes, htakes.idle, dispatch_executes (state_append_concat htakes.entered) _⟩

/-- The last message is handled like those before it. -/
theorem handles_concat {messages : List ServerMessage} {m : ServerMessage} {a a₁ : Attempt} {s ready : Session σ μ}
    (hturns : Turns plan env {} opened messages a s) (htakes : Takes plan a s m a₁ ready)
    {before after : List ServerMessage} {m' : ServerMessage} (hsplit : messages ++ [m] = before ++ m' :: after) :
    Handles plan env opened before m' := by
  rcases List.eq_nil_or_concat after with rfl | ⟨front, last, rfl⟩
  · obtain ⟨rfl, hsame⟩ := List.append_inj' hsplit rfl
    cases hsame
    exact ⟨hturns, htakes, htakes.idle, dispatch_executes (state_append_concat htakes.entered) _⟩
  · rw [List.concat_eq_append, ← List.cons_append, ← List.append_assoc] at hsplit
    exact hturns.handles (List.append_inj' hsplit rfl).1

/-- A message ends the attempt as its result, or with an error when it is none. -/
theorem dispatch_ended {a : Attempt} {s final : Session σ μ} {m : ServerMessage}
    {result : Except CampaignError AttemptEnd} (h : dispatch plan env a s m.payload = (.ended result, final)) :
    (∃ r, m.payload = .fuzzingResult r ∧ result = .ok (conclude r a.controller.hadResetError)) ∨
      ¬ IsResult m ∧ ∃ e, result = .error e := by
  unfold IsResult
  cases hpayload : m.payload with
  | fuzzingReport report =>
    rw [hpayload] at h
    cases h
  | call call =>
    rw [hpayload] at h
    dsimp only [dispatch] at h
    rcases hcall : executeCall plan call s with ⟨e | u, s'⟩ <;> rw [hcall] at h <;> cases h
    exact Or.inr ⟨nofun, e, rfl⟩
  | reset =>
    rw [hpayload] at h
    dsimp only [dispatch] at h
    rcases hreset : executeReset plan env a s with ⟨e | a', s'⟩ <;> rw [hreset] at h <;> cases h
    exact Or.inr ⟨nofun, e, rfl⟩
  | fuzzingResult r =>
    rw [hpayload] at h
    cases h
    exact Or.inl ⟨r, rfl, rfl⟩

/-- An attempt whose campaign was not taken is over in `init`. -/
theorem walk_unannounced {e : CampaignError} (hannounce : (announce plan seed start).1 = .error e) :
    Walk plan seed start [] [] := by
  have hdriven := driven_unannounced hannounce
  exact
    { entered := by rw [hdriven]; rfl
      path := .singleton _
      items := ⟨_, rfl⟩
      handled := fun before m after h => by simp at h
      waited := Or.inl rfl
      ended := fun ending h => by rw [hdriven] at h; cases h
      failed := fun e h m hm => by cases hm }

/-- An attempt that is over while it waits. -/
theorem walk_waiting {messages : List ServerMessage} {a : Attempt} {s final : Session σ μ} {e : CampaignError}
    {received : Except CampaignError ServerMessage}
    (hturns : Turns plan (campaign plan seed start).env {} (announce plan seed start).2 messages a s)
    (hawait : await plan s = (received, final)) (hdriven : driven plan seed start = (.error e, final)) :
    Walk plan seed start messages [.awaitDirective] := by
  have hnone := hturns.not_isResult
  have hentered := entered_await plan s
  rw [hawait, hturns.entered, announce_entered] at hentered
  have hidle := idle_await plan s
  rw [hawait] at hidle
  exact
    { entered := by rw [hdriven, hentered]; simp
      path := isPath_visits (by decide) hnone fun last hlast => List.isChain_cons_cons.2 ⟨hlast, .singleton _⟩
      items := ⟨_, hturns.items⟩
      handled := fun before m after h => hturns.handles h
      waited := Or.inr ⟨rfl, a, s, hturns, by rw [hdriven]; exact hidle⟩
      ended := fun ending h => by rw [hdriven] at h; cases h
      failed := fun e h => hnone }

/-- An attempt that ends with what a message asks for. -/
theorem walk_dispatched {messages : List ServerMessage} {a a₁ : Attempt} {s s₁ final : Session σ μ}
    {m : ServerMessage} {result : Except CampaignError AttemptEnd}
    (hturns : Turns plan (campaign plan seed start).env {} (announce plan seed start).2 messages a s)
    (htakes : Takes plan a s m a₁ s₁)
    (hdispatch : dispatch plan (campaign plan seed start).env a₁ s₁ m.payload = (.ended result, final))
    (hdriven : driven plan seed start = (result, final)) : Walk plan seed start (messages ++ [m]) [] := by
  have hnone := hturns.not_isResult
  have hentered := htakes.dispatch_entered (campaign plan seed start).env
  rw [hdispatch, hturns.entered, announce_entered] at hentered
  exact
    { entered := by rw [hdriven, hentered]; simp
      path := by
        -- the messages before the last one only lead back to a wait
        rw [List.flatMap_append, List.append_nil]
        refine isPath_visits (by decide) hnone fun last hlast => ?_
        rw [List.flatMap_singleton]
        exact isPath_cons_visits m hlast
      items := ⟨s₁.inbound.items, by
        rw [List.map_append, List.append_assoc, List.map_singleton, List.singleton_append, ← htakes.items]
        exact hturns.items⟩
      handled := fun before m' after h => handles_concat hturns htakes h
      waited := Or.inl rfl
      ended := fun ending h => by
        obtain rfl : result = .ok ending := by rwa [hdriven] at h
        rcases dispatch_ended hdispatch with ⟨r, hm, hresult⟩ | ⟨-, e, hresult⟩ <;> cases hresult
        exact ⟨rfl, messages, m, rfl, ⟨r, hm⟩, by rw [state_conclude]; simp [visits, hm]⟩
      failed := fun e h => by
        obtain rfl : result = .error e := by rwa [hdriven] at h
        rcases dispatch_ended hdispatch with ⟨r, -, hresult⟩ | ⟨hm, -⟩
        · cases hresult
        · exact List.forall_mem_append.2 ⟨hnone, List.forall_mem_singleton.2 hm⟩ }

/-- Every attempt with a resetter walks. -/
theorem driven_walk (plan : SessionPlan σ μ) (seed : List UInt8) (start : Session σ μ) :
    ∃ taken waits, Walk plan seed start taken waits := by
  cases hannounce : (announce plan seed start).1 with
  | error e => exact ⟨[], [], walk_unannounced hannounce⟩
  | ok u =>
    obtain ⟨messages, a, s, result, final, hturns, hend, hdriven⟩ := driven_turns hannounce
    rcases turn_cases plan (campaign plan seed start).env a s with ⟨e, s', hawait, hturn⟩ |
      ⟨m, e, s', hawait, -, hturn⟩ | ⟨m, a₁, s₁, htakes, hturn⟩
    · rw [hend] at hturn
      cases hturn
      exact ⟨messages, [.awaitDirective], walk_waiting hturns hawait hdriven⟩
    · rw [hend] at hturn
      cases hturn
      exact ⟨messages, [.awaitDirective], walk_waiting hturns hawait hdriven⟩
    · exact ⟨messages ++ [m], [], walk_dispatched hturns htakes (hturn.symm.trans hend) hdriven⟩

end

/-! ## The path of a session -/

/-- The error came from the cleanup of an attempt that had come to a verdict: from its resetter, or from the display. -/
def CleanupError (plan : SessionPlan σ μ) (c : AttemptCourse σ μ) (e : CampaignError) : Prop :=
  let own := driven plan c.seed c.start
  let released := release plan own.2
  (∃ verdict, own.1 = .ok (.concluded verdict)) ∧
    (released.1 = .error e ∨ released.1 = .ok () ∧ (flush plan released.2).1 = .error e)

/-- The states that an attempt enters: without a resetter none, else those of its walk. -/
structure Passes (plan : SessionPlan σ μ) (c : AttemptCourse σ μ) (states : List SessionState) : Prop where
  entered : c.stop.entered = c.start.entered ++ states
  unbuilt : ∀ e, (plan.lifecycle.build c.start.lifecycleState c.start.world.outside).1 = .error e → states = []
  built : (plan.lifecycle.build c.start.lifecycleState c.start.world.outside).1 = .ok () →
    ∃ taken waits, Walk plan c.seed c.start taken waits ∧ states = .init :: (taken.flatMap visits ++ waits)

/-- The states of an attempt as the session sees them: they lead from `init` to the state of its end. -/
structure Leads (plan : SessionPlan σ μ) (c : AttemptCourse σ μ) (states : List SessionState) : Prop where
  path : IsPath states
  first : ∀ first ∈ states.head?, first = .init
  last : ∀ ending, c.ending = .ok ending → states.getLast? = some (AttemptEnd.state ending)
  cleanup : ∀ e, c.ending = .error e → states.getLast? = some .done → CleanupError plan c e

section
variable {plan : SessionPlan σ μ} {seed : List UInt8} {start : Session σ μ} {taken : List ServerMessage}
  {waits : List SessionState}

theorem done_notMem_visits {m : ServerMessage} (hm : ¬ IsResult m) : .done ∉ visits m := by
  unfold IsResult at hm
  unfold visits
  cases hpayload : m.payload with
  | fuzzingReport | call | reset => simp
  | fuzzingResult result => exact absurd ⟨result, hpayload⟩ hm

/-- A walk without a result does not come to `done`. -/
theorem Walk.not_done (h : Walk plan seed start taken waits) (hnone : ∀ m ∈ taken, ¬ IsResult m) :
    (.init :: (taken.flatMap visits ++ waits)).getLast? ≠ some .done := by
  intro hlast
  have hmem := List.mem_of_getLast? hlast
  simp only [List.mem_cons, List.mem_append, List.mem_flatMap, reduceCtorEq, false_or] at hmem
  rcases hmem with ⟨m, hm, hdone⟩ | hdone
  · exact done_notMem_visits (hnone m hm) hdone
  · rcases h.waited with rfl | ⟨rfl, -⟩ <;> simp at hdone

/-- A walk to an end leads to its state. -/
theorem Walk.last (h : Walk plan seed start taken waits) {ending : AttemptEnd}
    (hended : (driven plan seed start).1 = .ok ending) :
    (.init :: (taken.flatMap visits ++ waits)).getLast? = some (AttemptEnd.state ending) := by
  obtain ⟨rfl, before, m, rfl, -, hlast⟩ := h.ended ending hended
  rw [List.append_nil, List.flatMap_append, List.flatMap_singleton, ← List.cons_append, List.getLast?_append, hlast,
    Option.some_or]

/-- An attempt comes out as it did itself. -/
theorem finish_eq_ok {own : Except CampaignError AttemptEnd} {released flushed : Except CampaignError Unit}
    {ending : AttemptEnd} (h : finish own [released, flushed] = .ok ending) : own = .ok ending := by
  rcases own with e | own
  · rw [(precedence_finish _ released flushed).own_error e rfl] at h
    cases h
  · rcases released with e | u <;> rcases flushed with e' | u' <;> cases h
    rfl

/-- What an attempt came to is lost to an error of the cleanup only. -/
theorem finish_eq_error {own : AttemptEnd} {released flushed : Except CampaignError Unit} {e : CampaignError}
    (h : finish (.ok own) [released, flushed] = .error e) :
    released = .error e ∨ released = .ok () ∧ flushed = .error e := by
  rcases released with e' | u
  · cases h
    exact Or.inl rfl
  · rcases flushed with e' | u' <;> cases h
    exact Or.inr ⟨rfl, rfl⟩

theorem unbuilt_leads {c : AttemptCourse σ μ} {e : CampaignError}
    (hbuild : (plan.lifecycle.build c.start.lifecycleState c.start.world.outside).1 = .error e)
    (hran : attempt plan c.seed c.start = (c.ending, c.stop)) : Passes plan c [] ∧ Leads plan c [] := by
  rw [attempt_unequipped c.seed hbuild, Prod.mk.injEq] at hran
  obtain ⟨hending, hstop⟩ := hran
  refine ⟨⟨?_, fun _ _ => rfl, fun h => ?_⟩, ⟨.nil, nofun, fun ending h => ?_, nofun⟩⟩
  · rw [← hstop]
    exact (List.append_nil _).symm
  · rw [hbuild] at h
    cases h
  · rw [← hending] at h
    cases h

theorem built_leads {c : AttemptCourse σ μ}
    (hbuild : (plan.lifecycle.build c.start.lifecycleState c.start.world.outside).1 = .ok ())
    (hran : attempt plan c.seed c.start = (c.ending, c.stop)) :
    ∃ states, Passes plan c states ∧ Leads plan c states := by
  rw [attempt_equipped c.seed hbuild, Prod.mk.injEq] at hran
  obtain ⟨hending, hstop⟩ := hran
  obtain ⟨taken, waits, hwalk⟩ := driven_walk plan c.seed c.start
  refine ⟨.init :: (taken.flatMap visits ++ waits), ⟨?_, fun e h => ?_, fun _ => ⟨taken, waits, hwalk, rfl⟩⟩,
    ⟨hwalk.path, by simp, fun ending h => ?_, fun e h hdone => ?_⟩⟩
  · rw [← hstop]
    exact hwalk.entered
  · rw [hbuild] at h
    cases h
  · rw [← hending] at h
    exact hwalk.last (finish_eq_ok h)
  · rw [← hending] at h
    rcases hown : (driven plan c.seed c.start).1 with e' | own
    · exact absurd hdone (hwalk.not_done (hwalk.failed e' hown))
    · rw [hwalk.last hown] at hdone
      rw [hown] at h
      refine ⟨?_, finish_eq_error h⟩
      cases own with
      | continueWith next => cases hdone
      | concluded verdict => exact ⟨verdict, hown⟩

theorem attempt_leads {c : AttemptCourse σ μ} (hran : attempt plan c.seed c.start = (c.ending, c.stop)) :
    ∃ states, Passes plan c states ∧ Leads plan c states := by
  cases hbuild : (plan.lifecycle.build c.start.lifecycleState c.start.world.outside).1 with
  | error e => exact ⟨[], unbuilt_leads hbuild hran⟩
  | ok u => exact built_leads hbuild hran

end

/-- Where a chain of attempts has led from `s` to `s'` through these states. -/
structure LeadsTo (plan : SessionPlan σ μ) (s s' : Session σ μ) (courses : List (AttemptCourse σ μ))
    (outcome : Except CampaignError Verdict) (states : List SessionState) : Prop where
  entered : s'.entered = s.entered ++ states
  path : IsPath states
  first : ∀ first ∈ states.head?, first = .init
  last : ∀ verdict, outcome = .ok verdict → states.getLast? = some .done
  cleanup : ∀ e, outcome = .error e → states.getLast? = some .done →
    ∃ c ∈ courses, c.ending = .error e ∧ c.stop = s' ∧ CleanupError plan c e

section
variable {plan : SessionPlan σ μ} {seed : List UInt8} {s s' : Session σ μ} {courses : List (AttemptCourse σ μ)}
  {outcome : Except CampaignError Verdict} {c : AttemptCourse σ μ} {states : List SessionState}

theorem Passes.entered_counted (h : Passes plan c states) (hstart : c.start = counted s) :
    c.stop.entered = s.entered ++ states := by
  rw [h.entered, hstart]
  rfl

/-- The next attempt begins where this one continues. -/
theorem Leads.continued {later : List SessionState} {next : List UInt8} (h : Leads plan c states)
    (hpasses : Passes plan c states) (hstart : c.start = counted s) (hending : c.ending = .ok (.continueWith next))
    (hlater : LeadsTo plan c.stop s' courses outcome later) :
    LeadsTo plan s s' (c :: courses) outcome (states ++ later) := by
  have hlast : states.getLast? = some .continuing := h.last _ hending
  have hdone : (states ++ later).getLast? = some .done → later.getLast? = some .done := by
    rw [List.getLast?_append, hlast]
    cases later.getLast? <;> simp
  exact
    { entered := by rw [hlater.entered, hpasses.entered_counted hstart, List.append_assoc]
      path := List.isChain_append.2 ⟨h.path, hlater.path, fun x hx y hy => by
        rw [hlast] at hx
        cases hx
        rw [hlater.first y hy]
        decide⟩
      first := fun first hfirst => by
        rw [List.head?_append] at hfirst
        cases hhead : states.head? with
        | none =>
          rw [List.head?_eq_none_iff.1 hhead] at hlast
          cases hlast
        | some head =>
          rw [hhead, Option.some_or] at hfirst
          exact h.first first (hhead.trans hfirst)
      last := fun verdict hverdict => by
        rw [List.getLast?_append, hlater.last verdict hverdict, Option.some_or]
      cleanup := fun e he hlast => by
        obtain ⟨c', hc', hcleanup⟩ := hlater.cleanup e he (hdone hlast)
        exact ⟨c', List.mem_cons_of_mem _ hc', hcleanup⟩ }

theorem CleanRun.leads (h : CleanRun plan seed s courses outcome s') :
    ∃ paths, List.Forall₂ (Passes plan) courses paths ∧ LeadsTo plan s s' courses outcome paths.flatten := by
  induction h with
  | exhausted => exact ⟨[], .nil, ⟨(List.append_nil _).symm, .nil, nofun, nofun, nofun⟩⟩
  | @failed c s e _ hclean hstart hending =>
    obtain ⟨states, hpasses, hleads⟩ := attempt_leads hclean.ran
    refine ⟨[states], .cons hpasses .nil, ?_⟩
    rw [List.flatten_singleton]
    exact ⟨hpasses.entered_counted hstart, hleads.path, hleads.first, nofun, fun e' he' hdone => by
      cases he'
      exact ⟨c, List.mem_singleton.2 rfl, hending, rfl, hleads.cleanup e hending hdone⟩⟩
  | @concluded c s verdict _ hclean hstart hending =>
    obtain ⟨states, hpasses, hleads⟩ := attempt_leads hclean.ran
    refine ⟨[states], .cons hpasses .nil, ?_⟩
    rw [List.flatten_singleton]
    exact ⟨hpasses.entered_counted hstart, hleads.path, hleads.first, fun _ _ => hleads.last _ hending, nofun⟩
  | continued _ hclean hstart hending _ ih =>
    obtain ⟨states, hpasses, hleads⟩ := attempt_leads hclean.ran
    obtain ⟨paths, hpaths, hlater⟩ := ih
    refine ⟨states :: paths, .cons hpasses hpaths, ?_⟩
    rw [List.flatten_cons]
    exact hleads.continued hpasses hstart hending hlater

theorem state_append {path : List SessionState} (h : s'.entered = s.entered ++ path) :
    s'.state = path.getLast?.getD s.state := by
  rw [state, h, List.getLast?_append, state]
  cases path.getLast? <;> rfl

end

/-- **The states of a session are a path of its machine.** A session is a chain of attempts; the states that it
enters are those of its attempts, one after the other, and each may follow the one before it. An attempt without a
resetter enters none. An attempt with a resetter goes from `init` through the states of the messages that it takes:
it waits for each of them, executing nothing, and executes a call in `executingCall` and a reset in
`executingReset`; a result leads to `continuing` when it gives a seed and to `done` when it does not. A session
that comes to a verdict is in `done`, and one that comes to an error there met it in a cleanup. -/
theorem run_states (plan : SessionPlan σ μ) (s : Session σ μ) :
    ∃ courses paths, CleanRun plan plan.descriptor.seed s courses (run plan s).1 (run plan s).2 ∧
      List.Forall₂ (Passes plan) courses paths ∧ (run plan s).2.entered = s.entered ++ paths.flatten ∧
      IsPath paths.flatten ∧ (∀ first ∈ paths.flatten.head?, first = .init) ∧
      (∀ verdict, (run plan s).1 = .ok verdict → (run plan s).2.state = .done) ∧
      ∀ e, (run plan s).1 = .error e → (run plan s).2.state = .done → s.state = .done ∨
        ∃ c ∈ courses, c.ending = .error e ∧ c.stop = (run plan s).2 ∧ CleanupError plan c e := by
  obtain ⟨courses, hrun, -⟩ := runAttempts_clean plan _ plan.descriptor.seed s rfl
  rw [← run] at hrun
  obtain ⟨paths, hpaths, hleads⟩ := hrun.leads
  refine ⟨courses, paths, hrun, hpaths, hleads.entered, hleads.path, hleads.first, fun verdict hok => ?_,
    fun e he hdone => ?_⟩
  · rw [state_append hleads.entered, hleads.last verdict hok, Option.getD_some]
  · rw [state_append hleads.entered] at hdone
    cases hlast : paths.flatten.getLast? with
    | none =>
      rw [hlast] at hdone
      exact Or.inl hdone
    | some last =>
      rw [hlast, Option.getD_some] at hdone
      exact Or.inr (hleads.cleanup e he (hdone ▸ hlast))

end Session

end FuzzCampaign
