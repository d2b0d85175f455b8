import FuzzCampaign.Proofs.Session.Cleanup
set_option autoImplicit false

/-! # The turns of an attempt

An attempt takes turns: it waits for a message, takes over its counters and does what it asks for. `turn` is
one of them, `Turns` are those after which the attempt waits again, and `follow_turns` says that following the
orchestrator is taking turns until one ends the attempt. `Begins` says which attempts a session begins. -/

namespace FuzzCampaign.Session

variable {σ μ : Type}

/-! ## One turn -/

/-- What becomes of an attempt with a turn. -/
inductive TurnEnd where
  | ended (result : Except CampaignError AttemptEnd)
  | goesOn (a : Attempt)

/-- Do what a message asks for. -/
def dispatch (plan : SessionPlan σ μ) (env : EnvSnapshot) (a : Attempt) (s : Session σ μ) :
    ServerPayload → TurnEnd × Session σ μ
  | .fuzzingReport report => (.goesOn a, { s with world := s.world.present (.report report) })
  | .call call =>
    match executeCall plan call s with
    | (.error e, s) => (.ended (.error e), s)
    | (.ok (), s) => (.goesOn a, s)
  | .reset =>
    match executeReset plan env a s with
    | (.error e, s) => (.ended (.error e), s)
    | (.ok a, s) => (.goesOn a, s)
  | .fuzzingResult result =>
    let ending := conclude result a.controller.hadResetError
    (.ended (.ok ending), (s.enter .resultReceived).enter (AttemptEnd.state ending))

/-- Wait for the next message. -/
def await (plan : SessionPlan σ μ) (s : Session σ μ) : Except CampaignError ServerMessage × Session σ μ :=
  (s.enter .awaitDirective).receive plan.options.replyTimeout

/-- One turn. -/
def turn (plan : SessionPlan σ μ) (env : EnvSnapshot) (a : Attempt) (s : Session σ μ) : TurnEnd × Session σ μ :=
  match await plan s with
  | (.error e, s) => (.ended (.error e), s)
  | (.ok m, s) =>
    match takeProgress m.progress a s with
    | (.error e, s) => (.ended (.error e), s)
    | (.ok a, s) => dispatch plan env a s m.payload

section
variable {plan : SessionPlan σ μ} {env : EnvSnapshot} {a a₁ a₂ a' : Attempt} {s s₁ s₂ s' : Session σ μ}
  {m : ServerMessage} {messages : List ServerMessage}

/-- The attempt takes a turn and then follows further. -/
theorem follow_succ (plan : SessionPlan σ μ) (env : EnvSnapshot) (fuel : Nat) (a : Attempt) (s : Session σ μ) :
    follow plan env (fuel + 1) a s =
      match turn plan env a s with
      | (.ended result, s) => (result, s)
      | (.goesOn a, s) => follow plan env fuel a s := by
  rw [follow, turn, await]
  dsimp only
  rcases (s.enter .awaitDirective).receive plan.options.replyTimeout with ⟨e | m, s₁⟩
  · rfl
  dsimp only
  rcases takeProgress m.progress a s₁ with ⟨e | a₁, s₂⟩
  · rfl
  dsimp only
  cases m.payload with
  | fuzzingReport report => rfl
  | call call =>
    dsimp only [dispatch]
    rcases executeCall plan call s₂ with ⟨e | u, s₃⟩ <;> rfl
  | reset =>
    dsimp only [dispatch]
    rcases executeReset plan env a₁ s₂ with ⟨e | a₂, s₃⟩ <;> rfl
  | fuzzingResult result => rfl

/-- A message comes and its counters are taken over. -/
inductive Takes (plan : SessionPlan σ μ) (a : Attempt) (s : Session σ μ) (m : ServerMessage) (a₁ : Attempt)
    (s₁ : Session σ μ) : Prop where
  | intro (received : Session σ μ) : await plan s = (.ok m, received) →
      takeProgress m.progress a received = (.ok a₁, s₁) → Takes plan a s m a₁ s₁

theorem Takes.turn_eq (h : Takes plan a s m a₁ s₁) : turn plan env a s = dispatch plan env a₁ s₁ m.payload := by
  obtain ⟨received, hawait, htake⟩ := h
  simp only [turn, hawait, htake]

/-- A turn ends with the wait, with the counters, or does what the message asks for. -/
theorem turn_cases (plan : SessionPlan σ μ) (env : EnvSnapshot) (a : Attempt) (s : Session σ μ) :
    (∃ e s', await plan s = (.error e, s') ∧ turn plan env a s = (.ended (.error e), s')) ∨
      (∃ m e s', await plan s = (.ok m, s') ∧ counters a.progress m = .error e ∧
        turn plan env a s = (.ended (.error e), s')) ∨
      ∃ m a₁ s₁, Takes plan a s m a₁ s₁ ∧ turn plan env a s = dispatch plan env a₁ s₁ m.payload := by
  rcases hawait : await plan s with ⟨e | m, received⟩
  · exact Or.inl ⟨e, received, rfl, by simp only [turn, hawait]⟩
  rcases takeProgress_cases m a received with ⟨e, htake, hcounters⟩ | ⟨a₁, s₁, htake, -, -⟩
  · exact Or.inr (Or.inl ⟨m, e, received, rfl, hcounters, by simp only [turn, hawait, htake]⟩)
  · have htakes : Takes plan a s m a₁ s₁ := ⟨received, hawait, htake⟩
    exact Or.inr (Or.inr ⟨m, a₁, s₁, htakes, htakes.turn_eq⟩)

/-! ## Many turns -/

/-- Turns after which the attempt waits again, with the messages that were taken. -/
inductive Turns (plan : SessionPlan σ μ) (env : EnvSnapshot) : Attempt → Session σ μ → List ServerMessage → Attempt →
    Session σ μ → Prop where
  | nil {a : Attempt} {s : Session σ μ} : Turns plan env a s [] a s
  | cons {a a₁ a₂ a' : Attempt} {s s₁ s₂ s' : Session σ μ} {m : ServerMessage} {messages : List ServerMessage} :
      Takes plan a s m a₁ s₁ → dispatch plan env a₁ s₁ m.payload = (.goesOn a₂, s₂) →
      Turns plan env a₂ s₂ messages a' s' → Turns plan env a s (m :: messages) a' s'

/-- A turn after which the attempt goes on took a message. -/
theorem takes_of_goesOn (h : turn plan env a s = (.goesOn a', s')) :
    ∃ m a₁ s₁, Takes plan a s m a₁ s₁ ∧ dispatch plan env a₁ s₁ m.payload = (.goesOn a', s') := by
  rcases turn_cases plan env a s with ⟨e, s₁, -, hturn⟩ | ⟨m, e, s₁, -, -, hturn⟩ | ⟨m, a₁, s₁, htakes, hturn⟩
  · rw [h] at hturn
    cases hturn
  · rw [h] at hturn
    cases hturn
  · exact ⟨m, a₁, s₁, htakes, hturn.symm.trans h⟩

theorem await_items (h : await plan s = (.ok m, s')) : s.inbound.items = .ok m :: s'.inbound.items := by
  obtain ⟨s₁, ⟨e, hreceive, -, -⟩ | ⟨item, hreceive, hmoves⟩⟩ :=
    receive_cases plan.options.replyTimeout (s.enter .awaitDirective)
  · rw [await, hreceive] at h
    cases h
  · rw [await, hreceive] at h
    cases h
    exact hmoves.items

/-- A wait without a message took nothing, or what is no message. -/
theorem await_error_items {e : CampaignError} (h : await plan s = (.error e, s')) :
    ∃ rest, (rest = [] ∨ ∃ e, rest = [.error e]) ∧ s.inbound.items = rest ++ s'.inbound.items := by
  obtain ⟨s₁, ⟨e', hreceive, -, hmoves⟩ | ⟨item, hreceive, hmoves⟩⟩ :=
    receive_cases plan.options.replyTimeout (s.enter .awaitDirective)
  · rw [await, hreceive] at h
    cases h
    exact ⟨[], Or.inl rfl, hmoves.items⟩
  · rw [await, hreceive] at h
    cases h
    exact ⟨[.error e], Or.inr ⟨e, rfl⟩, hmoves.items⟩

theorem Takes.items (h : Takes plan a s m a₁ s₁) : s.inbound.items = .ok m :: s₁.inbound.items := by
  obtain ⟨received, hawait, htake⟩ := h
  rcases takeProgress_cases m a received with ⟨e, htake', -⟩ | ⟨a', s', htake', -, hmoves⟩
  · rw [htake] at htake'
    cases htake'
  · rw [htake] at htake'
    cases htake'
    rw [await_items hawait, hmoves.items, List.nil_append]

/-- The states entered for a message. -/
def statesOf (a : Attempt) : ServerPayload → List SessionState
  | .fuzzingReport _ => []
  | .call _ => [.executingCall]
  | .reset => [.executingReset]
  | .fuzzingResult result => [.resultReceived, AttemptEnd.state (conclude result a.controller.hadResetError)]

/-- Doing what a message asks for takes nothing from the stream and begins no attempt, and the states entered
are told by the message alone. -/
theorem dispatch_keeps (plan : SessionPlan σ μ) (env : EnvSnapshot) (a : Attempt) (s : Session σ μ)
    (payload : ServerPayload) :
    (dispatch plan env a s payload).2.inbound = s.inbound ∧
      (dispatch plan env a s payload).2.attempts = s.attempts ∧
      (dispatch plan env a s payload).2.entered = s.entered ++ statesOf a payload := by
  cases payload with
  | fuzzingReport report => exact ⟨rfl, rfl, (List.append_nil _).symm⟩
  | call call =>
    have hsession : (dispatch plan env a s (.call call)).2 = (executeCall plan call s).2 := by
      dsimp only [dispatch]
      rcases executeCall plan call s with ⟨e | u, s'⟩ <;> rfl
    rw [hsession]
    exact ⟨rfl, rfl, rfl⟩
  | reset =>
    have hsession : (dispatch plan env a s .reset).2 = (executeReset plan env a s).2 := by
      dsimp only [dispatch]
      rcases executeReset plan env a s with ⟨e | a', s'⟩ <;> rfl
    rw [hsession, executeReset_session]
    exact ⟨rfl, rfl, rfl⟩
  | fuzzingResult result => exact ⟨rfl, rfl, by simp [dispatch, enter, statesOf]⟩

theorem Turns.items (h : Turns plan env a s messages a' s') :
    s.inbound.items = messages.map .ok ++ s'.inbound.items := by
  induction h with
  | nil => rfl
  | @cons a a₁ a₂ a' s s₁ s₂ s' m rest htakes hdispatch _ ih =>
    have hinbound : s₂.inbound = s₁.inbound := by
      simpa only [hdispatch] using (dispatch_keeps plan env a₁ s₁ m.payload).1
    rw [htakes.items, ← hinbound, ih, List.map_cons, List.cons_append]

/-- Following the orchestrator is taking turns until one ends the attempt. -/
theorem follow_turns {fuel : Nat} (hfuel : s.inbound.items.length < fuel) :
    ∃ messages a' s' result final, Turns plan env a s messages a' s' ∧
      turn plan env a' s' = (.ended result, final) ∧ follow plan env fuel a s = (result, final) := by
  induction fuel generalizing a s with
  | zero => omega
  | succ fuel ih =>
    rw [follow_succ]
    rcases hturn : turn plan env a s with ⟨result | a₂, s₂⟩
    · exact ⟨[], a, s, result, s₂, .nil, hturn, rfl⟩
    -- a message was taken, so there are turns enough for the rest
    obtain ⟨m, a₁, s₁, htakes, hdispatch⟩ := takes_of_goesOn hturn
    have hitems := congrArg List.length htakes.items
    have hinbound : s₂.inbound = s₁.inbound := by
      simpa only [hdispatch] using (dispatch_keeps plan env a₁ s₁ m.payload).1
    rw [List.length_cons, ← hinbound] at hitems
    obtain ⟨messages, a', s', result, final, hturns, hend, hfollow⟩ := ih (a := a₂) (s := s₂) (by omega)
    exact ⟨m :: messages, a', s', result, final, .cons htakes hdispatch hturns, hend, hfollow⟩

end

/-! ## Attempts -/

section
variable (plan : SessionPlan σ μ) (seed : List UInt8) (start : Session σ μ)

/-- The campaign is announced. -/
def announce : Except CampaignError Unit × Session σ μ :=
  ((equipped plan start).enter .init).send (.campaign (campaign plan seed start))

end

section
variable {plan : SessionPlan σ μ} {seed : List UInt8} {start : Session σ μ}

/-- An attempt announces its campaign and follows the orchestrator. -/
theorem driven_announced (hannounce : (announce plan seed start).1 = .ok ()) :
    driven plan seed start =
      follow plan (campaign plan seed start).env ((announce plan seed start).2.inbound.items.length + 1) {}
        (announce plan seed start).2 := by
  rw [driven, drive, ← announce]
  rcases hopen : announce plan seed start with ⟨_ | _, opened⟩
  · rw [hopen] at hannounce
    cases hannounce
  · rfl

/-- An attempt announces its campaign and takes turns. -/
theorem driven_turns (hannounce : (announce plan seed start).1 = .ok ()) :
    ∃ messages a s result final,
      Turns plan (campaign plan seed start).env {} (announce plan seed start).2 messages a s ∧
      turn plan (campaign plan seed start).env a s = (.ended result, final) ∧
      driven plan seed start = (result, final) := by
  rw [driven_announced hannounce]
  exact follow_turns (Nat.lt_succ_self _)

/-- An attempt whose campaign was not taken is over. -/
theorem driven_unannounced {e : CampaignError} (h : (announce plan seed start).1 = .error e) :
    driven plan seed start = (.error e, (announce plan seed start).2) := by
  rw [driven, drive, ← announce]
  rcases hopen : announce plan seed start with ⟨_ | _, opened⟩
  · rw [hopen] at h
    cases h
    rfl
  · rw [hopen] at h
    cases h

end

/-- The attempts of a session that begins with a seed, each with its seed and the session as it begins. -/
inductive Begins (plan : SessionPlan σ μ) : List UInt8 → Session σ μ → List UInt8 → Session σ μ → Prop where
  | first {seed : List UInt8} {s : Session σ μ} : s.attempts < plan.options.maxAttempts →
      Begins plan seed s seed (counted s)
  /-- An attempt asked for another one. -/
  | later {seed next seed' : List UInt8} {s stop start : Session σ μ} : s.attempts < plan.options.maxAttempts →
      attempt plan seed (counted s) = (.ok (.continueWith next), stop) → Begins plan next stop seed' start →
      Begins plan seed s seed' start

theorem attempt_attempts (plan : SessionPlan σ μ) (seed : List UInt8) (s : Session σ μ) :
    (attempt plan seed s).2.attempts = s.attempts := by
  obtain ⟨c, rfl, rfl, hclean⟩ := attempt_clean plan seed s
  rw [hclean.ran]
  exact hclean.attempts

section
variable {plan : SessionPlan σ μ} {seed seed' : List UInt8} {s start stop : Session σ μ}

/-- A session that may begin an attempt begins it. -/
theorem runAttempts_begin (hroom : s.attempts < plan.options.maxAttempts) :
    runAttempts plan (plan.options.maxAttempts - s.attempts) seed s =
      match attempt plan seed (counted s) with
      | (.error e, stop) => (.error e, stop)
      | (.ok (.continueWith next), stop) => runAttempts plan (plan.options.maxAttempts - stop.attempts) next stop
      | (.ok (.concluded verdict), stop) => (.ok verdict, stop) := by
  obtain ⟨fuel, hfuel⟩ := Nat.exists_eq_add_of_lt hroom
  have hattempts := attempt_attempts plan seed (counted s)
  rw [show plan.options.maxAttempts - s.attempts = fuel + 1 by omega, runAttempts, ← counted]
  rcases hattempt : attempt plan seed (counted s) with ⟨e | next | verdict, stop⟩
  · rfl
  · rw [hattempt] at hattempts
    have hleft : plan.options.maxAttempts - stop.attempts = fuel := by
      simp only [counted] at hattempts
      omega
    simp only [hleft]
  · rfl

/-- The error of an attempt ends the session. -/
theorem Begins.run_error {e : CampaignError} (h : Begins plan seed s seed' start)
    (herror : attempt plan seed' start = (.error e, stop)) :
    runAttempts plan (plan.options.maxAttempts - s.attempts) seed s = (.error e, stop) := by
  induction h with
  | first hroom => rw [runAttempts_begin hroom, herror]
  | later hroom hattempt _ ih =>
    rw [runAttempts_begin hroom, hattempt]
    exact ih herror

end

end FuzzCampaign.Session
