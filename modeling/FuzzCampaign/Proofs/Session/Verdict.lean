import FuzzCampaign.Proofs.Reset.Reporting
import FuzzCampaign.Proofs.Session.Counters
import FuzzCampaign.Proofs.Session.States
set_option autoImplicit false

/-! # The verdict of a session

A verdict joins the last message of the last attempt with what the resets of that attempt answered. The answers are
made visible by a lifecycle that writes them down, anew for each resetter: `Lifecycle.answering` does what another
lifecycle does, so a session over it, without the record, is the session over the other one (`Agrees`). Along the
turns of an attempt the controller counts the errors on the record (`Turns.tallies`), and `run_verdict` reads the
verdict off the message and the record. -/

namespace FuzzCampaign

/-- The same plan, with a record of what the resets of an attempt answered. -/
def SessionPlan.answering {σ μ : Type} (plan : SessionPlan σ μ) : SessionPlan (σ × ResetAnswers) μ :=
  { plan with lifecycle := plan.lifecycle.answering }

namespace Session

variable {σ μ α : Type}

/-- The session without the record. -/
def plain (s : Session (σ × ResetAnswers) μ) : Session σ μ := { s with lifecycleState := s.lifecycleState.1 }

/-- A session that has written down these answers. -/
def withAnswers (s : Session σ μ) (answers : ResetAnswers) : Session (σ × ResetAnswers) μ :=
  { s with lifecycleState := (s.lifecycleState, answers) }

/-- A step without the record is this one. -/
def Agrees (recorded : Session (σ × ResetAnswers) μ → α × Session (σ × ResetAnswers) μ)
    (step : Session σ μ → α × Session σ μ) : Prop :=
  ∀ s, step s.plain = ((recorded s).1, (recorded s).2.plain)

/-! ## Sessions with a record -/

theorem receive_agrees (timeout : Nat) : Agrees (σ := σ) (μ := μ) (receive timeout) (receive timeout) := by
  intro s
  unfold receive
  cases hcancelled : s.world.look.cancelled with
  | true => simp [plain, hcancelled]
  | false =>
    cases hitems : s.inbound.items with
    | cons item rest => simp [plain, hcancelled, hitems]
    | nil =>
      cases hopen : s.inbound.staysOpen with
      | true =>
        simp only [plain, hcancelled, hitems, hopen]
        rfl
      | false => simp [plain, hcancelled, hitems, hopen]

theorem takeProgress_agrees (update : Option Progress) (a : Attempt) :
    Agrees (σ := σ) (μ := μ) (takeProgress update a) (takeProgress update a) := by
  intro s
  unfold takeProgress
  rcases update with _ | update
  · rfl
  · dsimp only
    rcases a.progress.apply update with e | progress <;> rfl

section
variable (plan : SessionPlan σ μ) (env : EnvSnapshot)

theorem executeReset_agrees (a : Attempt) : Agrees (executeReset plan.answering env a) (executeReset plan env a) := by
  intro s
  unfold executeReset
  dsimp only [SessionPlan.answering, enter, plain]
  rw [ResetController.reset_answering]
  rcases a.controller.reset plan.lifecycle.answering env s.lifecycleState s.world with ⟨e | u, c, state, w⟩
  · dsimp only
    split <;> rfl
  · rfl

theorem dispatch_agrees (a : Attempt) (payload : ServerPayload) :
    Agrees (fun s => dispatch plan.answering env a s payload) fun s => dispatch plan env a s payload := by
  intro s
  cases payload with
  | fuzzingReport report => rfl
  | call call =>
    have hcall : executeCall plan call s.plain =
      ((executeCall plan.answering call s).1, (executeCall plan.answering call s).2.plain) := rfl
    dsimp only [dispatch]
    rw [hcall]
    rcases executeCall plan.answering call s with ⟨e | u, s'⟩ <;> rfl
  | reset =>
    dsimp only [dispatch]
    rw [executeReset_agrees plan env a s]
    rcases executeReset plan.answering env a s with ⟨e | a', s'⟩ <;> rfl
  | fuzzingResult result => rfl

theorem await_agrees : Agrees (await plan.answering) (await plan) := fun s =>
  receive_agrees plan.options.replyTimeout (s.enter .awaitDirective)

theorem turn_agrees (a : Attempt) : Agrees (turn plan.answering env a) (turn plan env a) := by
  intro s
  unfold turn
  rw [await_agrees plan s]
  rcases await plan.answering s with ⟨e | m, s₁⟩
  · rfl
  dsimp only
  rw [takeProgress_agrees m.progress a s₁]
  rcases takeProgress m.progress a s₁ with ⟨e | a₁, s₂⟩
  · rfl
  · exact dispatch_agrees plan env a₁ m.payload s₂

theorem follow_agrees (fuel : Nat) (a : Attempt) :
    Agrees (follow plan.answering env fuel a) (follow plan env fuel a) := by
  induction fuel generalizing a with
  | zero => exact fun s => rfl
  | succ fuel ih =>
    intro s
    rw [follow_succ, follow_succ, turn_agrees plan env a s]
    rcases turn plan.answering env a s with ⟨result | a', s'⟩
    · rfl
    · exact ih a' s'

theorem drive_agrees (descriptor : CampaignDescriptor) :
    Agrees (drive plan.answering descriptor) (drive plan descriptor) := by
  intro s
  have hsend : (s.plain.enter .init).send (.campaign descriptor) =
    (((s.enter .init).send (.campaign descriptor)).1, ((s.enter .init).send (.campaign descriptor)).2.plain) := rfl
  unfold drive
  rw [hsend]
  rcases (s.enter .init).send (.campaign descriptor) with ⟨e | u, s'⟩
  · rfl
  · exact follow_agrees plan descriptor.env _ {} s'

theorem attempt_agrees (seed : List UInt8) : Agrees (attempt plan.answering seed) (attempt plan seed) := by
  intro s
  cases hbuild : (plan.lifecycle.build s.plain.lifecycleState s.plain.world.outside).1 with
  | error e =>
    have hanswering : (plan.answering.lifecycle.build s.lifecycleState s.world.outside).1 = .error e := hbuild
    rw [attempt_unequipped seed hbuild, attempt_unequipped seed hanswering]
    rfl
  | ok u =>
    have hanswering : (plan.answering.lifecycle.build s.lifecycleState s.world.outside).1 = .ok () := hbuild
    have hdriven : driven plan seed s.plain =
        ((driven plan.answering seed s).1, (driven plan.answering seed s).2.plain) :=
      drive_agrees plan (campaign plan seed s.plain) (equipped plan.answering s)
    rw [attempt_equipped seed hbuild, attempt_equipped seed hanswering, hdriven]
    rfl

theorem runAttempts_agrees (fuel : Nat) (seed : List UInt8) :
    Agrees (runAttempts plan.answering fuel seed) (runAttempts plan fuel seed) := by
  induction fuel generalizing seed with
  | zero => exact fun s => rfl
  | succ fuel ih =>
    intro s
    have hattempt : attempt plan seed (counted s.plain) = _ := attempt_agrees plan seed (counted s)
    unfold runAttempts
    rw [← counted, ← counted, hattempt]
    rcases attempt plan.answering seed (counted s) with ⟨e | next | verdict, stop⟩
    · rfl
    · exact ih next stop
    · rfl

/-- Writing the answers down changes nothing else in a session. -/
theorem run_agrees : Agrees (run plan.answering) (run plan) := fun s => runAttempts_agrees plan _ _ s

end

section
variable {plan : SessionPlan σ μ} {env : EnvSnapshot}

/-! ## Counting along the turns -/

theorem Takes.controller {a a₁ : Attempt} {s s₁ : Session σ μ} {m : ServerMessage} (h : Takes plan a s m a₁ s₁) :
    a₁.controller = a.controller := by
  obtain ⟨received, -, htake⟩ := h
  unfold takeProgress at htake
  repeat' split at htake
  all_goals cases htake
  all_goals rfl

/-- A reset leaves the controller of its report. -/
theorem executeReset_controller {a a' : Attempt} {s s' : Session σ μ} (h : executeReset plan env a s = (.ok a', s')) :
    a'.controller = (a.controller.reset plan.lifecycle env s.lifecycleState s.world).2.1 := by
  dsimp only [executeReset, enter] at h
  split at h
  · cases h
    rfl
  · split at h <;> cases h
    rfl

/-- What a message asks for is counted as it is written down. -/
theorem dispatch_tallies {a a' : Attempt} {s s' : Session (σ × ResetAnswers) μ} {payload : ServerPayload}
    (hdispatch : dispatch plan.answering env a s payload = (.goesOn a', s'))
    (h : a.controller.Tallies s.lifecycleState.2) : a'.controller.Tallies s'.lifecycleState.2 := by
  cases payload with
  | fuzzingReport report =>
    cases hdispatch
    exact h
  | call call =>
    have hstate : (executeCall plan.answering call s).2.lifecycleState = s.lifecycleState := rfl
    dsimp only [dispatch] at hdispatch
    generalize executeCall plan.answering call s = executed at hdispatch hstate
    obtain ⟨e | u, s₁⟩ := executed <;> cases hdispatch
    exact hstate ▸ h
  | reset =>
    have hsession := executeReset_session plan.answering env a s
    dsimp only [dispatch] at hdispatch
    rcases hreset : executeReset plan.answering env a s with ⟨e | a₂, s₁⟩ <;> rw [hreset] at hdispatch hsession <;>
      cases hdispatch
    rw [executeReset_controller hreset, show s' = _ from hsession]
    exact h.reset s.world
  | fuzzingResult result => cases hdispatch

theorem Turns.tallies {a a' : Attempt} {s s' : Session (σ × ResetAnswers) μ} {messages : List ServerMessage}
    (h : Turns plan.answering env a s messages a' s') (hcounted : a.controller.Tallies s.lifecycleState.2) :
    a'.controller.Tallies s'.lifecycleState.2 := by
  induction h with
  | nil => exact hcounted
  | cons htakes hdispatch _ ih =>
    refine ih (dispatch_tallies hdispatch ?_)
    rw [htakes.controller, htakes.idle.lifecycleState]
    exact hcounted

end

/-! ## The last message -/

/-- The result that ends a session: it is in the last message that the session takes, and asks for no other
attempt. -/
structure EndedBy (plan : SessionPlan σ μ) (s : Session σ μ) (result : FuzzingResult) : Prop where
  last : ∃ before m, s.inbound.items = before ++ .ok m :: (run plan s).2.inbound.items ∧
    m.payload = .fuzzingResult result
  final : result.nextSeed = none

section
variable {plan : SessionPlan σ μ}

/-- The attempts before this one took from the stream what came before. -/
theorem Begins.items {seed seed' : List UInt8} {s start : Session σ μ} (h : Begins plan seed s seed' start) :
    ∃ before, s.inbound.items = before ++ start.inbound.items := by
  induction h with
  | first => exact ⟨[], rfl⟩
  | @later seed next seed' s stop start _ hattempt _ ih =>
    obtain ⟨received, hreceived⟩ := attempt_counters plan seed (counted s)
    obtain ⟨rest, -, htaken⟩ := hreceived.taken
    obtain ⟨before, hbefore⟩ := ih
    rw [hattempt] at htaken
    exact ⟨received.map .ok ++ rest ++ before, by rw [List.append_assoc, ← hbefore]; exact htaken⟩

/-- A session that comes to a verdict came to it in an attempt. -/
theorem runAttempts_ok {seed : List UInt8} {s stop : Session σ μ} {verdict : Verdict} {fuel : Nat}
    (hfuel : fuel = plan.options.maxAttempts - s.attempts) (h : runAttempts plan fuel seed s = (.ok verdict, stop)) :
    ∃ seed' start, Begins plan seed s seed' start ∧ attempt plan seed' start = (.ok (.concluded verdict), stop) := by
  induction fuel generalizing seed s with
  | zero => cases h
  | succ fuel ih =>
    have hroom : s.attempts < plan.options.maxAttempts := by omega
    rw [runAttempts, ← counted] at h
    rcases hattempt : attempt plan seed (counted s) with ⟨e | next | verdict', stop'⟩ <;> rw [hattempt] at h
    · cases h
    · have hattempts := attempt_attempts plan seed (counted s)
      rw [hattempt] at hattempts
      have hcount : stop'.attempts = s.attempts + 1 := hattempts
      obtain ⟨seed', start, hbegins, hconcluded⟩ := ih (by omega) h
      exact ⟨seed', start, .later hroom hattempt hbegins, hconcluded⟩
    · cases h
      exact ⟨seed, counted s, .first hroom, hattempt⟩

/-- What an attempt that comes to an end did: it took turns, and then its result. -/
theorem driven_ok {seed : List UInt8} {start : Session σ μ} {ending : AttemptEnd}
    (h : (driven plan seed start).1 = .ok ending) :
    ∃ messages a waiting m a₁ ready result,
      Turns plan (campaign plan seed start).env {} (announce plan seed start).2 messages a waiting ∧
      Takes plan a waiting m a₁ ready ∧ m.payload = .fuzzingResult result ∧
      ending = conclude result a₁.controller.hadResetError ∧
      (driven plan seed start).2 = { ready with entered := (driven plan seed start).2.entered } := by
  cases hannounce : (announce plan seed start).1 with
  | error e =>
    rw [driven_unannounced hannounce] at h
    cases h
  | ok u =>
    obtain ⟨messages, a, s, ended, final, hturns, hend, hdriven⟩ := driven_turns hannounce
    obtain rfl : ended = .ok ending := by rwa [hdriven] at h
    rcases turn_cases plan (campaign plan seed start).env a s with ⟨e, s', -, hturn⟩ | ⟨m, e, s', -, -, hturn⟩ |
      ⟨m, a₁, s₁, htakes, hturn⟩
    · rw [hend] at hturn
      cases hturn
    · rw [hend] at hturn
      cases hturn
    · rw [hend] at hturn
      rcases dispatch_ended hturn.symm with ⟨result, hm, hending⟩ | ⟨-, e, hending⟩
      · cases hending
        rw [hm] at hturn
        cases hturn
        exact ⟨messages, a, s, m, a₁, s₁, result, hturns, htakes, hm, rfl, by rw [hdriven]; rfl⟩
      · cases hending

/-- The verdict is the one of a result that is the last one. -/
theorem conclude_eq_concluded {result : FuzzingResult} {hadResetError : Bool} {verdict : Verdict}
    (h : conclude result hadResetError = .concluded verdict) : result.nextSeed = none := by
  unfold conclude at h
  cases hnext : result.nextSeed with
  | none => rfl
  | some seed => simp [hnext] at h

/-- How a verdict is read off the result and what the resets of the last attempt answered. -/
structure ReadsOff (verdict : Verdict) (result : FuzzingResult) (answers : ResetAnswers) : Prop where
  success : verdict = .success ↔ result.success = true
  shrinking : verdict = .shrinking ↔ result.success = false ∧ result.willShrink = true
  resetterError : verdict = .failureDueToResetterError result.reproductionSeed ↔
    result.success = false ∧ result.willShrink = false ∧ ∃ e, .error e ∈ answers
  failure : verdict = .failure result.reproductionSeed ↔
    result.success = false ∧ result.willShrink = false ∧ ∀ answer ∈ answers, answer = .ok ()

theorem forall_ok_iff {answers : ResetAnswers} : (∀ answer ∈ answers, answer = .ok ()) ↔ ¬ ∃ e, .error e ∈ answers := by
  constructor
  · rintro hok ⟨e, he⟩
    cases hok _ he
  · intro hnone answer hanswer
    cases answer with
    | error e => exact absurd ⟨e, hanswer⟩ hnone
    | ok u => rfl

theorem readsOff_conclude {result : FuzzingResult} {c : ResetController} {verdict : Verdict} {answers : ResetAnswers}
    (h : conclude result c.hadResetError = .concluded verdict) (htallies : c.Tallies answers)
    (hfew : answers.length < 2 ^ 32) : ReadsOff verdict result answers := by
  have hverdict := h
  rw [conclude, conclude_eq_concluded h] at hverdict
  injection hverdict with hverdict
  subst hverdict
  have herrors := htallies.hadResetError_iff hfew
  -- the three tests are made in this order, and each verdict says how all of them came out
  constructor
  all_goals
    cases hsuccess : result.success with
    | true => simp
    | false =>
      cases hshrink : result.willShrink with
      | true => simp
      | false => cases hhad : c.hadResetError <;> simp [forall_ok_iff, ← herrors, hhad]

end

/-- What the resets of the last attempt of a session answered. -/
def lastAnswers (plan : SessionPlan σ μ) (s : Session σ μ) : ResetAnswers :=
  (run plan.answering (s.withAnswers [])).2.lifecycleState.2

/-- An attempt that comes to an end took the result last, and its controller has counted the errors on the record. -/
theorem attempt_tallies {plan : SessionPlan σ μ} {seed : List UInt8} {start stop : Session (σ × ResetAnswers) μ}
    {ending : AttemptEnd} (h : attempt plan.answering seed start = (.ok ending, stop)) :
    ∃ before m result c, start.inbound.items = before ++ .ok m :: stop.inbound.items ∧
      m.payload = .fuzzingResult result ∧ ending = conclude result (ResetController.hadResetError c) ∧
      c.Tallies stop.lifecycleState.2 := by
  cases hbuild : (plan.answering.lifecycle.build start.lifecycleState start.world.outside).1 with
  | error e =>
    rw [attempt_unequipped seed hbuild] at h
    cases h
  | ok u =>
    rw [attempt_equipped seed hbuild, Prod.mk.injEq] at h
    obtain ⟨hfinish, rfl⟩ := h
    obtain ⟨messages, a, waiting, m, a₁, ready, result, hturns, htakes, hm, hending, hdriven⟩ :=
      driven_ok (finish_eq_ok hfinish)
    -- the cleanup takes nothing and leaves the record alone
    have hinbound : ∀ s : Session (σ × ResetAnswers) μ,
        (flush plan.answering (release plan.answering s).2).2.inbound = s.inbound := fun _ => rfl
    have hrecord : ∀ s : Session (σ × ResetAnswers) μ,
        (flush plan.answering (release plan.answering s).2).2.lifecycleState.2 = s.lifecycleState.2 := fun _ => rfl
    rw [hinbound, hrecord, hdriven]
    refine ⟨messages.map .ok, m, result, a₁.controller, ?_, hm, hending, ?_⟩
    · rw [← htakes.items]
      exact hturns.items
    · rw [htakes.idle.lifecycleState, htakes.controller]
      exact hturns.tallies rfl

/-- **The verdict of a session.** A session that comes to a verdict comes to the same with a record of what the resets
of its last attempt answered, of which there are fewer than the controller can count. The last message that it takes
is a result that asks for no other attempt, and the verdict is read off this result and the record alone: whatever
resets answered in attempts before, however many succeed after one that did not, and whatever calls and checks come
to. -/
theorem run_verdict (plan : SessionPlan σ μ) (s : Session σ μ) {verdict : Verdict}
    (hok : (run plan s).1 = .ok verdict) (hfew : (lastAnswers plan s).length < 2 ^ 32) :
    run plan.answering (s.withAnswers []) = (.ok verdict, (run plan s).2.withAnswers (lastAnswers plan s)) ∧
      ∃ result, EndedBy plan s result ∧ ReadsOff verdict result (lastAnswers plan s) := by
  have hagrees : run plan s = _ := run_agrees plan (s.withAnswers [])
  unfold lastAnswers at hfew ⊢
  rcases hrun : run plan.answering (s.withAnswers []) with ⟨outcome, stop⟩
  rw [hrun] at hagrees hfew
  rw [hagrees] at hok ⊢
  obtain rfl : outcome = .ok verdict := hok
  refine ⟨rfl, ?_⟩
  obtain ⟨seed, start, hbegins, hattempt⟩ := runAttempts_ok rfl hrun
  obtain ⟨earlier, hearlier⟩ := hbegins.items
  obtain ⟨before, m, result, c, hitems, hm, hending, htallies⟩ := attempt_tallies hattempt
  refine ⟨result, ⟨⟨earlier ++ before, m, ?_, hm⟩, conclude_eq_concluded hending.symm⟩,
    readsOff_conclude hending.symm htallies hfew⟩
  rw [hagrees, List.append_assoc]
  exact hearlier.trans (congrArg (earlier ++ ·) hitems)

/-! ## Resets of two attempts -/

/-- A resetter whose resets answer as they are told to, one after the other. -/
def scriptedLifecycle : Lifecycle ResetAnswers Unit where
  build s outside := (.ok (), { outside }, s)
  descriptor _ := .noop
  reset _ _ _ s outside := (s.headD (.ok ()), { outside }, s.tail)
  terminate _ s outside := (.ok (), { outside }, s)

def scriptedPlan : SessionPlan ResetAnswers Unit where
  model := unheardPlan.model
  lifecycle := scriptedLifecycle
  descriptor := unheardPlan.descriptor
  options := {}

/-- A reset in a first attempt and two resets in a second one, which fails. -/
def scriptedSession (answers : ResetAnswers) : Session ResetAnswers Unit where
  engine := unheardSession.engine
  world := { outside := () }
  inbound := ⟨[.ok ⟨none, .reset⟩, .ok ⟨none, .fuzzingResult { success := false, nextSeed := some [2] }⟩,
    .ok ⟨none, .reset⟩, .ok ⟨none, .reset⟩,
    .ok ⟨none, .fuzzingResult { success := false, reproductionSeed := [7] }⟩], false⟩
  lifecycleState := answers

/-- The failure is put down to a reset of the last attempt although another one succeeds after it. -/
theorem recovered_reset_verdict :
    let s := scriptedSession [.ok (), .error (.phase "reset" "script failed"), .ok ()]
    (run scriptedPlan s).1 = .ok (.failureDueToResetterError [7]) ∧
      lastAnswers scriptedPlan s = [.error (.phase "reset" "script failed"), .ok ()] ∧
      ∃ result, EndedBy scriptedPlan s result ∧
        ReadsOff (.failureDueToResetterError [7]) result (lastAnswers scriptedPlan s) :=
  ⟨rfl, rfl, (run_verdict scriptedPlan _ rfl (by decide)).2⟩

/-- It is not put down to a reset of the attempt before. -/
example : (run scriptedPlan (scriptedSession [.error (.phase "reset" "script failed"), .ok (), .ok ()])).1 =
    .ok (.failure [7]) := rfl

end Session

end FuzzCampaign
