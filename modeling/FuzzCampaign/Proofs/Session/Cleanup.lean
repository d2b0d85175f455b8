import FuzzCampaign.Proofs.CallEffects
import FuzzCampaign.Proofs.Session.Trace
set_option autoImplicit false

/-! # The cleanup of attempts

Whatever ends an attempt, its resetter is released once, after everything else that is asked of it, and then the
display is told once that the attempt is over. What is asked of a resetter is made visible by one that writes it
down: `Lifecycle.logged` does what another lifecycle does and keeps a record, and a session over it is the session
over the other one (`Asks`). -/

namespace FuzzCampaign

/-! ## A record of what is asked of resetters -/

/-- What a session asks of a lifecycle. -/
inductive LifecycleCall where
  | build
  | reset
  | terminate
deriving DecidableEq, Repr

/-- The same lifecycle, with a record of what was asked of it. -/
def Lifecycle.logged {σ μ : Type} (lifecycle : Lifecycle σ μ) : Lifecycle (σ × List LifecycleCall) μ where
  build s outside :=
    let (result, effects, state) := lifecycle.build s.1 outside
    (result, effects, state, s.2 ++ [.build])
  descriptor s := lifecycle.descriptor s.1
  reset env cancelled now s outside :=
    let (result, effects, state) := lifecycle.reset env cancelled now s.1 outside
    (result, effects, state, s.2 ++ [.reset])
  terminate now s outside :=
    let (result, effects, state) := lifecycle.terminate now s.1 outside
    (result, effects, state, s.2 ++ [.terminate])

/-- The same plan, with a record of what was asked of its lifecycle. -/
def SessionPlan.logged {σ μ : Type} (plan : SessionPlan σ μ) : SessionPlan (σ × List LifecycleCall) μ :=
  { plan with lifecycle := plan.lifecycle.logged }

/-- Neither the model nor the lifecycle tells the display by itself that an attempt is over. -/
structure SessionPlan.LeavesEnds {σ μ : Type} (plan : SessionPlan σ μ) : Prop where
  model : ∀ call effects, plan.model.Causes call effects → .terminate ∉ effects.shown
  build : ∀ state outside, .terminate ∉ (plan.lifecycle.build state outside).2.1.shown
  reset : ∀ env cancelled now state outside,
    .terminate ∉ (plan.lifecycle.reset env cancelled now state outside).2.1.shown
  terminate : ∀ now state outside, .terminate ∉ (plan.lifecycle.terminate now state outside).2.1.shown

/-- A reset tells the display of no end of an attempt, unless the lifecycle does. -/
theorem ResetController.ends_reset {σ μ : Type} (c : ResetController) {lifecycle : Lifecycle σ μ} {env : EnvSnapshot}
    (hreset : ∀ cancelled now state outside, .terminate ∉ (lifecycle.reset env cancelled now state outside).2.1.shown)
    (state : σ) (w : World μ) : (c.reset lifecycle env state w).2.2.2.ends = w.ends := by
  unfold ResetController.reset
  generalize lifecycle.reset env = act at hreset ⊢
  dsimp only
  rcases hsend : w.send (.resetProgress ⟨.started, 0, []⟩) with ⟨e | _, w₁⟩
  · exact World.ends_of_send hsend
  have hannounced := World.ends_of_send hsend
  have hdone := hreset w₁.look.cancelled w₁.look.clock state w₁.look.outside
  dsimp only
  generalize act w₁.look.cancelled w₁.look.clock state w₁.look.outside = done at hdone ⊢
  obtain ⟨_ | _, effects, state'⟩ := done
  all_goals
    dsimp only
    rw [World.ends_send, World.ends_apply _ hdone, World.ends_look, hannounced]

/-- A reset asks for one reset, or for nothing when it could not be announced. -/
theorem ResetController.reset_logged {σ μ : Type} (c : ResetController) (lifecycle : Lifecycle σ μ)
    (env : EnvSnapshot) (state : σ) (w : World μ) :
    ∃ calls, (∀ call ∈ calls, call = .reset) ∧ ∀ log, c.reset lifecycle.logged env (state, log) w =
      ((c.reset lifecycle env state w).1, (c.reset lifecycle env state w).2.1,
        ((c.reset lifecycle env state w).2.2.1, log ++ calls), (c.reset lifecycle env state w).2.2.2) := by
  unfold ResetController.reset
  generalize w.send _ = announced
  obtain ⟨_ | _, w⟩ := announced
  · -- the reset was not announced and does not happen
    exact ⟨[], by simp, fun log => by rw [List.append_nil]⟩
  · refine ⟨[.reset], by simp, fun log => ?_⟩
    rcases hact : lifecycle.reset env w.look.cancelled w.look.clock state w.look.outside with ⟨_ | _, effects, state'⟩
    · simp only [Lifecycle.logged, hact]
    · simp only [Lifecycle.logged, hact]

namespace Session

variable {σ μ : Type} {α : Type}

/-- A session whose lifecycle has this record. -/
def withLog (s : Session σ μ) (log : List LifecycleCall) : Session (σ × List LifecycleCall) μ :=
  { s with lifecycleState := (s.lifecycleState, log) }

/-- What a step asks of the lifecycle: over a lifecycle with a record the same step does the same and adds these
calls to the record. -/
def Asks (step : Session σ μ → α × Session σ μ)
    (recorded : Session (σ × List LifecycleCall) μ → α × Session (σ × List LifecycleCall) μ) (s : Session σ μ)
    (calls : List LifecycleCall) : Prop :=
  ∀ log, recorded (s.withLog log) = ((step s).1, (step s).2.withLog (log ++ calls))

theorem Asks.run {step : Session σ μ → α × Session σ μ}
    {recorded : Session (σ × List LifecycleCall) μ → α × Session (σ × List LifecycleCall) μ} {s s' : Session σ μ}
    {calls : List LifecycleCall} {result : α} (h : Asks step recorded s calls) (hstep : step s = (result, s'))
    (log : List LifecycleCall) : recorded (s.withLog log) = (result, s'.withLog (log ++ calls)) := by
  rw [h log, hstep]

/-! ## What the directives of an attempt ask -/

/-- Neither the end of an attempt nor the beginning of another is counted, and the display is told of no end but by
the model or the lifecycle. -/
structure Unended (plan : SessionPlan σ μ) (s s' : Session σ μ) : Prop where
  flushes : s'.flushes = s.flushes
  attempts : s'.attempts = s.attempts
  ends : plan.LeavesEnds → s'.world.ends = s.world.ends

theorem Unended.refl (plan : SessionPlan σ μ) (s : Session σ μ) : Unended plan s s := ⟨rfl, rfl, fun _ => rfl⟩

theorem Unended.trans {plan : SessionPlan σ μ} {s s' s'' : Session σ μ} (h : Unended plan s s')
    (h' : Unended plan s' s'') : Unended plan s s'' :=
  ⟨h'.flushes.trans h.flushes, h'.attempts.trans h.attempts, fun hleaves => (h'.ends hleaves).trans (h.ends hleaves)⟩

theorem unended_enter (plan : SessionPlan σ μ) (s : Session σ μ) (next : SessionState) :
    Unended plan s (s.enter next) := ⟨rfl, rfl, fun _ => rfl⟩

theorem receive_asks (plan : SessionPlan σ μ) (timeout : Nat) (s : Session σ μ) :
    Asks (receive timeout) (receive timeout) s [] ∧ Unended plan s (s.receive timeout).2 := by
  constructor
  · intro log
    rw [List.append_nil]
    unfold receive
    cases hcancelled : s.world.look.cancelled with
    | true => simp [withLog, hcancelled]
    | false =>
      cases hitems : s.inbound.items with
      | cons item rest => simp [withLog, hcancelled, hitems]
      | nil =>
        cases hopen : s.inbound.staysOpen with
        | true =>
          -- the wait for a message is one more look at the same surroundings
          simp only [withLog, hcancelled, hitems, hopen]
          rfl
        | false => simp [withLog, hcancelled, hitems, hopen]
  · unfold receive
    have hlook := s.world.ends_look
    dsimp only
    split
    · exact ⟨rfl, rfl, fun _ => hlook⟩
    · split
      · exact ⟨rfl, rfl, fun _ => hlook⟩
      · split
        · exact ⟨rfl, rfl, fun _ => (World.ends_look _).trans hlook⟩
        · exact ⟨rfl, rfl, fun _ => hlook⟩

theorem takeProgress_asks (plan : SessionPlan σ μ) (update : Option Progress) (a : Attempt) (s : Session σ μ) :
    Asks (takeProgress update a) (takeProgress update a) s [] ∧ Unended plan s (takeProgress update a s).2 := by
  unfold Asks takeProgress
  cases update with
  | none => exact ⟨fun log => by rw [List.append_nil], .refl plan s⟩
  | some update =>
    dsimp only
    cases a.progress.apply update with
    | error e => exact ⟨fun log => by rw [List.append_nil], .refl plan s⟩
    | ok progress =>
      exact ⟨fun log => by rw [List.append_nil]; rfl, rfl, rfl, fun _ => s.world.ends_present (by simp)⟩

theorem executeCall_asks (plan : SessionPlan σ μ) (call : Call) (s : Session σ μ) :
    Asks (executeCall plan call) (executeCall plan.logged call) s [] ∧ Unended plan s (executeCall plan call s).2 := by
  refine ⟨fun log => ?_, rfl, rfl, fun hleaves => ?_⟩
  · rw [List.append_nil]
    rfl
  · exact CallExecution.ends_execute plan.model plan.options.callBudget call s.engine s.world (hleaves.model call)

theorem executeReset_asks (plan : SessionPlan σ μ) (env : EnvSnapshot) (a : Attempt) (s : Session σ μ) :
    ∃ calls, (∀ call ∈ calls, call = .reset) ∧
      Asks (executeReset plan env a) (executeReset plan.logged env a) s calls ∧
      Unended plan s (executeReset plan env a s).2 := by
  obtain ⟨calls, honly, hreset⟩ := ResetController.reset_logged a.controller plan.lifecycle env s.lifecycleState s.world
  refine ⟨calls, honly, fun log => ?_, ?_⟩
  · unfold executeReset
    dsimp only [SessionPlan.logged, withLog, enter]
    rw [hreset log]
    generalize a.controller.reset plan.lifecycle env s.lifecycleState s.world = done
    obtain ⟨_ | _, _, _, _⟩ := done
    · dsimp only
      split <;> rfl
    · rfl
  · rw [executeReset_session]
    exact ⟨rfl, rfl, fun hleaves => a.controller.ends_reset (hleaves.reset env) s.lifecycleState s.world⟩

section
variable (plan : SessionPlan σ μ) (env : EnvSnapshot)

/-- A round asks for resets only, whether the attempt ends with it or goes on. -/
theorem follow_round_asks (fuel : Nat) (a : Attempt) (s : Session σ μ) :
    ∃ calls s', (∀ call ∈ calls, call = .reset) ∧ Unended plan s s' ∧
      ((∃ result, follow plan env (fuel + 1) a s = (result, s') ∧
          ∀ log, follow plan.logged env (fuel + 1) a (s.withLog log) = (result, s'.withLog (log ++ calls))) ∨
        ∃ a', follow plan env (fuel + 1) a s = follow plan env fuel a' s' ∧
          ∀ log, follow plan.logged env (fuel + 1) a (s.withLog log) =
            follow plan.logged env fuel a' (s'.withLog (log ++ calls))) := by
  obtain ⟨hreceive, hreceived⟩ := receive_asks plan plan.options.replyTimeout (s.enter .awaitDirective)
  replace hreceived := (unended_enter plan s .awaitDirective).trans hreceived
  have hentered : ∀ log, (s.withLog log).enter .awaitDirective = (s.enter .awaitDirective).withLog log :=
    fun _ => rfl
  have htimeout : plan.logged.options.replyTimeout = plan.options.replyTimeout := rfl
  simp only [follow, hentered, htimeout]
  -- a message is taken, then its counters; only a reset directive asks for anything
  rcases hr : (s.enter .awaitDirective).receive plan.options.replyTimeout with ⟨e | m, s₁⟩
  · rw [hr] at hreceived
    exact ⟨[], s₁, by simp, hreceived, .inl ⟨.error e, rfl, fun log => by rw [hreceive.run hr log]⟩⟩
  have hreceive' := hreceive.run hr
  rw [hr] at hreceived
  simp only [hreceive', List.append_nil]
  obtain ⟨htake, htaken⟩ := takeProgress_asks plan m.progress a s₁
  rcases ht : takeProgress m.progress a s₁ with ⟨e | a₁, s₂⟩
  · rw [ht] at htaken
    exact ⟨[], s₂, by simp, hreceived.trans htaken, .inl ⟨.error e, rfl, fun log => by rw [htake.run ht log]⟩⟩
  have htake' := htake.run ht
  rw [ht] at htaken
  have hready := hreceived.trans htaken
  simp only [htake', List.append_nil]
  cases m.payload with
  | fuzzingReport report =>
    have hshown : Unended plan s₂ { s₂ with world := s₂.world.present (.report report) } :=
      ⟨rfl, rfl, fun _ => s₂.world.ends_present (by simp)⟩
    exact ⟨[], { s₂ with world := s₂.world.present (.report report) }, by simp, hready.trans hshown,
      .inr ⟨a₁, rfl, fun log => by rw [List.append_nil]; rfl⟩⟩
  | call call =>
    obtain ⟨hexecute, hexecuted⟩ := executeCall_asks plan call s₂
    rcases he : executeCall plan call s₂ with ⟨e | u, s₃⟩
    · rw [he] at hexecuted
      exact ⟨[], s₃, by simp, hready.trans hexecuted, .inl ⟨.error e, by simp only [he], fun log => by
        simp only [hexecute.run he log]⟩⟩
    · rw [he] at hexecuted
      exact ⟨[], s₃, by simp, hready.trans hexecuted, .inr ⟨a₁, by simp only [he], fun log => by
        simp only [hexecute.run he log]⟩⟩
  | reset =>
    obtain ⟨calls, honly, hreset, hdone⟩ := executeReset_asks plan env a₁ s₂
    rcases he : executeReset plan env a₁ s₂ with ⟨e | a₂, s₃⟩
    · rw [he] at hdone
      exact ⟨calls, s₃, honly, hready.trans hdone, .inl ⟨.error e, rfl, fun log => by
        simp only [hreset.run he log]⟩⟩
    · rw [he] at hdone
      exact ⟨calls, s₃, honly, hready.trans hdone, .inr ⟨a₂, rfl, fun log => by
        simp only [hreset.run he log]⟩⟩
  | fuzzingResult result =>
    let ending := conclude result a₁.controller.hadResetError
    have hended := (unended_enter plan s₂ .resultReceived).trans (unended_enter plan _ (AttemptEnd.state ending))
    exact ⟨[], (s₂.enter .resultReceived).enter (AttemptEnd.state ending), by simp, hready.trans hended,
      .inl ⟨.ok ending, rfl, fun log => by rw [List.append_nil]; rfl⟩⟩

/-- The directives of an attempt ask for resets only. -/
theorem follow_asks (fuel : Nat) (a : Attempt) (s : Session σ μ) :
    ∃ calls, (∀ call ∈ calls, call = .reset) ∧
      Asks (follow plan env fuel a) (follow plan.logged env fuel a) s calls ∧
      Unended plan s (follow plan env fuel a s).2 := by
  induction fuel generalizing a s with
  | zero => exact ⟨[], by simp, fun log => by rw [List.append_nil]; rfl, .refl plan s⟩
  | succ fuel ih =>
    obtain ⟨calls, s', honly, hs', ⟨result, hround, hrecorded⟩ | ⟨a', hround, hrecorded⟩⟩ :=
      follow_round_asks plan env fuel a s
    · refine ⟨calls, honly, fun log => ?_, ?_⟩
      · rw [hrecorded log, hround]
      · rwa [hround]
    · obtain ⟨more, hmore, hrest, hended⟩ := ih a' s'
      refine ⟨calls ++ more, ?_, fun log => ?_, ?_⟩
      · intro call hcall
        exact (List.mem_append.1 hcall).elim (honly call) (hmore call)
      · rw [hrecorded log, hround, hrest, List.append_assoc]
      · rw [hround]
        exact hs'.trans hended

/-- Announcing the campaign asks for nothing. -/
theorem drive_asks (descriptor : CampaignDescriptor) (s : Session σ μ) :
    ∃ calls, (∀ call ∈ calls, call = .reset) ∧ Asks (drive plan descriptor) (drive plan.logged descriptor) s calls ∧
      Unended plan s (drive plan descriptor s).2 := by
  have hsend : ∀ log, ((s.withLog log).enter .init).send (.campaign descriptor) =
      (((s.enter .init).send (.campaign descriptor)).1,
        ((s.enter .init).send (.campaign descriptor)).2.withLog log) := fun _ => rfl
  have hsent : Unended plan s ((s.enter .init).send (.campaign descriptor)).2 :=
    ⟨rfl, rfl, fun _ => s.world.ends_send (.campaign descriptor)⟩
  unfold Asks drive
  simp only [hsend]
  generalize (s.enter .init).send (.campaign descriptor) = announced at hsent
  obtain ⟨e | u, s'⟩ := announced
  · exact ⟨[], by simp, fun log => by rw [List.append_nil], hsent⟩
  · obtain ⟨calls, honly, hfollow, hfollowed⟩ := follow_asks plan descriptor.env (s'.inbound.items.length + 1) {} s'
    exact ⟨calls, honly, hfollow, hsent.trans hfollowed⟩

/-- The display is told without asking anything of the resetter. -/
theorem flush_asks (s : Session σ μ) : Asks (flush plan) (flush plan.logged) s [] := by
  intro log
  rw [List.append_nil]
  rfl

theorem release_asks (s : Session σ μ) : Asks (release plan) (release plan.logged) s [.terminate] := fun _ => rfl

end

/-! ## One attempt -/

/-- One attempt of a session. -/
structure AttemptCourse (σ μ : Type) where
  seed : List UInt8
  /-- The session as the attempt began, and as it ended. -/
  start : Session σ μ
  stop : Session σ μ
  /-- What it asked of its resetter. -/
  calls : List LifecycleCall
  ending : Except CampaignError AttemptEnd

/-- From `s` to `s'` nothing was taken from the orchestrator and nothing queued for it. -/
structure Silent (s s' : Session σ μ) : Prop where
  inbound : s'.inbound = s.inbound
  sent : s'.world.sent = s.world.sent

theorem release_spec (plan : SessionPlan σ μ) (s : Session σ μ) :
    Silent s (release plan s).2 ∧ Unended plan s (release plan s).2 := by
  have hsent := ((moves_release plan s).world).sent
  rw [List.append_nil] at hsent
  refine ⟨⟨rfl, hsent⟩, rfl, rfl, fun hleaves => ?_⟩
  exact (World.ends_apply _ (hleaves.terminate _ _ _)).trans s.world.ends_look

theorem flush_spec (plan : SessionPlan σ μ) (s : Session σ μ) :
    Silent s (flush plan s).2 ∧ (flush plan s).2.world.shown = s.world.shown ++ [.terminate] ∧
      (flush plan s).2.flushes = s.flushes + 1 ∧ (flush plan s).2.attempts = s.attempts :=
  ⟨⟨rfl, rfl⟩, rfl, rfl, rfl⟩

/-- How an attempt ends, given what it came to itself, how its resetter was released and what the display
answered: with its own error, else with the error of the resetter, else with that of the display, else as it
came out. -/
structure Precedence (own : Except CampaignError AttemptEnd) (released flushed : Except CampaignError Unit)
    (ending : Except CampaignError AttemptEnd) : Prop where
  own_error : ∀ e, own = .error e → ending = .error e
  released_error : ∀ attemptEnd e, own = .ok attemptEnd → released = .error e → ending = .error e
  flushed_error : ∀ attemptEnd e, own = .ok attemptEnd → released = .ok () → flushed = .error e →
    ending = .error e
  ok : ∀ attemptEnd, own = .ok attemptEnd → released = .ok () → flushed = .ok () → ending = .ok attemptEnd

theorem precedence_finish (own : Except CampaignError AttemptEnd) (released flushed : Except CampaignError Unit) :
    Precedence own released flushed (finish own [released, flushed]) := by
  constructor
  · rintro e rfl
    rfl
  · rintro attemptEnd e rfl rfl
    rfl
  · rintro attemptEnd e rfl rfl rfl
    rfl
  · rintro attemptEnd rfl rfl rfl
    rfl

namespace AttemptCourse

section
variable (plan : SessionPlan σ μ) (c : AttemptCourse σ μ)

/-- The course of an attempt whose resetter could not be built because of `e`: only the display is told. -/
structure NotBuilt (e : CampaignError) : Prop where
  calls : c.calls = [.build]
  silent : Silent c.start c.stop
  shown : c.stop.world.shown = (equipped plan c.start).world.shown ++ [.terminate]
  ending : c.ending = .error e

/-- The course of an attempt with a resetter: it comes to `own` in the session `driven` and asks for resets only;
in that session the resetter is released, which leaves the session `left`, and then the display is told. -/
structure CleanedUp (own : Except CampaignError AttemptEnd) (asked : List LifecycleCall) (driven : Session σ μ)
    (released : Except CampaignError Unit) (left : Session σ μ) (flushed : Except CampaignError Unit) : Prop where
  drives : drive plan (campaign plan c.seed c.start) (equipped plan c.start) = (own, driven)
  drives_asks : Asks (drive plan (campaign plan c.seed c.start)) (drive plan.logged (campaign plan c.seed c.start))
    (equipped plan c.start) asked
  resets : ∀ call ∈ asked, call = .reset
  releases : release plan driven = (released, left)
  releases_asks : Asks (release plan) (release plan.logged) driven [.terminate]
  releases_silent : Silent driven left
  untold : driven.flushes = c.start.flushes ∧ left.flushes = c.start.flushes
  tells : flush plan left = (flushed, c.stop)
  tells_asks : Asks (flush plan) (flush plan.logged) left []
  tells_silent : Silent left c.stop
  shown : c.stop.world.shown = left.world.shown ++ [.terminate]
  ending : Precedence own released flushed c.ending
  calls : c.calls = .build :: asked ++ [.terminate]

/-- The course is one of an attempt, which cleans up. -/
structure Clean : Prop where
  ran : attempt plan c.seed c.start = (c.ending, c.stop)
  asks : Asks (attempt plan c.seed) (attempt plan.logged c.seed) c.start c.calls
  attempts : c.stop.attempts = c.start.attempts
  /-- The session tells the display once, -/
  told : c.stop.flushes = c.start.flushes + 1
  /-- and the display is told once, unless the model or the lifecycle does so by itself. -/
  ended : plan.LeavesEnds → c.stop.world.ends = c.start.world.ends + 1
  notBuilt : ∀ e, (plan.lifecycle.build c.start.lifecycleState c.start.world.outside).1 = .error e → c.NotBuilt plan e
  cleanedUp : (plan.lifecycle.build c.start.lifecycleState c.start.world.outside).1 = .ok () →
    ∃ own asked driven released left flushed, c.CleanedUp plan own asked driven released left flushed

end

end AttemptCourse

section
variable (plan : SessionPlan σ μ) (seed : List UInt8) (s : Session σ μ)

/-- A lifecycle with a record builds the same resetter. -/
theorem equipped_logged (log : List LifecycleCall) :
    equipped plan.logged (s.withLog log) = (equipped plan s).withLog (log ++ [.build]) := rfl

theorem unended_equipped : Unended plan s (equipped plan s) :=
  ⟨rfl, rfl, fun hleaves => World.ends_apply _ (hleaves.build _ _)⟩

theorem campaign_logged (log : List LifecycleCall) :
    campaign plan.logged seed (s.withLog log) = campaign plan seed s := rfl

/-- Without a resetter there is nothing to release. -/
theorem attempt_clean_of_error {e : CampaignError}
    (hbuild : (plan.lifecycle.build s.lifecycleState s.world.outside).1 = .error e) :
    ∃ c : AttemptCourse σ μ, c.seed = seed ∧ c.start = s ∧ c.Clean plan := by
  have hrun := attempt_unequipped seed hbuild
  obtain ⟨-, hshown, htold, hattempts⟩ := flush_spec plan (equipped plan s)
  refine ⟨⟨seed, s, (flush plan (equipped plan s)).2, [.build], .error e⟩, rfl, rfl,
    { ran := hrun, asks := fun log => ?_, attempts := hattempts, told := htold, ended := fun hleaves => ?_
      notBuilt := fun e' he => ?_, cleanedUp := fun hok => ?_ }⟩
  · have hlogged : (plan.logged.lifecycle.build (s.withLog log).lifecycleState (s.withLog log).world.outside).1 =
        .error e := hbuild
    rw [hrun, attempt_unequipped seed hlogged]
    rfl
  · rw [World.ends_of_terminate hshown, (unended_equipped plan s).ends hleaves]
  · cases hbuild.symm.trans he
    exact ⟨rfl, ⟨rfl, rfl⟩, hshown, rfl⟩
  · cases hbuild.symm.trans hok

/-- With a resetter the directives come first, then its release, then the display. -/
theorem attempt_clean_of_ok (hbuild : (plan.lifecycle.build s.lifecycleState s.world.outside).1 = .ok ()) :
    ∃ c : AttemptCourse σ μ, c.seed = seed ∧ c.start = s ∧ c.Clean plan := by
  obtain ⟨asked, honly, hasks, hcounted⟩ := drive_asks plan (campaign plan seed s) (equipped plan s)
  have hrun := attempt_equipped seed hbuild
  rw [← driven] at hcounted
  rcases hdriven : driven plan seed s with ⟨own, s₁⟩
  obtain ⟨hquiet, hreleased⟩ := release_spec plan s₁
  have hreleases := release_asks plan s₁
  rcases hrelease : release plan s₁ with ⟨released, left⟩
  obtain ⟨hsilent, hshown, htold, hattempts⟩ := flush_spec plan left
  have htells := flush_asks plan left
  rw [hdriven] at hcounted
  rw [hrelease] at hquiet hreleased
  rcases hflush : flush plan left with ⟨flushed, stop⟩
  rw [hflush] at hsilent hshown htold hattempts
  simp only [hdriven, hrelease, hflush] at hrun
  replace hcounted := (unended_equipped plan s).trans hcounted
  have huntold := hcounted.trans hreleased
  refine ⟨⟨seed, s, stop, .build :: asked ++ [.terminate], finish own [released, flushed]⟩, rfl, rfl,
    { ran := hrun, asks := fun log => ?_, attempts := hattempts.trans huntold.attempts
      told := htold.trans (congrArg (· + 1) huntold.flushes), ended := fun hleaves => ?_, notBuilt := fun e he => ?_
      cleanedUp := fun _ => ⟨own, asked, s₁, released, left, flushed, ?_⟩ }⟩
  · -- the resetter is built before it is asked for anything else
    have hlogged : (plan.logged.lifecycle.build (s.withLog log).lifecycleState (s.withLog log).world.outside).1 =
        .ok () := hbuild
    have hdriven' : driven plan.logged seed (s.withLog log) = (own, s₁.withLog (log ++ [.build] ++ asked)) := by
      rw [driven, campaign_logged, equipped_logged, hasks.run hdriven]
    rw [hrun, attempt_equipped seed hlogged, hdriven', hreleases.run hrelease, htells.run hflush]
    simp
  · rw [World.ends_of_terminate hshown, huntold.ends hleaves]
  · cases hbuild.symm.trans he
  · exact {
      drives := hdriven
      drives_asks := hasks
      resets := honly
      releases := hrelease
      releases_asks := hreleases
      releases_silent := hquiet
      untold := ⟨hcounted.flushes, huntold.flushes⟩
      tells := hflush
      tells_asks := htells
      tells_silent := hsilent
      shown := hshown
      ending := precedence_finish own released flushed
      calls := rfl }

/-- Every attempt cleans up. -/
theorem attempt_clean : ∃ c : AttemptCourse σ μ, c.seed = seed ∧ c.start = s ∧ c.Clean plan := by
  cases hbuild : (plan.lifecycle.build s.lifecycleState s.world.outside).1 with
  | error e => exact attempt_clean_of_error plan seed s hbuild
  | ok u => exact attempt_clean_of_ok plan seed s hbuild

end

/-! ## The whole session -/

/-- A session is a chain of attempts: the courses from a seed on, how it ends and the session after it. -/
inductive CleanRun (plan : SessionPlan σ μ) : List UInt8 → Session σ μ → List (AttemptCourse σ μ) →
    Except CampaignError Verdict → Session σ μ → Prop
  /-- There were as many attempts as there may be. -/
  | exhausted {seed : List UInt8} {s : Session σ μ} : plan.options.maxAttempts ≤ s.attempts →
      CleanRun plan seed s [] (.error (tooManyAttempts plan.options.maxAttempts)) s
  /-- The error of an attempt ends the session. -/
  | failed {c : AttemptCourse σ μ} {s : Session σ μ} {e : CampaignError} :
      s.attempts < plan.options.maxAttempts → c.Clean plan → c.start = counted s → c.ending = .error e →
      CleanRun plan c.seed s [c] (.error e) c.stop
  /-- The verdict of an attempt ends the session. -/
  | concluded {c : AttemptCourse σ μ} {s : Session σ μ} {verdict : Verdict} :
      s.attempts < plan.options.maxAttempts → c.Clean plan → c.start = counted s →
      c.ending = .ok (.concluded verdict) → CleanRun plan c.seed s [c] (.ok verdict) c.stop
  /-- An attempt asks for another one. -/
  | continued {c : AttemptCourse σ μ} {s s' : Session σ μ} {next : List UInt8} {courses : List (AttemptCourse σ μ)}
      {outcome : Except CampaignError Verdict} :
      s.attempts < plan.options.maxAttempts → c.Clean plan → c.start = counted s →
      c.ending = .ok (.continueWith next) → CleanRun plan next c.stop courses outcome s' →
      CleanRun plan c.seed s (c :: courses) outcome s'

/-- Attempts up to the limit clean up. -/
theorem runAttempts_clean (plan : SessionPlan σ μ) (fuel : Nat) (seed : List UInt8) (s : Session σ μ)
    (hfuel : fuel = plan.options.maxAttempts - s.attempts) :
    ∃ courses, CleanRun plan seed s courses (runAttempts plan fuel seed s).1 (runAttempts plan fuel seed s).2 ∧
      Asks (runAttempts plan fuel seed) (runAttempts plan.logged fuel seed) s
        (courses.flatMap AttemptCourse.calls) := by
  induction fuel generalizing seed s with
  | zero => exact ⟨[], .exhausted (by omega), fun log => by simp [runAttempts, SessionPlan.logged]⟩
  | succ fuel ih =>
    obtain ⟨c, rfl, hstart, hclean⟩ := attempt_clean plan seed (counted s)
    have hroom : s.attempts < plan.options.maxAttempts := by omega
    have hran := hclean.ran
    rw [hstart] at hran
    have hlogged : ∀ log, attempt plan.logged c.seed (counted (s.withLog log)) =
        (c.ending, c.stop.withLog (log ++ c.calls)) := by
      intro log
      have hrecorded := hclean.asks.run hclean.ran log
      rwa [hstart] at hrecorded
    simp only [counted] at hran hlogged
    simp only [Asks, runAttempts, hran, hlogged]
    rcases hending : c.ending with e | next | verdict
    · exact ⟨[c], .failed hroom hclean hstart hending, by simp⟩
    · have hcounted : c.stop.attempts = s.attempts + 1 := by
        rw [hclean.attempts, hstart]
        rfl
      obtain ⟨courses, hrun, hasks⟩ := ih next c.stop (by omega)
      refine ⟨c :: courses, .continued hroom hclean hstart hending hrun, fun log => ?_⟩
      simp only [hasks (log ++ c.calls), List.flatMap_cons, List.append_assoc]
    · exact ⟨[c], .concluded hroom hclean hstart hending, by simp⟩

/-- In a clean run the session told the display as often as it started attempts. -/
theorem CleanRun.counts {plan : SessionPlan σ μ} {seed : List UInt8} {s s' : Session σ μ}
    {courses : List (AttemptCourse σ μ)} {outcome : Except CampaignError Verdict}
    (h : CleanRun plan seed s courses outcome s') :
    s'.attempts = s.attempts + courses.length ∧ s'.flushes = s.flushes + courses.length := by
  induction h with
  | exhausted => exact ⟨rfl, rfl⟩
  | failed _ hclean hstart _ | concluded _ hclean hstart _ =>
    have hattempts := hclean.attempts
    have htold := hclean.told
    rw [hstart] at hattempts htold
    exact ⟨hattempts, htold⟩
  | continued _ hclean hstart _ _ ih =>
    have hattempts := hclean.attempts
    have htold := hclean.told
    rw [hstart] at hattempts htold
    rw [ih.1, ih.2, hattempts, htold, List.length_cons]
    simp only [counted]
    omega

/-- Unless the model or the lifecycle does so too, the display was told as often as attempts were started. -/
theorem CleanRun.ends {plan : SessionPlan σ μ} {seed : List UInt8} {s s' : Session σ μ}
    {courses : List (AttemptCourse σ μ)} {outcome : Except CampaignError Verdict}
    (h : CleanRun plan seed s courses outcome s') (hleaves : plan.LeavesEnds) :
    s'.world.ends = s.world.ends + courses.length := by
  induction h with
  | exhausted => rfl
  | failed _ hclean hstart _ | concluded _ hclean hstart _ =>
    have hended := hclean.ended hleaves
    rwa [hstart] at hended
  | continued _ hclean hstart _ _ ih =>
    have hended := hclean.ended hleaves
    rw [hstart] at hended
    rw [ih, hended, List.length_cons]
    simp only [counted]
    omega

/-- **Every attempt cleans up, once and in order.** Whatever the orchestrator sends, whatever the model, the hooks
and the resetters do and whenever the session is cancelled or the orchestrator goes away, a session is a chain of
attempts that clean up. An attempt whose resetter was built asks it for resets and then, when its directives are
over, to terminate, once; then the display is told, once; an attempt whose resetter could not be built tells the
display and does nothing else. The error of the attempt itself ends the session, else that of the resetter, else
that of the display, even when the attempt asks for another one; without any the attempt ends as it came out.
The session tells the display as often as it starts attempts, so that the display is told as often when neither the
model nor the lifecycle does so by itself; and it asks the resetters for nothing else. -/
theorem run_cleans_up (plan : SessionPlan σ μ) (s : Session σ μ) :
    ∃ courses, CleanRun plan plan.descriptor.seed s courses (run plan s).1 (run plan s).2 ∧
      (run plan s).2.attempts = s.attempts + courses.length ∧
      (run plan s).2.flushes = s.flushes + courses.length ∧
      (plan.LeavesEnds → (run plan s).2.world.ends = s.world.ends + courses.length) ∧
      Asks (run plan) (run plan.logged) s (courses.flatMap AttemptCourse.calls) := by
  obtain ⟨courses, hrun, hasks⟩ := runAttempts_clean plan _ plan.descriptor.seed s rfl
  obtain ⟨hattempts, hflushes⟩ := hrun.counts
  exact ⟨courses, hrun, hattempts, hflushes, hrun.ends, hasks⟩

end Session

end FuzzCampaign
