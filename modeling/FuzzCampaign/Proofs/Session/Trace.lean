import FuzzCampaign.Proofs.CallTrace
import FuzzCampaign.Proofs.Reset.Reporting
import FuzzCampaign.Session.Run
import Mathlib.Data.List.Chain
set_option autoImplicit false

/-! # The messages of a session

A session is a chain of attempts. `run_trace` says which attempts there are, with which campaign each of
them begins, which of the orchestrator's messages it takes and what it queues for each of them. -/

namespace FuzzCampaign

open World (Sends send_cases queued_look queued_nudge queued_present queued_apply closed_of_send_error)

namespace Session

variable {σ μ : Type}

/-! ## What happens between two points of a session -/

/-- From `s` to `s'` exactly these items were taken and these messages queued. -/
structure Moves (s : Session σ μ) (items : List Stream.Item) (messages : List ClientMessage)
    (s' : Session σ μ) : Prop where
  items : s.inbound.items = items ++ s'.inbound.items
  world : Sends s.world messages s'.world
  engine : s.engine.Alike s'.engine
  attempts : s'.attempts = s.attempts

section
variable {s s' s'' : Session σ μ} {items more : List Stream.Item} {messages others : List ClientMessage}

theorem Moves.refl (s : Session σ μ) : Moves s [] [] s := ⟨rfl, .refl _, .refl _, rfl⟩

theorem Moves.trans (h : Moves s items messages s') (h' : Moves s' more others s'') :
    Moves s (items ++ more) (messages ++ others) s'' where
  items := by rw [h.items, h'.items, List.append_assoc]
  world := h.world.trans h'.world
  engine := h.engine.trans h'.engine
  attempts := h'.attempts.trans h.attempts

/-- Nothing taken and queued before. -/
theorem Moves.after (h : Moves s [] [] s') (h' : Moves s' items messages s'') :
    Moves s items messages s'' := h.trans h'

/-- Nothing taken and queued after. -/
theorem Moves.before (h : Moves s items messages s') (h' : Moves s' [] [] s'') :
    Moves s items messages s'' := by
  simpa using h.trans h'

/-- Only the surroundings changed. -/
theorem moves_world {w : World μ} (h : Sends s.world messages w) :
    Moves s [] messages { s with world := w } := ⟨rfl, h, .refl _, rfl⟩

theorem moves_enter (s : Session σ μ) (next : SessionState) : Moves s [] [] (s.enter next) :=
  ⟨rfl, .refl _, .refl _, rfl⟩

end

/-- The errors of a session to which no message comes. -/
def IsReceiveError (timeout : Nat) (e : CampaignError) : Prop :=
  e = receiveCancelled ∨ e = noReply timeout ∨ e = streamClosed

theorem receive_cases (timeout : Nat) (s : Session σ μ) :
    ∃ s', (∃ e, s.receive timeout = (.error e, s') ∧ IsReceiveError timeout e ∧ Moves s [] [] s') ∨
      ∃ item, s.receive timeout = (item, s') ∧ Moves s [item] [] s' := by
  have hlook := (queued_look s.world).toSends
  unfold receive
  dsimp only
  split
  · exact ⟨_, Or.inl ⟨_, rfl, Or.inl rfl, moves_world hlook⟩⟩
  · split
    · next item rest hitems =>
      exact ⟨_, Or.inr ⟨item, rfl, hitems, hlook, .refl _, rfl⟩⟩
    · split
      · have hwait := hlook.before ((queued_nudge s.world.look { pause := timeout }).after
          (queued_look _)).toSends
        refine ⟨_, Or.inl ⟨_, rfl, ?_, moves_world hwait⟩⟩
        split
        · exact Or.inl rfl
        · exact Or.inr (Or.inl rfl)
      · exact ⟨_, Or.inl ⟨_, rfl, Or.inr (Or.inr rfl), moves_world hlook⟩⟩

/-! ## What is queued for a message -/

/-- The counters after a message, when they are acceptable. -/
def counters (current : Progress) (m : ServerMessage) : Except CampaignError Progress :=
  match m.progress with
  | none => .ok current
  | some update => current.apply update

theorem takeProgress_cases (m : ServerMessage) (a : Attempt) (s : Session σ μ) :
    (∃ e, takeProgress m.progress a s = (.error e, s) ∧ counters a.progress m = .error e) ∨
      ∃ a' s', takeProgress m.progress a s = (.ok a', s') ∧ counters a.progress m = .ok a'.progress ∧
        Moves s [] [] s' := by
  unfold takeProgress counters
  cases m.progress with
  | none => exact Or.inr ⟨a, s, rfl, rfl, .refl s⟩
  | some update =>
    cases happly : a.progress.apply update with
    | error e => simp [happly]
    | ok progress =>
      simp only [happly]
      exact Or.inr ⟨_, _, rfl, rfl, moves_world (queued_present _ _).toSends⟩

section
variable (plan : SessionPlan σ μ) (engine : CheckEngine μ)

/-- What the execution of a call queued, the checks being those of `engine` in some states, and how the call
ended. -/
def CallBlock (call : Call) (block : List ClientMessage) (result : Except CampaignError CallVerdict) : Prop :=
  ∃ engine' w, engine.Alike engine' ∧
    (CallExecution.execute plan.model plan.options.callBudget call engine' w).1 = result ∧
    (CallExecution.execute plan.model plan.options.callBudget call engine' w).2.2.sent = w.sent ++ block

variable {plan engine}

theorem executeCall_cases (call : Call) {s : Session σ μ} (halike : engine.Alike s.engine) :
    ∃ s' block, Moves s [] block s' ∧
      ((∃ e, executeCall plan call s = (.error e, s') ∧ CallBlock plan engine call block (.error e)) ∨
        ∃ verdict, executeCall plan call s = (.ok (), s') ∧ CallBlock plan engine call block (.ok verdict)) := by
  obtain ⟨block, hsends, hengine⟩ := CallExecution.execute_sends plan.model plan.options.callBudget call
    s.engine s.world
  have hblock : CallBlock plan engine call block
      (CallExecution.execute plan.model plan.options.callBudget call s.engine s.world).1 :=
    ⟨s.engine, s.world, halike, rfl, hsends.sent⟩
  unfold executeCall
  dsimp only [enter]
  generalize CallExecution.execute plan.model plan.options.callBudget call s.engine s.world = executed
    at hsends hengine hblock
  obtain ⟨result, engine', w'⟩ := executed
  refine ⟨{ s with entered := s.entered ++ [.executingCall], engine := engine', world := w' }, block,
    ⟨rfl, hsends, hengine, rfl⟩, ?_⟩
  cases result with
  | error e => exact Or.inl ⟨e, rfl, hblock⟩
  | ok verdict => exact Or.inr ⟨verdict, rfl, hblock⟩

/-- A reset leaves the session as its report left the surroundings. -/
theorem executeReset_session (plan : SessionPlan σ μ) (env : EnvSnapshot) (a : Attempt) (s : Session σ μ) :
    (executeReset plan env a s).2 =
      { s with
        entered := s.entered ++ [.executingReset]
        lifecycleState := (a.controller.reset plan.lifecycle env s.lifecycleState s.world).2.2.1
        world := (a.controller.reset plan.lifecycle env s.lifecycleState s.world).2.2.2 } := by
  unfold executeReset
  dsimp only [enter]
  rcases a.controller.reset plan.lifecycle env s.lifecycleState s.world with ⟨e | u, controller, state, w⟩
  · dsimp only
    split <;> rfl
  · rfl

theorem executeReset_cases (plan : SessionPlan σ μ) (env : EnvSnapshot) (a : Attempt) (s : Session σ μ) :
    ∃ s' block, Moves s [] block s' ∧
      ((∃ a' result, executeReset plan env a s = (.ok a', s') ∧ a'.progress = a.progress ∧
          ResetBlock block result ∧ ∀ e, result = .error e → e.isFatal = false) ∨
        (∃ e whole result, executeReset plan env a s = (.error e, s') ∧ e.isFatal = true ∧
          ResetBlock whole result ∧ block <+: whole) ∨
        ∃ a', executeReset plan env a s = (.ok a', s') ∧ a'.progress = a.progress ∧
          block = [resetStarted] ∧ s'.world.closed = true) := by
  obtain ⟨result, controller, state', w', block, hreset, hsends, hcases⟩ :=
    a.controller.reset_cases plan.lifecycle env s.lifecycleState s.world
  unfold executeReset
  dsimp only [enter]
  rw [hreset]
  dsimp only
  have hmoves : Moves s [] block
      { s with entered := s.entered ++ [.executingReset], lifecycleState := state', world := w' } :=
    ⟨rfl, hsends, .refl _, rfl⟩
  cases result with
  | ok u =>
    rcases hcases with hblock | ⟨hresult, -⟩ | ⟨-, -, e, hresult⟩
    · exact ⟨_, block, hmoves, Or.inl ⟨_, _, rfl, rfl, hblock, by simp⟩⟩
    · exact absurd hresult (by simp)
    · exact absurd hresult (by simp)
  | error e =>
    dsimp only
    by_cases hfatal : e.isFatal = true
    · rw [if_pos hfatal]
      refine ⟨_, block, hmoves, Or.inr (Or.inl ?_)⟩
      rcases hcases with hblock | ⟨-, whole, ending, hwhole, hfront⟩ | ⟨rfl, -⟩
      · exact ⟨e, block, _, rfl, hfatal, hblock, List.prefix_refl _⟩
      · exact ⟨e, whole, ending, rfl, hfatal, hwhole, hfront⟩
      · exact ⟨e, _, _, rfl, hfatal, .ended 0, List.prefix_append [_] _⟩
    · rw [if_neg hfatal]
      rcases hcases with hblock | ⟨hresult, -⟩ | ⟨hblock, hclosed, -⟩
      · refine ⟨_, block, hmoves, Or.inl ⟨_, _, rfl, rfl, hblock, fun e' h => ?_⟩⟩
        cases h
        simpa using hfatal
      · cases hresult
        exact absurd rfl hfatal
      · exact ⟨_, block, hmoves, Or.inr (Or.inr ⟨_, rfl, rfl, hblock, hclosed⟩)⟩

end

/-! ## One attempt -/

section
variable (plan : SessionPlan σ μ) (engine : CheckEngine μ)

/-- How an attempt answers what it takes from the stream, with the counters before it: the items taken, what
was queued for each message with acceptable counters, whether the failure of a reset went unreported, and
the end. -/
inductive Answered : Progress → List Stream.Item → List (List ClientMessage) → Bool →
    Except CampaignError AttemptEnd → Prop where
  /-- No message came. -/
  | nothing {p : Progress} {e : CampaignError} : IsReceiveError plan.options.replyTimeout e →
      Answered p [] [] false (.error e)
  /-- What came is no message. -/
  | malformed {p : Progress} {e : CampaignError} : Answered p [.error e] [] false (.error e)
  /-- The counters of a message are not acceptable. -/
  | backwards {p : Progress} {m : ServerMessage} {e : CampaignError} : counters p m = .error e →
      Answered p [.ok m] [] false (.error e)
  | report {p p' : Progress} {m : ServerMessage} {report : FuzzingReport} {items : List Stream.Item}
      {blocks : List (List ClientMessage)} {lost : Bool} {result : Except CampaignError AttemptEnd} :
      counters p m = .ok p' → m.payload = .fuzzingReport report → Answered p' items blocks lost result →
      Answered p (.ok m :: items) ([] :: blocks) lost result
  | call {p p' : Progress} {m : ServerMessage} {call : Call} {block : List ClientMessage}
      {verdict : CallVerdict} {items : List Stream.Item} {blocks : List (List ClientMessage)} {lost : Bool}
      {result : Except CampaignError AttemptEnd} :
      counters p m = .ok p' → m.payload = .call call → CallBlock plan engine call block (.ok verdict) →
      Answered p' items blocks lost result → Answered p (.ok m :: items) (block :: blocks) lost result
  /-- The error of a call ends the attempt. -/
  | callCut {p p' : Progress} {m : ServerMessage} {call : Call} {block : List ClientMessage}
      {e : CampaignError} :
      counters p m = .ok p' → m.payload = .call call → CallBlock plan engine call block (.error e) →
      Answered p [.ok m] [block] false (.error e)
  | reset {p p' : Progress} {m : ServerMessage} {block : List ClientMessage}
      {ending : Except CampaignError Unit} {items : List Stream.Item} {blocks : List (List ClientMessage)}
      {lost : Bool} {result : Except CampaignError AttemptEnd} :
      counters p m = .ok p' → m.payload = .reset → ResetBlock block ending →
      (∀ e, ending = .error e → e.isFatal = false) → Answered p' items blocks lost result →
      Answered p (.ok m :: items) (block :: blocks) lost result
  /-- A fatal error of a reset ends the attempt. -/
  | resetCut {p p' : Progress} {m : ServerMessage} {block whole : List ClientMessage}
      {ending : Except CampaignError Unit} {e : CampaignError} :
      counters p m = .ok p' → m.payload = .reset → e.isFatal = true → ResetBlock whole ending →
      block <+: whole → Answered p [.ok m] [block] false (.error e)
  /-- The failure of a reset goes unreported, and nothing is queued after it. -/
  | resetLost {p p' : Progress} {m : ServerMessage} {items : List Stream.Item}
      {blocks : List (List ClientMessage)} {lost : Bool} {result : Except CampaignError AttemptEnd} :
      counters p m = .ok p' → m.payload = .reset → (∀ block ∈ blocks, block = []) →
      Answered p' items blocks lost result →
      Answered p (.ok m :: items) ([resetStarted] :: blocks) true result
  /-- The result of the attempt ends it. -/
  | ended {p p' : Progress} {m : ServerMessage} {result : FuzzingResult} {hadResetError : Bool} :
      counters p m = .ok p' → m.payload = .fuzzingResult result →
      Answered p [.ok m] [[]] false (.ok (conclude result hadResetError))

/-- The answer to a message after which the attempt goes on: the counters before it, the message, what was
queued for it, whether the failure of a reset went unreported, and the counters after it. -/
inductive Round : Progress → ServerMessage → List ClientMessage → Bool → Progress → Prop where
  | report {p p' : Progress} {m : ServerMessage} {report : FuzzingReport} :
      counters p m = .ok p' → m.payload = .fuzzingReport report → Round p m [] false p'
  | call {p p' : Progress} {m : ServerMessage} {call : Call} {block : List ClientMessage}
      {verdict : CallVerdict} :
      counters p m = .ok p' → m.payload = .call call → CallBlock plan engine call block (.ok verdict) →
      Round p m block false p'
  | reset {p p' : Progress} {m : ServerMessage} {block : List ClientMessage}
      {ending : Except CampaignError Unit} :
      counters p m = .ok p' → m.payload = .reset → ResetBlock block ending →
      (∀ e, ending = .error e → e.isFatal = false) → Round p m block false p'
  | unreported {p p' : Progress} {m : ServerMessage} :
      counters p m = .ok p' → m.payload = .reset → Round p m [resetStarted] true p'

variable {plan engine}

/-- A message answered, and the rest of the attempt. After a failure that went unreported the rest is
silent. -/
theorem Round.answered {p p' : Progress} {m : ServerMessage} {block : List ClientMessage}
    {unreported lost : Bool} {items : List Stream.Item} {blocks : List (List ClientMessage)}
    {result : Except CampaignError AttemptEnd} (hround : Round plan engine p m block unreported p')
    (hsilent : unreported = true → ∀ block ∈ blocks, block = [])
    (hrest : Answered plan engine p' items blocks lost result) :
    Answered plan engine p (.ok m :: items) (block :: blocks) (unreported || lost) result := by
  cases hround with
  | report hcounters hpayload => exact .report hcounters hpayload hrest
  | call hcounters hpayload hblock => exact .call hcounters hpayload hblock hrest
  | reset hcounters hpayload hblock hnot => exact .reset hcounters hpayload hblock hnot hrest
  | unreported hcounters hpayload => exact .resetLost hcounters hpayload (hsilent rfl) hrest

/-- One round: the attempt ends with it, or it goes on with the message answered. -/
theorem follow_round (env : EnvSnapshot) (fuel : Nat) (a : Attempt) (s : Session σ μ)
    (halike : engine.Alike s.engine) :
    (∃ result s' items blocks, follow plan env (fuel + 1) a s = (result, s') ∧
      Moves s items blocks.flatten s' ∧ Answered plan engine a.progress items blocks false result) ∨
    ∃ a' s' m block unreported, follow plan env (fuel + 1) a s = follow plan env fuel a' s' ∧
      Moves s [.ok m] block s' ∧ Round plan engine a.progress m block unreported a'.progress ∧
      (unreported = true → s'.world.closed = true) := by
  rw [follow]
  dsimp only
  have hentered := moves_enter s .awaitDirective
  obtain ⟨s₁, ⟨e, hreceive, herror, hs₁⟩ | ⟨item, hreceive, hs₁⟩⟩ :=
    receive_cases plan.options.replyTimeout (s.enter .awaitDirective)
  · rw [hreceive]
    exact Or.inl ⟨_, _, [], [], rfl, hentered.after hs₁, .nothing herror⟩
  rw [hreceive]
  have htaken := hentered.after hs₁
  rcases item with e | m
  · exact Or.inl ⟨_, _, _, [], rfl, htaken, .malformed⟩
  dsimp only
  obtain ⟨e, htake, hcounters⟩ | ⟨a₁, s₂, htake, hcounters, hs₂⟩ := takeProgress_cases m a s₁
  · rw [htake]
    exact Or.inl ⟨_, _, _, [], rfl, htaken, .backwards hcounters⟩
  rw [htake]
  dsimp only
  have hready := htaken.before hs₂
  cases hpayload : m.payload with
  | fuzzingReport report =>
    have hshown : Moves s₂ [] [] { s₂ with world := s₂.world.present (.report report) } :=
      moves_world (queued_present _ _).toSends
    exact Or.inr ⟨_, _, m, [], false, rfl, hready.before hshown, .report hcounters hpayload, by simp⟩
  | call call =>
    obtain ⟨s₃, block, hs₃, ⟨e, hexecute, hblock⟩ | ⟨verdict, hexecute, hblock⟩⟩ :=
      executeCall_cases call (halike.trans hready.engine)
    · dsimp only
      rw [hexecute]
      exact Or.inl ⟨_, _, _, [block], rfl, by simpa using hready.trans hs₃, .callCut hcounters hpayload hblock⟩
    · dsimp only
      rw [hexecute]
      exact Or.inr ⟨_, _, m, block, false, rfl, hready.trans hs₃, .call hcounters hpayload hblock, by simp⟩
  | reset =>
    obtain ⟨s₃, block, hs₃, ⟨a₂, ending, hreset, hprogress, hblock, hnot⟩ |
      ⟨e, whole, ending, hreset, hfatal, hwhole, hfront⟩ | ⟨a₂, hreset, hprogress, rfl, hclosed⟩⟩ :=
      executeReset_cases plan env a₁ s₂
    · dsimp only
      rw [hreset]
      -- a reset leaves the counters as the message set them
      rw [← hprogress] at hcounters
      exact Or.inr ⟨_, _, m, block, false, rfl, hready.trans hs₃, .reset hcounters hpayload hblock hnot, by simp⟩
    · dsimp only
      rw [hreset]
      exact Or.inl ⟨_, _, _, [block], rfl, by simpa using hready.trans hs₃,
        .resetCut hcounters hpayload hfatal hwhole hfront⟩
    · dsimp only
      rw [hreset]
      rw [← hprogress] at hcounters
      exact Or.inr ⟨_, _, m, _, true, rfl, hready.trans hs₃, .unreported hcounters hpayload, fun _ => hclosed⟩
  | fuzzingResult result =>
    have hended := (hready.before (moves_enter s₂ .resultReceived)).before (moves_enter _
      (AttemptEnd.state (conclude result a₁.controller.hadResetError)))
    exact Or.inl ⟨_, _, _, [[]], rfl, hended, .ended hcounters hpayload⟩

/-- What an attempt takes and queues after its campaign. -/
theorem follow_answered (env : EnvSnapshot) (fuel : Nat) (a : Attempt) (s : Session σ μ)
    (halike : engine.Alike s.engine) (hfuel : s.inbound.items.length < fuel) :
    ∃ result s' items blocks lost, follow plan env fuel a s = (result, s') ∧
      Moves s items blocks.flatten s' ∧ Answered plan engine a.progress items blocks lost result ∧
      (lost = true → s'.world.closed = true) := by
  induction fuel generalizing a s with
  | zero => omega
  | succ fuel ih =>
    obtain ⟨result, s', items, blocks, hfollow, hmoves, hanswered⟩ |
      ⟨a₁, s₁, m, block, unreported, hfollow, hmoves, hround, hclosed⟩ := follow_round env fuel a s halike
    · exact ⟨result, s', items, blocks, false, hfollow, hmoves, hanswered, by simp⟩
    -- a message was taken, so there are rounds enough for the rest
    have hlength := congrArg List.length hmoves.items
    rw [List.length_append, List.length_singleton] at hlength
    obtain ⟨result, s', items, blocks, lost, hrest, hmore, hanswered, hlost⟩ :=
      ih a₁ s₁ (halike.trans hmoves.engine) (by omega)
    have hsilent : unreported = true → ∀ block ∈ blocks, block = [] := fun h block hblock =>
      List.flatten_eq_nil_iff.1 (hmore.world.closed (hclosed h)).1 block hblock
    refine ⟨result, s', _, _, _, hfollow.trans hrest, hmoves.trans hmore, hround.answered hsilent hanswered,
      fun h => ?_⟩
    rcases Bool.or_eq_true_iff.1 h with h | h
    · exact (hmore.world.closed (hclosed h)).2
    · exact hlost h

/-- The campaign is announced and then the messages are answered, or it is not and nothing is. -/
theorem drive_cases (descriptor : CampaignDescriptor) (s : Session σ μ) (halike : engine.Alike s.engine) :
    ∃ result s', drive plan descriptor s = (result, s') ∧
      ((∃ e, result = .error e ∧ Moves s [] [] s') ∨
        ∃ items blocks lost, Moves s items (.campaign descriptor :: blocks.flatten) s' ∧
          Answered plan engine {} items blocks lost result ∧ (lost = true → s'.world.closed = true)) := by
  unfold drive
  have hentered := moves_enter s .init
  obtain ⟨w, ⟨hsend, hw⟩ | ⟨hsend, hw⟩⟩ := send_cases (s.enter .init).world (.campaign descriptor)
  · rw [send, hsend]
    exact ⟨_, _, rfl, Or.inl ⟨_, rfl, hentered.after (moves_world hw.toSends)⟩⟩
  · rw [send, hsend]
    dsimp only
    have hannounced := hentered.after (moves_world hw.toSends)
    obtain ⟨result, s', items, blocks, lost, hfollow, hmoves, hanswered, hlost⟩ :=
      follow_answered descriptor.env _ {} _ (halike.trans hannounced.engine) (Nat.lt_succ_self _)
    exact ⟨result, s', hfollow, Or.inr ⟨items, blocks, lost, hannounced.trans hmoves, hanswered, hlost⟩⟩

end

/-- How an attempt's own result and its cleanup make up its end. -/
structure Cleaned (result : Except CampaignError AttemptEnd) (released flushed : Except CampaignError Unit)
    (ending : Except CampaignError AttemptEnd) : Prop where
  ok : ∀ attemptEnd, ending = .ok attemptEnd ↔ result = .ok attemptEnd ∧ released = .ok () ∧ flushed = .ok ()
  own_error : ∀ e, result = .error e → ending = .error e

theorem cleaned_finish (result : Except CampaignError AttemptEnd) (released flushed : Except CampaignError Unit) :
    Cleaned result released flushed (finish result [released, flushed]) := by
  rcases result with e | attemptEnd
  · exact ⟨by simp [finish], by simp [finish]⟩
  · rcases released with e | _
    · exact ⟨by simp [finish], by simp⟩
    · rcases flushed with e | _
      · exact ⟨by simp [finish], by simp⟩
      · exact ⟨by simp [finish], by simp⟩

theorem moves_flush (plan : SessionPlan σ μ) (s : Session σ μ) : Moves s [] [] (flush plan s).2 :=
  ⟨rfl, (queued_present _ _).toSends, .refl _, rfl⟩

theorem moves_release (plan : SessionPlan σ μ) (s : Session σ μ) : Moves s [] [] (release plan s).2 :=
  ⟨rfl, ((queued_look _).after (queued_apply _ _)).toSends, .refl _, rfl⟩

section
variable (plan : SessionPlan σ μ) (seed : List UInt8) (start : Session σ μ)

/-- An attempt as it begins, with its resetter. -/
def equipped : Session σ μ :=
  { start with
    lifecycleState := (plan.lifecycle.build start.lifecycleState start.world.outside).2.2
    world := start.world.apply (plan.lifecycle.build start.lifecycleState start.world.outside).2.1 }

/-- The campaign of an attempt. -/
def campaign : CampaignDescriptor :=
  (plan.descriptor.withSeed seed).withResetter (plan.lifecycle.descriptor (equipped plan start).lifecycleState)

/-- What an attempt with a resetter comes to before its cleanup. -/
def driven : Except CampaignError AttemptEnd × Session σ μ :=
  drive plan (campaign plan seed start) (equipped plan start)

theorem moves_equipped : Moves start [] [] (equipped plan start) :=
  ⟨rfl, (queued_apply _ _).toSends, .refl _, rfl⟩

variable {plan start}

/-- An attempt with a resetter, and its cleanup. -/
theorem attempt_equipped (hbuild : (plan.lifecycle.build start.lifecycleState start.world.outside).1 = .ok ()) :
    attempt plan seed start =
      (finish (driven plan seed start).1 [(release plan (driven plan seed start).2).1,
          (flush plan (release plan (driven plan seed start).2).2).1],
        (flush plan (release plan (driven plan seed start).2).2).2) := by
  rcases hbuilt : plan.lifecycle.build start.lifecycleState start.world.outside with ⟨e | _, effects, state⟩
  · rw [hbuilt] at hbuild
    cases hbuild
  · simp only [attempt, driven, campaign, equipped, hbuilt]

/-- An attempt without a resetter. -/
theorem attempt_unequipped {e : CampaignError}
    (hbuild : (plan.lifecycle.build start.lifecycleState start.world.outside).1 = .error e) :
    attempt plan seed start = (.error e, (flush plan (equipped plan start)).2) := by
  rcases hbuilt : plan.lifecycle.build start.lifecycleState start.world.outside with ⟨e | _, effects, state⟩
  · rw [hbuilt] at hbuild
    cases hbuild
    simp only [attempt, equipped, hbuilt]
    generalize (flush plan _).1 = flushed
    cases flushed <;> rfl
  · rw [hbuilt] at hbuild
    cases hbuild

end

/-- One attempt of a session. -/
structure AttemptRecord (σ μ : Type) where
  seed : List UInt8
  /-- The session as the attempt began, and as it ended. -/
  start : Session σ μ
  stop : Session σ μ
  ending : Except CampaignError AttemptEnd
  /-- Whether its campaign was queued. -/
  announced : Bool
  /-- What it took from the stream. -/
  consumed : List Stream.Item
  /-- What it queued for each message. -/
  blocks : List (List ClientMessage)
  /-- Whether the failure of a reset went unreported. -/
  lost : Bool

namespace AttemptRecord

/-- The campaign of an attempt: the initial one but for the seed and the resetter, which is the one built
for this attempt. -/
def campaign (plan : SessionPlan σ μ) (r : AttemptRecord σ μ) : CampaignDescriptor :=
  { plan.descriptor with
    seed := r.seed
    resetter := plan.lifecycle.descriptor (equipped plan r.start).lifecycleState }

/-- What an attempt queued. -/
def queued (plan : SessionPlan σ μ) (r : AttemptRecord σ μ) : List ClientMessage :=
  if r.announced then .campaign (r.campaign plan) :: r.blocks.flatten else []

/-- The record is one of an attempt. Without its campaign an attempt takes and queues nothing and fails;
with it, it answers messages, and then the resetter is released and the display told. -/
structure Valid (plan : SessionPlan σ μ) (engine : CheckEngine μ) (r : AttemptRecord σ μ) : Prop where
  ran : attempt plan r.seed r.start = (r.ending, r.stop)
  moves : Moves r.start r.consumed (r.queued plan) r.stop
  silent : r.announced = false → r.consumed = [] ∧ r.blocks = [] ∧ r.lost = false ∧ ∃ e, r.ending = .error e
  answered : r.announced = true →
    (plan.lifecycle.build r.start.lifecycleState r.start.world.outside).1 = .ok () ∧
    ∃ result s, Answered plan engine {} r.consumed r.blocks r.lost result ∧
      Cleaned result (release plan s).1 (flush plan (release plan s).2).1 r.ending ∧
      r.stop = (flush plan (release plan s).2).2

end AttemptRecord

/-- In surroundings that take no messages an attempt is not announced. -/
theorem AttemptRecord.Valid.not_announced {plan : SessionPlan σ μ} {engine : CheckEngine μ} {r : AttemptRecord σ μ}
    (h : r.Valid plan engine) (hclosed : r.start.world.closed = true) : r.announced = false := by
  have hnothing := (h.moves.world.closed hclosed).1
  by_cases hannounced : r.announced = true
  · simp [AttemptRecord.queued, hannounced] at hnothing
  · simpa using hannounced

/-- Every attempt has a valid record, and only loses a report when messages are taken no more. -/
theorem attempt_record (plan : SessionPlan σ μ) {engine : CheckEngine μ} (seed : List UInt8) (s : Session σ μ)
    (halike : engine.Alike s.engine) :
    ∃ r : AttemptRecord σ μ, r.seed = seed ∧ r.start = s ∧ r.Valid plan engine ∧
      (r.lost = true → r.stop.world.closed = true) := by
  have hbuilt := moves_equipped plan s
  cases hbuild : (plan.lifecycle.build s.lifecycleState s.world.outside).1 with
  | error e =>
    have hrun := attempt_unequipped seed hbuild
    exact ⟨⟨seed, s, _, _, false, [], [], false⟩, rfl, rfl,
      ⟨hrun, hbuilt.before (moves_flush plan _), fun _ => ⟨rfl, rfl, rfl, e, rfl⟩, by simp⟩, by simp⟩
  | ok u =>
    obtain ⟨result, s', hdrive, hcases⟩ := drive_cases (campaign plan seed s) (equipped plan s) halike
    have hrun := attempt_equipped seed hbuild
    rw [driven, hdrive] at hrun
    have hcleaned := cleaned_finish result (release plan s').1 (flush plan (release plan s').2).1
    have hcleanup := (moves_release plan s').before (moves_flush plan (release plan s').2)
    rcases hcases with ⟨e, rfl, hmoves⟩ | ⟨items, blocks, lost, hmoves, hanswered, hlost⟩
    · exact ⟨⟨seed, s, _, _, false, [], [], false⟩, rfl, rfl,
        ⟨hrun, (hbuilt.after hmoves).before hcleanup,
          fun _ => ⟨rfl, rfl, rfl, e, hcleaned.own_error e rfl⟩, by simp⟩, by simp⟩
    · have hall := (hbuilt.after hmoves).before hcleanup
      exact ⟨⟨seed, s, _, _, true, items, blocks, lost⟩, rfl, rfl,
        ⟨hrun, hall, by simp, fun _ => ⟨hbuild, result, s', hanswered, hcleaned, rfl⟩⟩,
        fun h => (hcleanup.world.closed (hlost h)).2⟩

/-! ## The whole session -/

/-- The session as another attempt begins. -/
def counted (s : Session σ μ) : Session σ μ := { s with attempts := s.attempts + 1 }

/-- The attempt after another one: it follows a result that gave its seed, and a cleanup without errors. -/
structure Continues (r r' : AttemptRecord σ μ) : Prop where
  ending : r.ending = .ok (.continueWith r'.seed)
  result : ∃ m result, r.consumed.getLast? = some (.ok m) ∧ m.payload = .fuzzingResult result ∧
    result.nextSeed = some r'.seed
  start : r'.start = counted r.stop
  /-- After a reset that went unreported nothing more is queued. -/
  lost : r.lost = true → r'.announced = false

/-- A chain of at most `limit` attempts that begins with a seed. -/
structure SessionTrace (plan : SessionPlan σ μ) (engine : CheckEngine μ) (limit : Nat) (seed : List UInt8)
    (s : Session σ μ) (records : List (AttemptRecord σ μ)) (outcome : Except CampaignError Verdict)
    (s' : Session σ μ) : Prop where
  valid : ∀ r ∈ records, r.Valid plan engine
  first : ∃ r, records.head? = some r ∧ r.seed = seed ∧ r.start = counted s
  continued : records.IsChain Continues
  limited : records.length ≤ limit
  attempts : s'.attempts = s.attempts + records.length
  sent : s'.world.sent = s.world.sent ++ records.flatMap (AttemptRecord.queued plan)
  consumed : s.inbound.items = records.flatMap AttemptRecord.consumed ++ s'.inbound.items
  last : ∃ r, records.getLast? = some r ∧ r.stop = s' ∧
    match r.ending with
    | .error e => outcome = .error e
    | .ok (.concluded verdict) => outcome = .ok verdict
    | .ok (.continueWith _) => records.length = limit ∧
        outcome = .error (tooManyAttempts plan.options.maxAttempts)

theorem nextSeed_of_conclude {result : FuzzingResult} {hadResetError : Bool} {next : List UInt8}
    (h : conclude result hadResetError = .continueWith next) : result.nextSeed = some next := by
  unfold conclude at h
  split at h
  · next seed hseed =>
    cases h
    exact hseed
  · cases h

/-- An attempt only asks for another one with the result that it took last. -/
theorem Answered.next_seed {plan : SessionPlan σ μ} {engine : CheckEngine μ} {p : Progress}
    {items : List Stream.Item} {blocks : List (List ClientMessage)} {lost : Bool} {next : List UInt8}
    (h : Answered plan engine p items blocks lost (.ok (.continueWith next))) :
    ∃ m result, items.getLast? = some (.ok m) ∧ m.payload = .fuzzingResult result ∧
      result.nextSeed = some next := by
  generalize hresult : Except.ok (AttemptEnd.continueWith next) = result at h
  induction h with
  | nothing | malformed | backwards | callCut | resetCut => cases hresult
  | report _ _ _ ih | call _ _ _ _ ih | reset _ _ _ _ _ ih | resetLost _ _ _ _ ih =>
    obtain ⟨m, result, hlast, hm⟩ := ih hresult
    exact ⟨m, result, by rw [List.getLast?_cons, hlast, Option.getD_some], hm⟩
  | ended _ hpayload =>
    exact ⟨_, _, rfl, hpayload, nextSeed_of_conclude (Except.ok.inj hresult).symm⟩

/-- An attempt that asks for another one ended with a result that gave the seed. -/
theorem AttemptRecord.Valid.next_seed {plan : SessionPlan σ μ} {engine : CheckEngine μ} {r : AttemptRecord σ μ}
    {next : List UInt8} (h : r.Valid plan engine) (hending : r.ending = .ok (.continueWith next)) :
    ∃ m result, r.consumed.getLast? = some (.ok m) ∧ m.payload = .fuzzingResult result ∧
      result.nextSeed = some next := by
  by_cases hannounced : r.announced = true
  · obtain ⟨-, result, s, hanswered, hcleaned, -⟩ := h.answered hannounced
    obtain ⟨rfl, -⟩ := (hcleaned.ok _).1 hending
    exact hanswered.next_seed
  · obtain ⟨-, -, -, e, herror⟩ := h.silent (by simpa using hannounced)
    rw [hending] at herror
    cases herror

section
variable {plan : SessionPlan σ μ} {engine : CheckEngine μ} {limit : Nat} {seed : List UInt8} {s s' : Session σ μ}
  {r : AttemptRecord σ μ} {records : List (AttemptRecord σ μ)} {outcome : Except CampaignError Verdict}

/-- A session of one attempt. -/
theorem SessionTrace.single (hvalid : r.Valid plan engine) (hstart : r.start = counted s)
    (houtcome : match r.ending with
      | .error e => outcome = .error e
      | .ok (.concluded verdict) => outcome = .ok verdict
      | .ok (.continueWith _) => 1 = limit + 1 ∧
          outcome = .error (tooManyAttempts plan.options.maxAttempts)) :
    SessionTrace plan engine (limit + 1) r.seed s [r] outcome r.stop where
  valid := by simpa using hvalid
  first := ⟨r, rfl, rfl, hstart⟩
  continued := List.isChain_singleton r
  limited := by simp
  attempts := by rw [hvalid.moves.attempts, hstart]; rfl
  sent := by
    rw [hvalid.moves.world.sent, hstart]
    simp [counted]
  consumed := by
    have hitems := hvalid.moves.items
    rw [hstart] at hitems
    simpa [counted] using hitems
  last := ⟨r, rfl, rfl, houtcome⟩

/-- An attempt, and the session that it asks for. -/
theorem SessionTrace.cons {next : List UInt8} (hvalid : r.Valid plan engine) (hstart : r.start = counted s)
    (hending : r.ending = .ok (.continueWith next)) (hlost : r.lost = true → r.stop.world.closed = true)
    (h : SessionTrace plan engine limit next r.stop records outcome s') :
    SessionTrace plan engine (limit + 1) r.seed s (r :: records) outcome s' where
  valid := by
    rw [List.forall_mem_cons]
    exact ⟨hvalid, h.valid⟩
  first := ⟨r, rfl, rfl, hstart⟩
  continued := by
    obtain ⟨r', hhead, hseed, hstart'⟩ := h.first
    cases records with
    | nil => cases hhead
    | cons head rest =>
      cases hhead
      refine List.isChain_cons_cons.2 ⟨⟨hseed ▸ hending, ?_, hstart', fun h' => ?_⟩, h.continued⟩
      · rw [hseed]
        exact hvalid.next_seed hending
      · -- messages were taken no more when the next attempt began
        have hclosed : r'.start.world.closed = true := by
          rw [hstart']
          exact hlost h'
        exact (h.valid r' List.mem_cons_self).not_announced hclosed
  limited := by simpa using h.limited
  attempts := by
    rw [h.attempts, hvalid.moves.attempts, hstart, List.length_cons]
    simp only [counted]
    omega
  sent := by
    rw [h.sent, hvalid.moves.world.sent, hstart]
    simp [counted]
  consumed := by
    have hitems := hvalid.moves.items
    rw [hstart, h.consumed] at hitems
    simpa [counted] using hitems
  last := by
    obtain ⟨last, hlast, hstop, houtcome⟩ := h.last
    refine ⟨last, by rw [List.getLast?_cons, hlast, Option.getD_some], hstop, ?_⟩
    split at houtcome
    · exact houtcome
    · exact houtcome
    · exact ⟨by rw [List.length_cons, houtcome.1], houtcome.2⟩

end

/-- Attempts up to a limit are a chain. -/
theorem runAttempts_trace (plan : SessionPlan σ μ) {engine : CheckEngine μ} (limit : Nat) (seed : List UInt8)
    (s : Session σ μ) (halike : engine.Alike s.engine) :
    ∃ records, SessionTrace plan engine (limit + 1) seed s records (runAttempts plan (limit + 1) seed s).1
      (runAttempts plan (limit + 1) seed s).2 := by
  induction limit generalizing seed s with
  | zero =>
    obtain ⟨r, rfl, hstart, hvalid, -⟩ := attempt_record plan seed (counted s) halike
    have hran := hvalid.ran
    rw [hstart] at hran
    refine ⟨[r], ?_⟩
    rw [runAttempts, ← counted, hran]
    rcases hending : r.ending with e | next | verdict
    · exact .single hvalid hstart (by rw [hending])
    · exact .single hvalid hstart (by rw [hending]; exact ⟨rfl, rfl⟩)
    · exact .single hvalid hstart (by rw [hending])
  | succ limit ih =>
    obtain ⟨r, rfl, hstart, hvalid, hlost⟩ := attempt_record plan seed (counted s) halike
    have hran := hvalid.ran
    rw [hstart] at hran
    rw [runAttempts, ← counted, hran]
    rcases hending : r.ending with e | next | verdict
    · exact ⟨[r], .single hvalid hstart (by rw [hending])⟩
    · have hengine : engine.Alike r.stop.engine := by
        refine halike.trans ?_
        have hmoves := hvalid.moves.engine
        rwa [hstart] at hmoves
      obtain ⟨records, htrace⟩ := ih next r.stop hengine
      exact ⟨r :: records, .cons hvalid hstart hending hlost htrace⟩
    · exact ⟨[r], .single hvalid hstart (by rw [hending])⟩

/-- **The messages of a session.** A fresh session is a chain of attempts that begins with the seed of its
campaign, whatever the orchestrator, the model, the hooks and the resetters do. -/
theorem run_trace (plan : SessionPlan σ μ) (s : Session σ μ) (hfresh : s.attempts = 0)
    (hlimit : 1 ≤ plan.options.maxAttempts) :
    ∃ records, SessionTrace plan s.engine plan.options.maxAttempts plan.descriptor.seed s records
      (run plan s).1 (run plan s).2 := by
  obtain ⟨limit, hmax⟩ := Nat.exists_eq_add_of_le' hlimit
  rw [run, hfresh, Nat.sub_zero, hmax]
  exact runAttempts_trace plan limit _ s (.refl _)

/-! ## A failure that goes unreported -/

/-- A resetter that fails while the orchestrator goes away. -/
def unheardLifecycle : Lifecycle Unit Unit where
  build s outside := (.ok (), { outside }, s)
  descriptor _ := .noop
  reset _ _ _ s outside := (.error (.phase "reset" "script failed"), { nudge := { close := true }, outside }, s)
  terminate _ s outside := (.ok (), { outside }, s)

/-- A campaign with this resetter. -/
def unheardPlan : SessionPlan Unit Unit where
  model := { prepare := fun _ outside => (.error (.directive "unknown endpoint"), { outside }) }
  lifecycle := unheardLifecycle
  descriptor :=
    { endpoints := [1], env := .empty, model := .null, resetter := .noop, seed := [1], tags := .empty,
      invocation := .capture 0 ⟨2026, 1, 2, 3, 4, 5, 0, by decide⟩ [] }
  options := {}

/-- One reset and a success. -/
def unheardSession : Session Unit Unit where
  engine := { filter := ⟨.empty, .empty⟩, limits := {} }
  world := { outside := () }
  inbound := ⟨[.ok ⟨none, .reset⟩, .ok ⟨none, .fuzzingResult { success := true }⟩], false⟩
  lifecycleState := ()

/-- The session ends with success although the messages of its reset are not whole. -/
theorem unheard_reset_cut_short :
    (run unheardPlan unheardSession).1 = .ok .success ∧
      (run unheardPlan unheardSession).2.world.sent = [.campaign unheardPlan.descriptor, resetStarted] ∧
      ∀ ending, ¬ ResetBlock [resetStarted] ending := by
  refine ⟨rfl, rfl, fun ending h => ?_⟩
  cases h

/-- The same session as `run_trace` sees it. -/
theorem unheard_session_trace :
    ∃ records, SessionTrace unheardPlan unheardSession.engine 1000 [1] unheardSession records
      (run unheardPlan unheardSession).1 (run unheardPlan unheardSession).2 :=
  run_trace unheardPlan unheardSession rfl (by decide)

end Session

end FuzzCampaign
