import FuzzCampaign.Proofs.Progress
import FuzzCampaign.Proofs.Session.Effects
set_option autoImplicit false

/-! # The counters of an attempt

The messages of an attempt carry updates of its counters. `attempts_forward_counters` says which of them are shown and
which of them ends the session: an attempt begins with all counters at zero, shows each update that may come
after the one before it, and is over with the first that may not, before its message is dispatched. -/

namespace FuzzCampaign

/-- What is shown: these updates, in order, and among them no other counters than these. -/
inductive Forwarded (counters : Progress → Prop) : List SinkEvent → List Progress → Prop where
  | nil : Forwarded counters [] []
  | update {p : Progress} {events : List SinkEvent} {updates : List Progress} :
      Forwarded counters events updates → Forwarded counters (.progress p :: events) (p :: updates)
  | other {e : SinkEvent} {events : List SinkEvent} {updates : List Progress} :
      (∀ p, e = .progress p → counters p) → Forwarded counters events updates →
      Forwarded counters (e :: events) updates

section
variable {counters : Progress → Prop} {events more : List SinkEvent} {updates further : List Progress}

theorem forwarded_nil (h : ∀ p, .progress p ∈ events → counters p) : Forwarded counters events [] := by
  induction events with
  | nil => exact .nil
  | cons e rest ih =>
    refine .other (fun p hp => h p ?_) (ih fun p hp => h p (List.mem_cons_of_mem e hp))
    rw [hp]
    exact List.mem_cons_self

theorem Forwarded.append (h : Forwarded counters events updates) (h' : Forwarded counters more further) :
    Forwarded counters (events ++ more) (updates ++ further) := by
  induction h with
  | nil => exact h'
  | update _ ih => exact .update ih
  | other hother _ ih => exact .other hother ih

end

namespace World

variable {μ : Type}

/-- From `w` to `w'` these updates were shown, in order, and no other counters than these. -/
def Forwards (counters : Progress → Prop) (updates : List Progress) (w w' : World μ) : Prop :=
  ∃ events, w'.shown = w.shown ++ events ∧ Forwarded counters events updates

variable {counters : Progress → Prop} {updates further : List Progress} {w w' w'' : World μ}

theorem Quiet.forwards (h : Quiet counters w w') : Forwards counters [] w w' := by
  obtain ⟨events, hshown, hevents⟩ := h.shown
  exact ⟨events, hshown, forwarded_nil hevents⟩

theorem forwards_of_shown (h : w'.shown = w.shown) : Forwards counters [] w w' :=
  ⟨[], by rw [h, List.append_nil], .nil⟩

theorem Forwards.trans (h : Forwards counters updates w w') (h' : Forwards counters further w' w'') :
    Forwards counters (updates ++ further) w w'' := by
  obtain ⟨events, hshown, hevents⟩ := h
  obtain ⟨more, hshown', hmore⟩ := h'
  exact ⟨events ++ more, by rw [hshown', hshown, List.append_assoc], hevents.append hmore⟩

/-- Nothing forwarded before. -/
theorem Forwards.after (h : Quiet counters w w') (h' : Forwards counters updates w' w'') :
    Forwards counters updates w w'' := h.forwards.trans h'

/-- Nothing forwarded after. -/
theorem Forwards.before (h : Forwards counters updates w w') (h' : Quiet counters w' w'') :
    Forwards counters updates w w'' := by
  simpa using h.trans h'.forwards

end World

namespace Session

open World (Forwards Quiet)
open Progress (held accepted)

variable {σ μ : Type}

/-- The updates that messages carry. -/
def updates (messages : List ServerMessage) : List Progress := messages.filterMap (·.progress)

/-! ## Turns -/

section
variable {plan : SessionPlan σ μ} {env : EnvSnapshot} {a a' : Attempt} {s s' : Session σ μ} {m : ServerMessage}
  {messages : List ServerMessage}

/-- Acceptable counters are taken over and shown. -/
theorem Takes.forwards (h : Takes plan a s m a' s') :
    Forwards (PartsShow plan) (updates [m]) s.world s'.world ∧
      accepted a.progress (updates [m]) = updates [m] ∧
      a'.progress = (updates [m]).foldl held a.progress := by
  obtain ⟨received, hawait, htake⟩ := h
  have hquiet : Quiet (PartsShow plan) _ _ := quiet_await plan s
  rw [hawait] at hquiet
  cases hm : m.progress with
  | none =>
    rw [hm, takeProgress] at htake
    cases htake
    simp only [updates, List.filterMap_cons, hm, List.filterMap_nil]
    exact ⟨hquiet.forwards, rfl, rfl⟩
  | some update =>
    simp only [updates, List.filterMap_cons, hm, List.filterMap_nil]
    rcases Progress.apply_cases a.progress update with ⟨hprecedes, happly⟩ | ⟨-, message, happly⟩
    · rw [hm, takeProgress] at htake
      simp only [happly] at htake
      cases htake
      refine ⟨.after hquiet ⟨[.progress update], rfl, .update .nil⟩, ?_, ?_⟩
      · rw [Progress.accepted_cons_of_precedes hprecedes, accepted]
      · rw [List.foldl_cons, List.foldl_nil, Progress.held_of_precedes hprecedes]
    · rw [hm, takeProgress] at htake
      simp only [happly] at htake
      cases htake

/-- A message that is dispatched leaves the counters as it set them. -/
theorem dispatch_progress {payload : ServerPayload} (h : dispatch plan env a s payload = (.goesOn a', s')) :
    a'.progress = a.progress := by
  cases payload with
  | fuzzingReport report =>
    cases h
    rfl
  | call call =>
    dsimp only [dispatch] at h
    generalize executeCall plan call s = executed at h
    obtain ⟨e | u, s₁⟩ := executed
    · cases h
    · cases h
      rfl
  | reset =>
    obtain ⟨s₁, block, -, ⟨a₁, ending, hreset, hprogress, -⟩ | ⟨e, whole, ending, hreset, -⟩ |
      ⟨a₁, hreset, hprogress, -⟩⟩ := executeReset_cases plan env a s
    all_goals
      simp only [dispatch, hreset] at h
      cases h
    · exact hprogress
    · exact hprogress
  | fuzzingResult result => cases h

/-- Turns show the updates of their messages, which are all accepted. -/
theorem Turns.forwards (h : Turns plan env a s messages a' s') :
    Forwards (PartsShow plan) (updates messages) s.world s'.world ∧
      accepted a.progress (updates messages) = updates messages ∧
      a'.progress = (updates messages).foldl held a.progress := by
  induction h with
  | nil => exact ⟨(Quiet.refl _).forwards, rfl, rfl⟩
  | @cons a a₁ a₂ a' s s₁ s₂ s' m rest htakes hdispatch _ ih =>
    obtain ⟨hshown, haccepted, hheld⟩ := htakes.forwards
    obtain ⟨hmore, hrest, hend⟩ := ih
    have hquiet := quiet_dispatch plan env a₁ s₁ m.payload
    rw [hdispatch] at hquiet
    have hsplit : updates (m :: rest) = updates [m] ++ updates rest := by
      rw [updates, updates, updates, ← List.filterMap_append, List.singleton_append]
    rw [dispatch_progress hdispatch, hheld] at hrest hend
    refine ⟨?_, ?_, ?_⟩
    · rw [hsplit]
      exact hshown.trans (.after hquiet hmore)
    · rw [hsplit, Progress.accepted_append, haccepted, hrest]
    · rw [hsplit, List.foldl_append, hend]

end

/-! ## Attempts -/

section
variable (plan : SessionPlan σ μ) (seed : List UInt8) (start : Session σ μ)

/-- What an attempt that leaves the session `stop` does with the counters of the messages it receives. An error
for which `endsWith` holds is what the session ends with. -/
structure ForwardsCounters (received : List ServerMessage) (stop : Session σ μ) (endsWith : CampaignError → Prop) :
    Prop where
  /-- Apart from what is no message only these messages were taken from the stream. -/
  taken : ∃ rest, (rest = [] ∨ ∃ e, rest = [.error e]) ∧
    start.inbound.items = received.map .ok ++ rest ++ stop.inbound.items
  /-- The accepted updates are shown, beginning with zero. -/
  shown : Forwards (PartsShow plan) (accepted {} (updates received)) start.world stop.world
  /-- The first message whose update is refused is the last that is received. It is received when the messages
  before it were dispatched, and what this leaves is what the attempt comes to. -/
  refused : ∀ before m after update, received = before ++ m :: after → m.progress = some update →
    ¬ ((updates before).foldl held {}).Precedes update →
    after = [] ∧ ∃ message a waiting,
      ((updates before).foldl held {}).apply update = .error (.directive message) ∧
      Turns plan (campaign plan seed start).env {} (announce plan seed start).2 before a waiting ∧
      await plan waiting = (.ok m, (driven plan seed start).2) ∧ endsWith (.directive message)

end

section
variable {plan : SessionPlan σ μ} {seed : List UInt8} {start stop stop' : Session σ μ}
  {received messages : List ServerMessage} {endsWith endsWith' : CampaignError → Prop}

/-- A cleanup takes nothing and shows no counters. -/
theorem ForwardsCounters.cleanup (h : ForwardsCounters plan seed start received stop endsWith)
    (hinbound : stop'.inbound = stop.inbound) (hquiet : Quiet (PartsShow plan) stop.world stop'.world)
    (hends : ∀ e, endsWith e → endsWith' e) : ForwardsCounters plan seed start received stop' endsWith' where
  taken := by
    rw [hinbound]
    exact h.taken
  shown := h.shown.before hquiet
  refused := by
    intro before m after update hreceived hm hnot
    obtain ⟨hlast, message, a, waiting, happly, hturns, hawait, hmessage⟩ :=
      h.refused before m after update hreceived hm hnot
    exact ⟨hlast, message, a, waiting, happly, hturns, hawait, hends _ hmessage⟩

/-- All updates that were received are accepted. -/
theorem forwardsCounters_of_accepted {rest : List Stream.Item} (hrest : rest = [] ∨ ∃ e, rest = [.error e])
    (htaken : start.inbound.items = received.map .ok ++ rest ++ stop.inbound.items)
    (hshown : Forwards (PartsShow plan) (updates received) start.world stop.world)
    (haccepted : accepted {} (updates received) = updates received) :
    ForwardsCounters plan seed start received stop endsWith where
  taken := ⟨rest, hrest, htaken⟩
  shown := by
    rw [haccepted]
    exact hshown
  refused := by
    rintro before m after update rfl hm hnot
    have hsplit : updates (before ++ m :: after) = updates before ++ update :: updates after := by
      simp only [updates, List.filterMap_append, List.filterMap_cons, hm]
    rw [hsplit] at haccepted
    exact absurd (Progress.precedes_of_accepted haccepted) hnot

/-- An attempt that receives nothing. -/
theorem forwardsCounters_nil (hinbound : stop.inbound = start.inbound)
    (hshown : Forwards (PartsShow plan) [] start.world stop.world) :
    ForwardsCounters plan seed start [] stop endsWith :=
  forwardsCounters_of_accepted (Or.inl rfl) (by rw [hinbound]; rfl) hshown rfl

/-- Announcing a campaign shows nothing and takes nothing. -/
theorem announce_keeps (plan : SessionPlan σ μ) (seed : List UInt8) (start : Session σ μ) :
    (announce plan seed start).2.inbound = start.inbound ∧
      Forwards (PartsShow plan) [] start.world (announce plan seed start).2.world :=
  ⟨rfl, .after (quiet_equipped plan start) (World.forwards_of_shown (World.shown_send _ _))⟩

/-- Counters are only unacceptable because of an update that is refused. -/
theorem refused_of_counters {p : Progress} {m : ServerMessage} {e : CampaignError} (h : counters p m = .error e) :
    ∃ update, m.progress = some update ∧ ∃ message, e = .directive message ∧ ¬ p.Precedes update ∧
      p.apply update = .error (.directive message) := by
  unfold counters at h
  cases hm : m.progress with
  | none =>
    rw [hm] at h
    cases h
  | some update =>
    rw [hm] at h
    rcases p.apply_cases update with ⟨-, happly⟩ | ⟨hnot, message, happly⟩
    · simp only [happly] at h
      cases h
    · simp only [happly] at h
      cases h
      exact ⟨update, rfl, message, rfl, hnot, happly⟩

/-- Turns after the announcement of a campaign. -/
theorem turns_announced {a : Attempt} {s : Session σ μ}
    (h : Turns plan (campaign plan seed start).env {} (announce plan seed start).2 messages a s) :
    Forwards (PartsShow plan) (updates messages) start.world s.world ∧
      start.inbound.items = messages.map .ok ++ s.inbound.items := by
  obtain ⟨hinbound, hopened⟩ := announce_keeps plan seed start
  have hitems := h.items
  rw [hinbound] at hitems
  exact ⟨hopened.trans h.forwards.1, hitems⟩

/-- The update of a message is refused after turns of an attempt. -/
theorem forwardsCounters_of_refused {a : Attempt} {s : Session σ μ} {m : ServerMessage} {e : CampaignError}
    (hturns : Turns plan (campaign plan seed start).env {} (announce plan seed start).2 messages a s)
    (hawait : await plan s = (.ok m, (driven plan seed start).2)) (hcounters : counters a.progress m = .error e)
    (hends : endsWith e) :
    ForwardsCounters plan seed start (messages ++ [m]) (driven plan seed start).2 endsWith := by
  obtain ⟨hshown, hitems⟩ := turns_announced hturns
  obtain ⟨-, haccepted, hheld⟩ := hturns.forwards
  obtain ⟨update, hm, message, rfl, hnot, happly⟩ := refused_of_counters hcounters
  rw [hheld] at hnot happly
  have hquiet : Quiet (PartsShow plan) _ _ := quiet_await plan s
  rw [hawait] at hquiet
  have hsplit : updates (messages ++ [m]) = updates messages ++ [update] := by
    rw [updates, List.filterMap_append, ← updates, List.filterMap_cons, hm, List.filterMap_nil]
  refine {
    taken := ⟨[], Or.inl rfl, ?_⟩
    shown := ?_
    refused := fun before m' after update' hreceived hm' hnot' => ?_ }
  · rw [hitems, await_items hawait]
    simp
  · rw [hsplit, Progress.accepted_append, haccepted, Progress.accepted_cons_of_not hnot, accepted, List.append_nil]
    exact hshown.before hquiet
  · -- the messages before it were accepted, so the refused one is the last
    rcases List.eq_nil_or_concat after with rfl | ⟨front, last, rfl⟩
    · obtain ⟨rfl, hsame⟩ := List.append_inj' hreceived rfl
      cases hsame
      rw [hm] at hm'
      cases hm'
      exact ⟨rfl, message, a, s, happly, hturns, hawait, hends⟩
    · rw [List.concat_eq_append, ← List.cons_append, ← List.append_assoc] at hreceived
      obtain ⟨rfl, -⟩ := List.append_inj' hreceived rfl
      rw [updates, List.filterMap_append, List.filterMap_cons, hm', ← updates] at haccepted
      exact absurd (Progress.precedes_of_accepted haccepted) hnot'

/-- An attempt that announced its campaign. -/
theorem driven_counters (hannounce : (announce plan seed start).1 = .ok ()) :
    ∃ received, ForwardsCounters plan seed start received (driven plan seed start).2 fun e =>
      (driven plan seed start).1 = .error e := by
  obtain ⟨messages, a, s, result, final, hturns, hend, hdriven⟩ := driven_turns hannounce
  obtain ⟨hshown, hitems⟩ := turns_announced hturns
  obtain ⟨-, haccepted, hheld⟩ := hturns.forwards
  rcases turn_cases plan (campaign plan seed start).env a s with ⟨e, s', hawait, hturn⟩ |
    ⟨m, e, s', hawait, hcounters, hturn⟩ | ⟨m, a₁, s₁, htakes, hturn⟩
  · -- no message came
    rw [hend] at hturn
    cases hturn
    obtain ⟨rest, hrest, hmore⟩ := await_error_items hawait
    have hquiet : Quiet (PartsShow plan) _ _ := quiet_await plan s
    rw [hawait] at hquiet
    rw [hdriven]
    refine ⟨messages, forwardsCounters_of_accepted hrest ?_ (hshown.before hquiet) haccepted⟩
    rw [hitems, hmore, List.append_assoc]
  · rw [hend] at hturn
    cases hturn
    have hleft : await plan s = (.ok m, (driven plan seed start).2) := by rw [hawait, hdriven]
    exact ⟨messages ++ [m], forwardsCounters_of_refused hturns hleft hcounters (by rw [hdriven])⟩
  · -- a message was dispatched
    obtain ⟨hlast, hok, -⟩ := htakes.forwards
    have hkeeps := (dispatch_keeps plan (campaign plan seed start).env a₁ s₁ m.payload).1
    have hquiet := quiet_dispatch plan (campaign plan seed start).env a₁ s₁ m.payload
    rw [← hturn, hend] at hkeeps hquiet
    have hsplit : updates (messages ++ [m]) = updates messages ++ updates [m] := List.filterMap_append
    rw [hdriven]
    refine ⟨messages ++ [m], forwardsCounters_of_accepted (Or.inl rfl) ?_ ?_ ?_⟩
    · rw [hitems, htakes.items, hkeeps]
      simp
    · rw [hsplit]
      exact (hshown.trans hlast).before hquiet
    · rw [hsplit, Progress.accepted_append, haccepted, ← hheld, hok]

/-- Every attempt. -/
theorem attempt_counters (plan : SessionPlan σ μ) (seed : List UInt8) (start : Session σ μ) :
    ∃ received, ForwardsCounters plan seed start received (attempt plan seed start).2 fun e =>
      (attempt plan seed start).1 = .error e := by
  cases hbuild : (plan.lifecycle.build start.lifecycleState start.world.outside).1 with
  | error e =>
    refine ⟨[], ?_⟩
    rw [attempt_unequipped seed hbuild]
    exact forwardsCounters_nil rfl ((quiet_equipped plan start).trans (quiet_flush plan _)).forwards
  | ok u =>
    have hcleanup : ∀ received, ForwardsCounters plan seed start received (driven plan seed start).2
        (fun e => (driven plan seed start).1 = .error e) →
        ForwardsCounters plan seed start received (attempt plan seed start).2 fun e =>
          (attempt plan seed start).1 = .error e := by
      intro received h
      rw [attempt_equipped seed hbuild]
      exact h.cleanup rfl ((quiet_release plan _).trans (quiet_flush plan _)) fun e he =>
        (precedence_finish _ _ _).own_error e he
    cases hannounce : (announce plan seed start).1 with
    | error e =>
      obtain ⟨hinbound, hshown⟩ := announce_keeps plan seed start
      refine ⟨[], hcleanup [] ?_⟩
      rw [driven_unannounced hannounce]
      exact forwardsCounters_nil hinbound hshown
    | ok u =>
      obtain ⟨received, h⟩ := driven_counters hannounce
      exact ⟨received, hcleanup received h⟩

end

/-- **The counters of an attempt.** Whatever updates there are, those that are accepted are in order, updates that
are in order are all accepted, and a refused one changes no counter. Every attempt of a session begins at zero
and shows the accepted updates of the messages that it receives, in order and none twice; a message whose
update is refused is the last that is received, it is not dispatched, and the session ends with the error. -/
theorem attempts_forward_counters (plan : SessionPlan σ μ) (s : Session σ μ) :
    (∀ updates, Progress.Lawful updates) ∧
      ∀ seed start, Begins plan plan.descriptor.seed s seed start →
        ∃ received, ForwardsCounters plan seed start received (attempt plan seed start).2 fun e =>
          run plan s = (.error e, (attempt plan seed start).2) := by
  refine ⟨Progress.lawful_updates, fun seed start hbegins => ?_⟩
  obtain ⟨received, h⟩ := attempt_counters plan seed start
  exact ⟨received, h.cleanup rfl (.refl _) fun e he => hbegins.run_error (Prod.ext he rfl)⟩

end Session

end FuzzCampaign
