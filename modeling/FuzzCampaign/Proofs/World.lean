import FuzzCampaign.Model
set_option autoImplicit false

/-! # What is queued

`Sends w messages w'` says what happened between two worlds as far as the orchestrator is concerned, and
`Queued w messages w'` adds that the system under test was left alone. Both compose along `++`. -/

namespace FuzzCampaign.World

variable {μ : Type}

/-- From `w` to `w'` exactly these messages were queued; none, once they are taken no more. -/
structure Sends (w : World μ) (messages : List ClientMessage) (w' : World μ) : Prop where
  sent : w'.sent = w.sent ++ messages
  closed : w.closed = true → messages = [] ∧ w'.closed = true

/-- From `w` to `w'` exactly these messages were queued, and there was no interaction. -/
structure Queued (w : World μ) (messages : List ClientMessage) (w' : World μ) : Prop extends
    Sends w messages w' where
  interactions : w'.interactions = w.interactions

variable {w w' w'' : World μ} {messages more : List ClientMessage}

theorem Sends.refl (w : World μ) : Sends w [] w := ⟨by simp, fun h => ⟨rfl, h⟩⟩

theorem Sends.trans (h : Sends w messages w') (h' : Sends w' more w'') : Sends w (messages ++ more) w'' := by
  refine ⟨by rw [h'.sent, h.sent, List.append_assoc], fun hclosed => ?_⟩
  obtain ⟨rfl, hclosed'⟩ := h.closed hclosed
  exact h'.closed hclosed'

/-- Nothing queued before. -/
theorem Sends.after (h : Sends w [] w') (h' : Sends w' messages w'') : Sends w messages w'' := h.trans h'

/-- Nothing queued after. -/
theorem Sends.before (h : Sends w messages w') (h' : Sends w' [] w'') : Sends w messages w'' := by
  simpa using h.trans h'

theorem Queued.refl (w : World μ) : Queued w [] w := ⟨.refl w, rfl⟩

theorem Queued.trans (h : Queued w messages w') (h' : Queued w' more w'') :
    Queued w (messages ++ more) w'' :=
  ⟨h.toSends.trans h'.toSends, h'.interactions.trans h.interactions⟩

theorem Queued.after (h : Queued w [] w') (h' : Queued w' messages w'') : Queued w messages w'' := h.trans h'

theorem Queued.before (h : Queued w messages w') (h' : Queued w' [] w'') : Queued w messages w'' := by
  simpa using h.trans h'

/-- What only lets things happen, or is noted elsewhere, queues nothing. -/
theorem queued_of_eq (hsent : w'.sent = w.sent) (hclosed : w.closed = true → w'.closed = true)
    (hinteractions : w'.interactions = w.interactions) : Queued w [] w' :=
  ⟨⟨by simp [hsent], fun h => ⟨rfl, hclosed h⟩⟩, hinteractions⟩

theorem queued_nudge (w : World μ) (n : Nudge) : Queued w [] (w.nudge n) :=
  queued_of_eq rfl (fun h => by simp [nudge, h]) rfl

theorem queued_look (w : World μ) : Queued w [] w.look := by
  unfold look
  split
  · exact Queued.refl w
  · exact queued_of_eq rfl (fun h => by simp [nudge, h]) rfl

theorem queued_present (w : World μ) (e : SinkEvent) : Queued w [] (w.present e) := queued_of_eq rfl id rfl

theorem queued_printLines (w : World μ) (lines : List String) : Queued w [] (w.printLines lines) :=
  queued_of_eq rfl id rfl

theorem queued_remember (w : World μ) (memory : μ) : Queued w [] (w.remember memory) := queued_of_eq rfl id rfl

theorem queued_apply (w : World μ) (e : Effects μ) : Queued w [] (w.apply e) :=
  queued_of_eq rfl (fun h => by simp [apply, nudge, h]) rfl

theorem sends_interact (w : World μ) : Sends w [] w.interact := ⟨by simp [interact], fun h => ⟨rfl, h⟩⟩

/-- A message is queued when somebody takes it at the look before. -/
theorem send_split (w : World μ) (m : ClientMessage) :
    ∃ w', (w.look.closed = true ∧ w'.closed = true ∧ w.send m = (.error writerStopped, w') ∧ Queued w [] w') ∨
      (w.look.closed = false ∧ w'.closed = false ∧ w.send m = (.ok (), w') ∧ Queued w [m] w') := by
  have hlook := queued_look w
  unfold send
  dsimp only
  split
  · next hgone => exact ⟨_, Or.inl ⟨hgone, hgone, rfl, hlook⟩⟩
  · next hopen =>
    have hhere : w.look.closed = false := by simpa using hopen
    refine ⟨{ w.look with sent := w.look.sent ++ [m] }, Or.inr ⟨hhere, hhere, rfl, ⟨?_, fun hclosed => ?_⟩,
      hlook.interactions⟩⟩
    · rw [hlook.sent, List.append_nil]
    · exact absurd (hlook.closed hclosed).2 hopen

/-- A message is queued unless nobody takes it. -/
theorem send_cases (w : World μ) (m : ClientMessage) :
    ∃ w', (w.send m = (.error writerStopped, w') ∧ Queued w [] w') ∨
      (w.send m = (.ok (), w') ∧ Queued w [m] w') := by
  obtain ⟨w', ⟨-, -, hgone⟩ | ⟨-, -, hsent⟩⟩ := send_split w m
  · exact ⟨w', Or.inl hgone⟩
  · exact ⟨w', Or.inr hsent⟩

/-- A message is only refused when messages are taken no more. -/
theorem closed_of_send_error {e : CampaignError} {m : ClientMessage} (h : w.send m = (.error e, w')) :
    w'.closed = true := by
  unfold send at h
  dsimp only at h
  split at h
  · next hclosed =>
    cases h
    exact hclosed
  · exact absurd (congrArg Prod.fst h) (by simp)

/-! ## What is shown, and what lies outside -/

@[simp]
theorem shown_look (w : World μ) : w.look.shown = w.shown := by
  unfold look
  split <;> rfl

/-- What lies outside only changes when somebody acts on it. -/
@[simp]
theorem outside_look (w : World μ) : w.look.outside = w.outside := by
  unfold look
  split <;> rfl

/-- A message is not shown. -/
theorem shown_send (w : World μ) (m : ClientMessage) : (w.send m).2.shown = w.shown := by
  unfold send
  dsimp only
  split <;> exact w.shown_look

/-- How often the display was told that an attempt is over, by whomever. -/
def ends (w : World μ) : Nat := w.shown.count .terminate

@[simp]
theorem ends_look (w : World μ) : w.look.ends = w.ends := by rw [ends, shown_look, ends]

@[simp]
theorem ends_send (w : World μ) (m : ClientMessage) : (w.send m).2.ends = w.ends := by rw [ends, shown_send, ends]

theorem ends_of_send {m : ClientMessage} {sent : Except CampaignError Unit} (h : w.send m = (sent, w')) :
    w'.ends = w.ends := by
  rw [← ends_send w m, h]

theorem ends_of_shown {events : List SinkEvent} (hshown : w'.shown = w.shown ++ events)
    (hevents : .terminate ∉ events) : w'.ends = w.ends := by
  rw [ends, hshown, List.count_append, List.count_eq_zero_of_not_mem hevents, ends, Nat.add_zero]

theorem ends_of_terminate (hshown : w'.shown = w.shown ++ [.terminate]) : w'.ends = w.ends + 1 := by
  rw [ends, hshown, List.count_append, List.count_singleton_self, ends]

theorem ends_present (w : World μ) {e : SinkEvent} (h : e ≠ .terminate) : (w.present e).ends = w.ends :=
  ends_of_shown rfl fun hend => h (List.mem_singleton.1 hend).symm

theorem ends_apply (w : World μ) {e : Effects μ} (h : .terminate ∉ e.shown) : (w.apply e).ends = w.ends :=
  ends_of_shown rfl h

end FuzzCampaign.World
