import FuzzCampaign.Proofs.Steps
import FuzzCampaign.Proofs.Text.Pieces
import FuzzCampaign.Proofs.World
import FuzzCampaign.Reset.Controller
set_option autoImplicit false

/-! # The reports of resets

A reset stands between two messages, `started` and the report of what the resetter answered. Either of them may not be
taken, since the session stream can end at any moment. What the resetter answered is made visible by a lifecycle that
writes it down: `Lifecycle.answering` does what another lifecycle does, so a controller over it, without the record,
is the controller over the other one. `resets_reported` says of any sequence of resets which messages each of them
queues, what it answers, and what the controller remembers. -/

namespace FuzzCampaign

open World (Sends queued_look queued_apply)

variable {μ : Type}

/-! ## The messages of a reset -/

/-- A reset is about to be run. -/
def resetStarted : ClientMessage := .resetProgress ⟨.started, 0, []⟩

/-- The messages of a reset, and how it ended. -/
inductive ResetBlock : List ClientMessage → Except CampaignError Unit → Prop where
  | ended (elapsed : UInt64) : ResetBlock [resetStarted, .resetProgress ⟨.ended, elapsed, []⟩] (.ok ())
  | failed (elapsed : UInt64) (e : CampaignError) :
      ResetBlock [resetStarted, .resetProgress ⟨.failed, elapsed, e.reasonLines⟩] (.error e)

theorem CampaignError.message_ne_empty (e : CampaignError) : e.message ≠ "" := by
  intro h
  have hitems := congrArg String.toList h
  unfold message at hitems
  split at hitems <;> simp at hitems

/-- The lines that report a failed reset are never none. -/
theorem CampaignError.reasonLines_ne_nil (e : CampaignError) : e.reasonLines ≠ [] := by
  have hlines : Text.lines e.message ≠ [] := Text.lines_ne_nil e.message_ne_empty
  unfold reasonLines
  split
  · split
    · exact hlines
    · simp
  · exact hlines

/-! ## What resetters answer -/

/-- What resets answered, in order. -/
abbrev ResetAnswers := List (Except CampaignError Unit)

/-- The same lifecycle, with a record of what the resets of its resetter answered. -/
def Lifecycle.answering {σ : Type} (lifecycle : Lifecycle σ μ) : Lifecycle (σ × ResetAnswers) μ where
  build s outside :=
    let (result, effects, state) := lifecycle.build s.1 outside
    (result, effects, state, [])
  descriptor s := lifecycle.descriptor s.1
  reset env cancelled now s outside :=
    let (result, effects, state) := lifecycle.reset env cancelled now s.1 outside
    (result, effects, state, s.2 ++ [result])
  terminate now s outside :=
    let (result, effects, state) := lifecycle.terminate now s.1 outside
    (result, effects, state, s.2)

/-- What became of one reset between the worlds `w` and `w'`: what the resetter answered, if it was run at all, the
messages queued and the answer of the controller. The stream is gone or still there when a message is due. -/
inductive ResetReport (w w' : World μ) : ResetAnswers → List ClientMessage → Except CampaignError Unit → Prop where
  /-- Nobody takes `started`. -/
  | unstarted (gone : w.look.closed = true) : ResetReport w w' [] [] (.error World.writerStopped)
  | ended (here : w.look.closed = false) (still : w'.closed = false) (elapsed : UInt64) :
      ResetReport w w' [.ok ()] [resetStarted, .resetProgress ⟨.ended, elapsed, []⟩] (.ok ())
  /-- Nobody takes `ended`. -/
  | endLost (here : w.look.closed = false) (gone : w'.closed = true) :
      ResetReport w w' [.ok ()] [resetStarted] (.error World.writerStopped)
  | failed (here : w.look.closed = false) (still : w'.closed = false) (elapsed : UInt64) (e : CampaignError)
      (explained : e.reasonLines ≠ []) :
      ResetReport w w' [.error e] [resetStarted, .resetProgress ⟨.failed, elapsed, e.reasonLines⟩] (.error e)
  /-- Nobody takes `failed`. -/
  | failureLost (here : w.look.closed = false) (gone : w'.closed = true) (e : CampaignError) :
      ResetReport w w' [.error e] [resetStarted] (.error e)

/-- The resetter is run exactly when `started` was queued. -/
theorem ResetReport.ran_iff {w w' : World μ} {ran : ResetAnswers} {queued : List ClientMessage}
    {result : Except CampaignError Unit} (h : ResetReport w w' ran queued result) :
    ran ≠ [] ↔ resetStarted ∈ queued := by
  cases h <;> simp

theorem ResetReport.ran_length {w w' : World μ} {ran : ResetAnswers} {queued : List ClientMessage}
    {result : Except CampaignError Unit} (h : ResetReport w w' ran queued result) : ran.length ≤ 1 := by
  cases h <;> simp

/-- A call of the controller, with the surroundings it finds. -/
structure ResetCall (μ : Type) where
  env : EnvSnapshot
  found : World μ

namespace ResetController

variable {σ : Type}

/-- The controller has counted the errors on the record. -/
def Tallies (c : ResetController) (answers : ResetAnswers) : Prop :=
  c.failures = UInt32.ofNat (answers.countP (!·.isOk))

/-- Writing the answers down changes nothing else. -/
theorem reset_answering (c : ResetController) (lifecycle : Lifecycle σ μ) (env : EnvSnapshot) (s : σ × ResetAnswers)
    (w : World μ) :
    c.reset lifecycle env s.1 w =
      ((c.reset lifecycle.answering env s w).1, (c.reset lifecycle.answering env s w).2.1,
        (c.reset lifecycle.answering env s w).2.2.1.1, (c.reset lifecycle.answering env s w).2.2.2) := by
  unfold ResetController.reset
  rcases w.send _ with ⟨e | u, w⟩
  · rfl
  · rcases hact : lifecycle.reset env w.look.cancelled w.look.clock s.1 w.look.outside with ⟨e | u, effects, s'⟩ <;>
      simp only [Lifecycle.answering, hact]

/-- A reset is reported, and what it answered goes on the record. -/
theorem reset_report (c : ResetController) (lifecycle : Lifecycle σ μ) (env : EnvSnapshot) (s : σ × ResetAnswers)
    (w : World μ) :
    ∃ ran queued result c' s' w', c.reset lifecycle.answering env s w = (result, c', s', w') ∧
      s'.2 = s.2 ++ ran ∧ Sends w queued w' ∧ ResetReport w w' ran queued result := by
  unfold ResetController.reset
  obtain ⟨w₁, ⟨hgone, -, hsend, hw₁⟩ | ⟨hhere, -, hsend, hw₁⟩⟩ := World.send_split w resetStarted
  · rw [resetStarted] at hsend
    rw [hsend]
    exact ⟨_, _, _, _, _, _, rfl, (List.append_nil _).symm, hw₁.toSends, .unstarted hgone⟩
  rw [resetStarted] at hsend
  rw [hsend]
  rcases hact : lifecycle.reset env w₁.look.cancelled w₁.look.clock s.1 w₁.look.outside with ⟨answer, effects, s'⟩
  have hrun := (hw₁.before (queued_look w₁)).before (queued_apply _ effects)
  simp only [Lifecycle.answering, hact]
  -- the report is due in the world that the resetter leaves behind
  generalize w₁.look.apply effects = w₂ at hrun ⊢
  cases answer with
  | ok u =>
    dsimp only
    generalize hreport : ClientMessage.resetProgress ⟨.ended, _, []⟩ = report
    obtain ⟨w', ⟨-, hgone, hsend, hw'⟩ | ⟨-, hstill, hsend, hw'⟩⟩ := World.send_split w₂ report
    · rw [hsend]
      exact ⟨_, _, _, _, _, _, rfl, rfl, (hrun.before hw').toSends, .endLost hhere hgone⟩
    · rw [hsend]
      refine ⟨_, _, _, _, _, _, rfl, rfl, (hrun.trans hw').toSends, ?_⟩
      rw [← hreport]
      exact .ended hhere hstill _
  | error e =>
    dsimp only
    generalize hreport : ClientMessage.resetProgress ⟨.failed, _, _⟩ = report
    obtain ⟨w', ⟨-, hgone, hsend, hw'⟩ | ⟨-, hstill, hsend, hw'⟩⟩ := World.send_split w₂ report
    · rw [hsend]
      exact ⟨_, _, _, _, _, _, rfl, rfl, (hrun.before hw').toSends, .failureLost hhere hgone e⟩
    · rw [hsend]
      refine ⟨_, _, _, _, _, _, rfl, rfl, (hrun.trans hw').toSends, ?_⟩
      rw [← hreport]
      exact .failed hhere hstill _ e e.reasonLines_ne_nil

/-- A reset is reported, or it is given up because a message was not taken, or it failed and only the report
of that was not taken. -/
theorem reset_cases (c : ResetController) (lifecycle : Lifecycle σ μ) (env : EnvSnapshot) (state : σ) (w : World μ) :
    ∃ result c' state' w' block, c.reset lifecycle env state w = (result, c', state', w') ∧
      Sends w block w' ∧
      (ResetBlock block result ∨
        (result = .error World.writerStopped ∧ ∃ whole ending, ResetBlock whole ending ∧ block <+: whole) ∨
        (block = [resetStarted] ∧ w'.closed = true ∧ ∃ e, result = .error e)) := by
  -- the record is of no account here, so any will do
  obtain ⟨ran, block, result, c', s', w', hreset, -, hsends, hreport⟩ := c.reset_report lifecycle env (state, []) w
  have hplain := c.reset_answering lifecycle env (state, []) w
  rw [hreset] at hplain
  refine ⟨result, c', s'.1, w', block, hplain, hsends, ?_⟩
  cases hreport with
  | unstarted _ => exact Or.inr (Or.inl ⟨rfl, _, _, .ended 0, List.nil_prefix⟩)
  | ended _ _ elapsed => exact Or.inl (.ended elapsed)
  | endLost _ _ => exact Or.inr (Or.inl ⟨rfl, _, _, .ended 0, List.prefix_append [_] _⟩)
  | failed _ _ elapsed e _ => exact Or.inl (.failed elapsed e)
  | failureLost _ gone e => exact Or.inr (Or.inr ⟨rfl, gone, e, rfl⟩)

/-- A reset that answers with an error is counted, and nothing else is. -/
theorem Tallies.reset {c : ResetController} {lifecycle : Lifecycle σ μ} {env : EnvSnapshot} {s : σ × ResetAnswers}
    (h : c.Tallies s.2) (w : World μ) :
    (c.reset lifecycle.answering env s w).2.1.Tallies (c.reset lifecycle.answering env s w).2.2.1.2 := by
  unfold ResetController.reset
  rcases w.send _ with ⟨e | u, w⟩
  · exact h
  · rcases hact : lifecycle.reset env w.look.cancelled w.look.clock s.1 w.look.outside with ⟨e | u, effects, s'⟩
    · simp only [Lifecycle.answering, hact, Tallies, List.countP_append]
      rw [h, UInt32.ofNat_add]
      rfl
    · simp only [Lifecycle.answering, hact, Tallies, List.countP_append]
      exact h

/-- A controller that counted fewer errors than it can count has seen one when there is one on the record. -/
theorem Tallies.hadResetError_iff {c : ResetController} {answers : ResetAnswers} (h : c.Tallies answers)
    (hfew : answers.length < 2 ^ 32) : c.hadResetError = true ↔ ∃ e, .error e ∈ answers := by
  have hcount : answers.countP (!·.isOk) < 2 ^ 32 := Nat.lt_of_le_of_lt List.countP_le_length hfew
  have hfailures : c.failures.toNat = answers.countP (!·.isOk) := by
    rw [h, UInt32.toNat_ofNat', Nat.mod_eq_of_lt hcount]
  rw [hadResetError, decide_eq_true_iff, UInt32.lt_iff_toNat_lt, hfailures, UInt32.toNat_zero, List.countP_pos_iff]
  constructor
  · rintro ⟨e | u, hmem, hnot⟩
    · exact ⟨e, hmem⟩
    · cases hnot
  · rintro ⟨e, hmem⟩
    exact ⟨.error e, hmem, rfl⟩

/-! ## Sequences of resets -/

/-- A new controller and a resetter after calls, of which the latest comes first. -/
def resetting (lifecycle : Lifecycle σ μ) (s : σ) : List (ResetCall μ) → ResetController × σ
  | [] => ({}, s)
  | call :: earlier =>
    let before := resetting lifecycle s earlier
    let after := before.1.reset lifecycle call.env before.2 call.found
    (after.2.1, after.2.2.1)

/-- What the resetter answered in these calls, in order. -/
def answersOf (lifecycle : Lifecycle σ μ) (s : σ) (calls : List (ResetCall μ)) : ResetAnswers :=
  (resetting lifecycle.answering (s, []) calls).2.2

section
variable (lifecycle : Lifecycle σ μ) (s : σ)

theorem resetting_answering (calls : List (ResetCall μ)) :
    resetting lifecycle s calls =
      ((resetting lifecycle.answering (s, []) calls).1, (resetting lifecycle.answering (s, []) calls).2.1) := by
  induction calls with
  | nil => rfl
  | cons call earlier ih => simp only [resetting, ih, reset_answering]

theorem tallies_resetting (calls : List (ResetCall μ)) :
    (resetting lifecycle s calls).1.Tallies (answersOf lifecycle s calls) := by
  rw [resetting_answering]
  induction calls with
  | nil => rfl
  | cons call earlier ih => exact Tallies.reset ih call.found

/-- The next call reports its reset, and what it answered comes after the answers of the calls before. -/
theorem next_reset_report (calls : List (ResetCall μ)) (call : ResetCall μ) :
    ∃ ran queued result c' s' w',
      (resetting lifecycle s calls).1.reset lifecycle call.env (resetting lifecycle s calls).2 call.found =
        (result, c', s', w') ∧
      answersOf lifecycle s (call :: calls) = answersOf lifecycle s calls ++ ran ∧
      Sends call.found queued w' ∧ ResetReport call.found w' ran queued result := by
  obtain ⟨ran, queued, result, c', s', w', hreset, hran, hsends, hreport⟩ :=
    (resetting lifecycle.answering (s, []) calls).1.reset_report lifecycle call.env
      (resetting lifecycle.answering (s, []) calls).2 call.found
  refine ⟨ran, queued, result, c', s'.1, w', ?_, ?_, hsends, hreport⟩
  · rw [resetting_answering, reset_answering, hreset]
  · rw [answersOf, resetting, hreset]
    exact hran

/-- The resetter is run once in a call, or not at all. -/
theorem length_answersOf_le (calls : List (ResetCall μ)) : (answersOf lifecycle s calls).length ≤ calls.length := by
  induction calls with
  | nil => exact Nat.le_refl 0
  | cons call earlier ih =>
    obtain ⟨ran, _, _, _, _, _, -, hran, -, hreport⟩ := next_reset_report lifecycle s earlier call
    rw [hran, List.length_append, List.length_cons]
    exact Nat.add_le_add ih hreport.ran_length

/-- **Resets are reported and their failures remembered.** After any calls, in whatever surroundings each of them was
made, the next call runs the resetter exactly when its `started` is queued, and then owes the report of what the
resetter answered: `ended`, or `failed` with some reason. The report is queued if anybody still takes messages. The
call answers an error of the resetter as it is, the end of the stream when `started` or `ended` is not taken, and
success otherwise. The controller says that a reset failed exactly when the resetter answered an error in any of the
calls. -/
theorem resets_reported (calls : List (ResetCall μ)) :
    (∀ call : ResetCall μ, ∃ ran queued result c' s' w',
      (resetting lifecycle s calls).1.reset lifecycle call.env (resetting lifecycle s calls).2 call.found =
        (result, c', s', w') ∧
      answersOf lifecycle s (call :: calls) = answersOf lifecycle s calls ++ ran ∧
      w'.sent = call.found.sent ++ queued ∧ ResetReport call.found w' ran queued result ∧
      (ran ≠ [] ↔ resetStarted ∈ queued)) ∧
    (calls.length < 2 ^ 32 →
      ((resetting lifecycle s calls).1.hadResetError = true ↔ ∃ e, .error e ∈ answersOf lifecycle s calls)) := by
  constructor
  · intro call
    obtain ⟨ran, queued, result, c', s', w', hreset, hran, hsends, hreport⟩ :=
      next_reset_report lifecycle s calls call
    exact ⟨ran, queued, result, c', s', w', hreset, hran, hsends.sent, hreport, hreport.ran_iff⟩
  · intro hfew
    have hanswers := length_answersOf_le lifecycle s calls
    exact (tallies_resetting lifecycle s calls).hadResetError_iff (Nat.lt_of_le_of_lt hanswers hfew)

end

/-! ## A failure whose report is lost -/

/-- A resetter that fails at first. -/
def flakyLifecycle : Lifecycle Bool Unit where
  build ready outside := (.ok (), { outside }, ready)
  descriptor _ := .noop
  reset _ _ _ ready outside := (if ready then .ok () else .error (.phase "reset" "timed out"), { outside }, true)
  terminate _ ready outside := (.ok (), { outside }, ready)

/-- The stream ends after `started`. -/
def endingStream : World Unit := { pending := [{}, { close := true }], outside := () }

/-- A reset that fails while the stream ends, and one on a new stream that succeeds, the latest first. -/
def flakyResets : List (ResetCall Unit) := [⟨.empty, { outside := () }⟩, ⟨.empty, endingStream⟩]

/-- The failure is remembered although nobody took its report and the next reset succeeded. -/
theorem flaky_reset_remembered :
    (({} : ResetController).reset flakyLifecycle .empty false endingStream).2.2.2.sent = [resetStarted] ∧
      answersOf flakyLifecycle false flakyResets = [.error (.phase "reset" "timed out"), .ok ()] ∧
      flakyResets.length < 2 ^ 32 ∧ (resetting flakyLifecycle false flakyResets).1.hadResetError = true := by
  have hanswers : answersOf flakyLifecycle false flakyResets = [.error (.phase "reset" "timed out"), .ok ()] := by
    decide +kernel
  have hfew : flakyResets.length < 2 ^ 32 := by decide
  refine ⟨rfl, hanswers, hfew, ((resets_reported flakyLifecycle false flakyResets).2 hfew).2 ?_⟩
  exact ⟨_, hanswers ▸ List.mem_cons_self⟩

end ResetController

end FuzzCampaign
