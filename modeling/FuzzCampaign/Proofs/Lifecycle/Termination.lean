import FuzzCampaign.Proofs.Lifecycle.Started
set_option autoImplicit false

/-! # The end of a resetter

A termination stops the system under test when it is started, shuts the dispatcher down and removes the
files, and none of them keeps the others from being done. The stop phase runs in the environment of the files
that are held; `later_served` is the invariant by which a system that is started has them.
`terminate_clears` says for every history what a termination attempts, answers and leaves. -/

namespace FuzzCampaign.ShellResetter

variable {ω : Type} (host : ShellHost ω)

/-! ## A resetter at a later time -/

/-- What a resetter is made of, which never changes. -/
def made (r : ShellResetter) : LifecycleScripts × Nat × ControlMarkers := (r.scripts, r.phaseTimeout, r.markers)

/-- The resetter `new` at a later time: it is made of the same, and what was started can be stopped, because
its files are held. -/
structure Later (new r : ShellResetter) : Prop where
  made : r.made = new.made
  filesHeld : r.started = true → r.files.isSome = true

section
variable {new r : ShellResetter}

/-- An attempt at a phase, whatever it comes to. -/
theorem Later.attempt (h : Later new r) (phase : Phase) (env : EnvSnapshot) (cancelled : Bool) (s : ω) :
    let ran := r.runPhase host phase env cancelled s
    let noted := { ran.2.1 with attempted := ran.2.1.attempted ++ [(phase, ran.1)] }
    Later new (match ran.1 with
      | .error _ => noted
      | .ok () => noted.succeeded phase) := by
  obtain ⟨files, hapart, hkept, hok⟩ := runPhase_apart host r phase env cancelled s
  have hmade : (r.runPhase host phase env cancelled s).2.1.made = new.made :=
    (congrArg ShellResetter.made hapart :).trans h.made
  have hfiles : (r.runPhase host phase env cancelled s).2.1.files = files :=
    (congrArg ShellResetter.files hapart :)
  have hstarted : (r.runPhase host phase env cancelled s).2.1.started = r.started :=
    (congrArg ShellResetter.started hapart :)
  dsimp only
  cases hran : (r.runPhase host phase env cancelled s).1 with
  | error e =>
    refine ⟨hmade, fun hstill => ?_⟩
    rw [hstarted] at hstill
    rw [hfiles]
    rcases hkept with rfl | ⟨set, rfl⟩
    · exact h.filesHeld hstill
    · rfl
  | ok u =>
    -- no phase succeeds without files
    obtain ⟨set, rfl⟩ := hok hran
    cases phase <;> exact ⟨hmade, fun _ => by simp [succeeded, hfiles]⟩

theorem Later.runPhases (h : Later new r) (env : EnvSnapshot) (cancelled : Bool) (phases : List Phase) (s : ω) :
    Later new (runPhases host env cancelled phases r s).2.1 := by
  induction phases generalizing r s with
  | nil => exact h
  | cons phase rest ih =>
    have hattempt := h.attempt host phase env cancelled s
    rw [ShellResetter.runPhases]
    rcases hran : r.runPhase host phase env cancelled s with ⟨result, ran, s'⟩
    rw [hran] at hattempt
    dsimp only at hattempt ⊢
    cases result with
    | error e => exact hattempt
    | ok u => exact ih hattempt s'

theorem Later.stopIfStarted (h : Later new r) (cancelled : Bool) (s : ω) :
    Later new (r.stopIfStarted host cancelled s).2.1 := by
  unfold ShellResetter.stopIfStarted
  split
  · split
    · exact h.runPhases host _ cancelled [.stop] s
    · exact h
  · exact h

end

/-! ## Nothing left -/

/-- Nothing is held, nothing started and no reset made. -/
structure Cleared (r : ShellResetter) : Prop where
  files : r.files = none
  dispatcher : r.dispatcher = none
  started : r.started = false
  firstReset : r.firstReset = true

/-- A cleared resetter is as it was made, but for the record of what it did. -/
theorem Cleared.eq_new {new r : ShellResetter} (h : Cleared r) (hnew : Cleared new) (hmade : r.made = new.made) :
    r = { new with shown := r.shown, attempted := r.attempted } := by
  obtain ⟨scripts, timeout, markers, files, dispatcher, first, started, shown, attempted⟩ := r
  obtain ⟨rfl, rfl, rfl, rfl⟩ := h
  obtain ⟨scripts', timeout', markers', files', dispatcher', first', started', shown', attempted'⟩ := new
  obtain ⟨rfl, rfl, rfl, rfl⟩ := hnew
  cases hmade
  rfl

/-- There is nothing to do for a cleared resetter. -/
theorem Cleared.terminate {r : ShellResetter} (h : Cleared r) (cancelled : Bool) (s : ω) :
    r.terminate host cancelled s = (.ok (), r, s) := by
  obtain ⟨scripts, timeout, markers, files, dispatcher, first, started, shown, attempted⟩ := r
  obtain ⟨rfl, rfl, rfl, rfl⟩ := h
  rfl

theorem dispatcher_shutdown (r : ShellResetter) (s : ω) : (r.shutdown host s).2.1.dispatcher = none := by
  unfold shutdown
  split
  · assumption
  · rfl

/-- How the dispatcher that a resetter holds goes down. -/
def downResult (r : ShellResetter) (s : ω) : Except CampaignError Unit :=
  match r.dispatcher with
  | none => .ok ()
  | some d => (d.shutdown host s).1

theorem shutdown_result (r : ShellResetter) (s : ω) : (r.shutdown host s).1 = r.downResult host s := by
  unfold shutdown downResult
  cases r.dispatcher <;> rfl

/-! ## One termination -/

/-- A termination whose stop phase, if it has one, came to `stopped` and left the resetter `left` and the host
`s'`. -/
theorem terminate_spec {r left : ShellResetter} {cancelled : Bool} {s s' : ω}
    {stopped : Except CampaignError Unit} (h : r.stopIfStarted host cancelled s = (stopped, left, s')) :
    (r.terminate host cancelled s).1 = firstError stopped (left.downResult host s') ∧
      Cleared (r.terminate host cancelled s).2.1 ∧ (r.terminate host cancelled s).2.1.made = left.made ∧
      (r.terminate host cancelled s).2.1.attempted = left.attempted := by
  have hresult := shutdown_result host left s'
  have hdispatcher := dispatcher_shutdown host left s'
  have hshutdown := apart_shutdown host left s'
  unfold terminate
  rw [h]
  dsimp only
  rcases hdown : left.shutdown host s' with ⟨down, r₁, s₁⟩
  rw [hdown] at hresult hdispatcher hshutdown
  have hremoved := (apart_removeFiles host r₁ s₁).trans (by rw [hshutdown])
  refine ⟨by rw [← hresult], ⟨(congrArg ShellResetter.files hremoved :), ?_, rfl, rfl⟩,
    (congrArg ShellResetter.made hremoved :), (congrArg ShellResetter.attempted hremoved :)⟩
  dsimp only at hdispatcher ⊢
  unfold removeFiles
  split <;> exact hdispatcher

/-- The stop phase of a termination is one attempt. -/
theorem stop_attempted (r : ShellResetter) (env : EnvSnapshot) (cancelled : Bool) (s : ω) :
    (r.stop host env cancelled s).2.1.attempted = r.attempted ++ [(.stop, (r.stop host env cancelled s).1)] := by
  obtain ⟨attempts, horder, hattempted⟩ := runPhases_attempted host env cancelled [.stop] r s
  rw [horder.single] at hattempted
  exact hattempted.attempted

/-- What a termination of `r` does, `r` being a resetter `new` at a later time. -/
structure Terminates (new r : ShellResetter) (cancelled : Bool) (s : ω) : Prop where
  /-- A system that is started and can be stopped is stopped, by one attempt at the stop phase. Its error is
  answered, else that of the dispatcher that is left. -/
  stops : r.started = true → r.scripts.has .stop = true → ∃ set env stopped left s',
    r.files = some (set, env) ∧ r.stop host env cancelled s = (stopped, left, s') ∧
    r.attempts host (.terminate cancelled s) = [(.stop, stopped)] ∧
    (∀ e, stopped = .error e → (r.terminate host cancelled s).1 = .error e) ∧
    (stopped = .ok () → (r.terminate host cancelled s).1 = left.downResult host s')
  /-- Otherwise no phase is attempted. -/
  skips : ¬ (r.started = true ∧ r.scripts.has .stop = true) → r.attempts host (.terminate cancelled s) = [] ∧
    (r.terminate host cancelled s).1 = r.downResult host s
  /-- Nothing is left, whatever failed. -/
  cleared : Cleared (r.terminate host cancelled s).2.1
  asMade : ∃ shown attempted, (r.terminate host cancelled s).2.1 = { new with shown, attempted }
  /-- There is nothing to do for another termination. -/
  again : ∀ (cancelled' : Bool) (s' : ω),
    (r.terminate host cancelled s).2.1.attempts host (.terminate cancelled' s') = [] ∧
    (r.terminate host cancelled s).2.1.terminate host cancelled' s' = (.ok (), (r.terminate host cancelled s).2.1, s')

theorem stopIfStarted_of_started {r : ShellResetter} {set : ScriptSet} {env : EnvSnapshot}
    (hfiles : r.files = some (set, env)) (hstarted : r.started = true) (hstop : r.scripts.has .stop = true)
    (cancelled : Bool) (s : ω) : r.stopIfStarted host cancelled s = r.stop host env cancelled s := by
  simp only [stopIfStarted, hfiles, hstarted, hstop, Bool.and_self, if_true]

theorem stopIfStarted_of_not {r : ShellResetter} (h : ¬ (r.started = true ∧ r.scripts.has .stop = true))
    (cancelled : Bool) (s : ω) : r.stopIfStarted host cancelled s = (.ok (), r, s) := by
  unfold stopIfStarted
  split
  · rw [if_neg (by simpa using h)]
  · rfl

theorem terminates_of_later {new r : ShellResetter} (hnew : Cleared new) (h : Later new r) (cancelled : Bool)
    (s : ω) : Terminates host new r cancelled s := by
  have hleft := h.stopIfStarted host cancelled s
  rcases hstopped : r.stopIfStarted host cancelled s with ⟨stopped, left, s'⟩
  rw [hstopped] at hleft
  obtain ⟨hanswer, hcleared, hmade, hattempted⟩ := terminate_spec host hstopped
  have hattempts : ∀ attempts, left.attempted = r.attempted ++ attempts →
      r.attempts host (.terminate cancelled s) = attempts :=
    fun attempts heq => attempts_eq host (hattempted.trans heq)
  constructor
  case stops =>
    intro hstarted hstop
    obtain ⟨⟨set, env⟩, hfiles⟩ := Option.isSome_iff_exists.1 (h.filesHeld hstarted)
    rw [stopIfStarted_of_started host hfiles hstarted hstop] at hstopped
    have hstopAttempted := stop_attempted host r env cancelled s
    rw [hstopped] at hstopAttempted
    refine ⟨set, env, stopped, left, s', hfiles, hstopped, hattempts _ hstopAttempted, ?_, ?_⟩
    · rintro e rfl
      exact hanswer
    · rintro rfl
      exact hanswer
  case skips =>
    intro hnot
    rw [stopIfStarted_of_not host hnot] at hstopped
    cases hstopped
    exact ⟨hattempts [] (List.append_nil _).symm, hanswer⟩
  case cleared => exact hcleared
  case asMade => exact ⟨_, _, hcleared.eq_new hnew (hmade.trans hleft.made)⟩
  case again =>
    intro cancelled' s'
    have hagain := hcleared.terminate host cancelled' s'
    refine ⟨attempts_eq host ?_, hagain⟩
    rw [serve, hagain, List.append_nil]

/-! ## After every history -/

theorem Later.serve {new r : ShellResetter} (hnew : Cleared new) (h : Later new r) (request : LifecycleRequest ω) :
    Later new (r.serve host request).2.1 := by
  cases request with
  | start env cancelled s => exact h.runPhases host env cancelled [.start] s
  | stop env cancelled s => exact h.runPhases host env cancelled [.stop] s
  | reset env cancelled s =>
    unfold ShellResetter.serve reset
    cases r.scripts.planReset r.firstReset with
    | error e => exact h
    | ok plan =>
      have hran := h.runPhases host env cancelled plan s
      dsimp only
      split
      · next heq =>
        rw [heq] at hran
        exact hran
      · next heq =>
        rw [heq] at hran
        exact ⟨hran.made, hran.filesHeld⟩
  | terminate cancelled s =>
    obtain ⟨shown, attempted, hmade⟩ := (terminates_of_later host hnew h cancelled s).asMade
    rw [ShellResetter.serve, hmade]
    exact ⟨rfl, fun hstarted => absurd hstarted (by simp [hnew.started])⟩

theorem later_served {new : ShellResetter} (hnew : Cleared new) (history : List (LifecycleRequest ω)) :
    Later new (new.served host history) := by
  induction history with
  | nil => exact ⟨rfl, fun hstarted => absurd hstarted (by simp [served, hnew.started])⟩
  | cons request earlier ih => exact ih.serve host hnew request

/-- **A termination leaves nothing undone.** After every history of requests, in any environments and however
each phase and the end of the dispatcher came out, a system that is started and can be stopped is stopped by
one attempt at the stop phase, and no other phase is attempted. The first error is answered, and whatever
fails, nothing is held afterwards: the resetter is as it was made, and another termination finds nothing to
do. -/
theorem terminate_clears (scripts : LifecycleScripts) (phaseTimeout : Nat) (s₀ : ω)
    (history : List (LifecycleRequest ω)) (cancelled : Bool) (s : ω) :
    Terminates host (build host scripts phaseTimeout s₀).1
      ((build host scripts phaseTimeout s₀).1.served host history) cancelled s := by
  have hnew : Cleared (build host scripts phaseTimeout s₀).1 := ⟨rfl, rfl, rfl, rfl⟩
  exact terminates_of_later host hnew (later_served host hnew history) cancelled s

end FuzzCampaign.ShellResetter
