import FuzzCampaign.Proofs.Lifecycle.Started
import Mathlib.Data.List.Induction
set_option autoImplicit false

/-! # What the flags of a resetter say

A resetter remembers whether the system under test is started and whether the next reset is the first one.
`flags_tell_history` says for every history of requests, whatever the scripts are and however each phase
ends, what the two flags say about the phases and resets since the latest termination, and that no reset
starts a system that is started. -/

namespace FuzzCampaign

/-! ## The latest turn -/

/-- A start or a stop that succeeded. -/
def isTurn : PhaseAttempt → Bool
  | (.start, .ok ()) => true
  | (.stop, .ok ()) => true
  | _ => false

/-- The latest of the starts and stops that succeeded. -/
def latestTurn? (attempts : List PhaseAttempt) : Option Phase :=
  ((attempts.filter isTurn).getLast?).map Prod.fst

theorem latestTurn?_concat (attempts : List PhaseAttempt) (attempt : PhaseAttempt) :
    latestTurn? (attempts ++ [attempt]) =
      if isTurn attempt then some attempt.1 else latestTurn? attempts := by
  simp only [latestTurn?, List.filter_append]
  cases h : isTurn attempt <;> simp [h]

theorem startedAfterAttempt_eq (started : Bool) (attempt : PhaseAttempt) :
    startedAfterAttempt started attempt = if isTurn attempt then attempt.1 == .start else started := by
  obtain ⟨phase, result⟩ := attempt
  cases phase <;> rcases result with e | u <;> rfl

/-- The system under test is started when the latest turn is a start. -/
theorem startedAfter_iff (attempts : List PhaseAttempt) :
    startedAfter false attempts = true ↔ latestTurn? attempts = some .start := by
  induction attempts using List.reverseRecOn with
  | nil => simp [startedAfter, latestTurn?]
  | append_singleton attempts attempt ih =>
    have hlast : ∀ started, startedAfter started [attempt] = startedAfterAttempt started attempt := fun _ => rfl
    rw [startedAfter_append, hlast, startedAfterAttempt_eq, latestTurn?_concat]
    cases isTurn attempt with
    | true => simp
    | false => simpa using ih

/-- A phase that fails is no turn. -/
theorem latestTurn?_failed (attempts : List PhaseAttempt) (phase : Phase) (e : CampaignError) :
    latestTurn? (attempts ++ [(phase, .error e)]) = latestTurn? attempts := by
  rw [latestTurn?_concat]
  cases phase <;> rfl

/-- A latest turn that is a start is a start that succeeded. -/
theorem start_mem_of_latestTurn? {attempts : List PhaseAttempt} (h : latestTurn? attempts = some .start) :
    (.start, .ok ()) ∈ attempts := by
  obtain ⟨⟨phase, result⟩, hlast, rfl⟩ := Option.map_eq_some_iff.1 h
  obtain ⟨hmem, hturn⟩ := List.mem_filter.1 (List.mem_of_getLast? hlast)
  cases result with
  | ok u => exact hmem
  | error e => cases hturn

/-! ## Plans -/

/-- The phases before one that is attempted come before it in the plan, and all of them succeeded. -/
theorem AttemptedInOrder.before {phases : List Phase} {done after : List PhaseAttempt} {phase : Phase}
    {answer result : Except CampaignError Unit}
    (h : AttemptedInOrder phases (done ++ (phase, result) :: after) answer) :
    ∃ rest, phases = done.map Prod.fst ++ phase :: rest ∧ done = (done.map Prod.fst).map (·, .ok ()) := by
  induction done generalizing phases with
  | nil =>
    cases h with
    | failed => exact ⟨_, rfl, rfl⟩
    | succeeded => exact ⟨_, rfl, rfl⟩
  | cons attempt done ih =>
    generalize hall : attempt :: done ++ (phase, result) :: after = all at h
    cases h with
    | none => cases hall
    | failed => simp at hall
    | succeeded first hrest =>
      obtain ⟨rfl, rfl⟩ := List.cons.inj hall
      obtain ⟨rest, rfl, hdone⟩ := ih hrest
      exact ⟨rest, rfl, by rw [List.map_cons, List.map_cons, ← hdone]⟩

/-- A reset starts behind a stop, or at once when it is the first one. -/
theorem LifecycleScripts.before_start {scripts : LifecycleScripts} {first : Bool} {done rest : List Phase}
    (h : scripts.planReset first = .ok (done ++ .start :: rest)) : done = [.stop] ∨ done = [] ∧ first = true := by
  unfold planReset at h
  split at h
  all_goals simp only [Except.ok.injEq, reduceCtorEq] at h
  all_goals rcases done with _ | ⟨phase, _ | ⟨phase', done⟩⟩
  all_goals simp at h ⊢
  exact h.1.symm

namespace ShellResetter

variable {ω : Type} (host : ShellHost ω)

/-- How the resets since the latest termination were answered. -/
def resetAnswersSince (r : ShellResetter) : List (LifecycleRequest ω) → List (Except CampaignError Unit)
  | [] => []
  | .terminate .. :: _ => []
  | .reset env cancelled s :: earlier =>
    resetAnswersSince r earlier ++ [((r.served host earlier).serve host (.reset env cancelled s)).1]
  | _ :: earlier => resetAnswersSince r earlier

section
variable {r : ShellResetter} {request : LifecycleRequest ω} {history earlier : List (LifecycleRequest ω)}

theorem ok_mem_resetAnswersSince_cons (h : request.isTermination = false) :
    .ok () ∈ r.resetAnswersSince host (request :: earlier) ↔
      .ok () ∈ r.resetAnswersSince host earlier ∨
        request.isReset = true ∧ ((r.served host earlier).serve host request).1 = .ok () := by
  cases request with
  | terminate => cases h
  | start | stop => simp [resetAnswersSince, LifecycleRequest.isReset]
  | reset => simp [resetAnswersSince, LifecycleRequest.isReset, eq_comm]

/-- Whether the next reset is the first one says whether no start and no reset succeeded since the latest
termination. -/
theorem served_firstReset_iff (hnew : r.firstReset = true) :
    (r.served host history).firstReset = true ↔
      (.start, .ok ()) ∉ r.attemptsSince host history ∧ .ok () ∉ r.resetAnswersSince host history := by
  induction history with
  | nil => simp [served, attemptsSince, resetAnswersSince, hnew]
  | cons request earlier ih =>
    rw [served]
    cases htermination : request.isTermination with
    | false =>
      rw [(worked host htermination).firstReset, ih, attemptsSince_cons host htermination, List.mem_append,
        ok_mem_resetAnswersSince_cons host htermination, not_or, not_or]
      tauto
    | true =>
      cases request with
      | terminate cancelled s => simp [(terminated host _ cancelled s).2.2.1, attemptsSince, resetAnswersSince]
      | start | reset | stop => cases htermination

/-- What a request attempts is the beginning of what it asks for. -/
theorem asked_of_attempts {done after : List PhaseAttempt} {phase : Phase} {result : Except CampaignError Unit}
    (htermination : request.isTermination = false)
    (h : r.attempts host request = done ++ (phase, result) :: after) :
    ∃ rest, r.asked request = .ok (done.map Prod.fst ++ phase :: rest) ∧
      done = (done.map Prod.fst).map (·, .ok ()) := by
  have hphases := (worked host htermination (r := r)).phases
  cases hasked : r.asked request with
  | error e =>
    rw [hasked] at hphases
    rw [hphases.1] at h
    cases done <;> cases h
  | ok plan =>
    rw [hasked, h] at hphases
    obtain ⟨rest, rfl, hdone⟩ := AttemptedInOrder.before hphases
    exact ⟨rest, rfl, hdone⟩

/-- A request of which a phase fails is not answered well. -/
theorem not_ok_of_failed {done : List PhaseAttempt} {phase : Phase} {e : CampaignError}
    (htermination : request.isTermination = false)
    (h : r.attempts host request = done ++ [(phase, .error e)]) : (r.serve host request).1 ≠ .ok () := by
  intro hok
  have hphases := (worked host htermination (r := r)).phases
  cases hasked : r.asked request with
  | error e' =>
    rw [hasked, hok] at hphases
    cases hphases.2
  | ok plan =>
    rw [hasked, hok] at hphases
    have hmem : (phase, .error e) ∈ plan.map fun phase => (phase, (.ok () : Except CampaignError Unit)) := by
      rw [← hphases.of_ok, h]
      exact List.mem_append_right _ List.mem_cons_self
    simp at hmem

/-- What the flags of a resetter say after a history of requests. -/
structure FlagsTell (r : ShellResetter) (history : List (LifecycleRequest ω)) : Prop where
  started : (r.served host history).started = true ↔ latestTurn? (r.attemptsSince host history) = some .start
  firstReset : (r.served host history).firstReset = true ↔
    (.start, .ok ()) ∉ r.attemptsSince host history ∧ .ok () ∉ r.resetAnswersSince host history
  /-- A phase that fails leaves both as the phases before it in the same request made them. -/
  failed : ∀ (request : LifecycleRequest ω) (done : List PhaseAttempt) (phase : Phase) (e : CampaignError),
    request.isTermination = false →
    (r.served host history).attempts host request = done ++ [(phase, .error e)] →
    let after := r.served host (request :: history)
    (after.started = true ↔ latestTurn? (r.attemptsSince host history ++ done) = some .start) ∧
      (after.firstReset = true ↔ (r.served host history).firstReset = true ∧ (.start, .ok ()) ∉ done)
  exclusive : (r.served host history).started = true → (r.served host history).firstReset = false
  /-- A reset starts nothing that is started, then or by its own phases. -/
  restart : ∀ (env : EnvSnapshot) (cancelled : Bool) (s : ω) (done after : List PhaseAttempt)
    (result : Except CampaignError Unit),
    (r.served host history).attempts host (.reset env cancelled s) = done ++ (.start, result) :: after →
    latestTurn? (r.attemptsSince host history ++ done) ≠ some .start

end

/-- **The flags say what succeeded since the latest termination.** The system under test counts as started
exactly when the latest successful start or stop was a start, and the next reset as the first one exactly
when no start and no reset succeeded; phases that fail change neither. So a system that is started is never
started by a reset. -/
theorem flags_tell_history (scripts : LifecycleScripts) (phaseTimeout : Nat) (s : ω)
    (history : List (LifecycleRequest ω)) : FlagsTell host (build host scripts phaseTimeout s).1 history := by
  generalize hnew : (build host scripts phaseTimeout s).1 = new
  have hstarted : ∀ history, (new.served host history).started = startedAfter false (new.attemptsSince host history) :=
    fun _ => served_started host (by rw [← hnew]; rfl)
  have hfirst : ∀ history, (new.served host history).firstReset = true ↔
      (.start, .ok ()) ∉ new.attemptsSince host history ∧ .ok () ∉ new.resetAnswersSince host history :=
    fun _ => served_firstReset_iff host (by rw [← hnew]; rfl)
  have hexclusive : (new.served host history).started = true → (new.served host history).firstReset = false := by
    intro h
    rw [hstarted, startedAfter_iff] at h
    rw [← Bool.not_eq_true, hfirst]
    exact fun hnone => hnone.1 (start_mem_of_latestTurn? h)
  refine ⟨?_, hfirst history, ?_, hexclusive, ?_⟩
  · rw [hstarted, startedAfter_iff]
  · intro request done phase e htermination hattempts
    dsimp only
    have hanswer := not_ok_of_failed host htermination hattempts
    constructor
    · rw [hstarted, startedAfter_iff, attemptsSince_cons host htermination, hattempts, ← List.append_assoc,
        latestTurn?_failed]
    · rw [served, (worked host htermination).firstReset, hattempts]
      simp [hanswer]
  · intro env cancelled t done after result hattempts
    obtain ⟨rest, hplan, hdone⟩ := asked_of_attempts host rfl hattempts
    rw [Ne, ← startedAfter_iff, startedAfter_append, ← hstarted, Bool.not_eq_true, hdone]
    rcases LifecycleScripts.before_start hplan with hstop | ⟨hnone, hfirst⟩
    · rw [hstop]
      rfl
    · rw [hnone, ← Bool.not_eq_true]
      exact fun h => absurd (hexclusive h) (by simp [hfirst])

end ShellResetter

end FuzzCampaign
