import FuzzCampaign.Proofs.Lifecycle.Holdings
import FuzzCampaign.Proofs.Steps
import Mathlib.Logic.Basic
set_option autoImplicit false

/-! # Whether the system under test is started

A resetter answers requests to start, to reset, to stop and to terminate, each of which attempts phases up
to the first that fails. Along every history of requests the system under test counts as started when a
start succeeded since the latest termination and no stop after it. A reset is planned from another fact,
whether a start succeeded at all since then: `reset_begins_stopped_iff` says for every history that a reset
after a stop is where the two differ, so that the reset phase runs although nothing is started. -/

namespace FuzzCampaign

/-! ## Requests -/

/-- A request to a resetter, with the host as the request finds it. -/
inductive LifecycleRequest (ω : Type) where
  | start (env : EnvSnapshot) (cancelled : Bool) (found : ω)
  | reset (env : EnvSnapshot) (cancelled : Bool) (found : ω)
  | stop (env : EnvSnapshot) (cancelled : Bool) (found : ω)
  | terminate (cancelled : Bool) (found : ω)

/-- The host as a request finds it. -/
def LifecycleRequest.found {ω : Type} : LifecycleRequest ω → ω
  | .start _ _ s | .reset _ _ s | .stop _ _ s | .terminate _ s => s

/-- Whether a reset is requested. -/
def LifecycleRequest.isReset {ω : Type} : LifecycleRequest ω → Bool
  | .reset .. => true
  | _ => false

/-- Whether it is requested to release everything. -/
def LifecycleRequest.isTermination {ω : Type} : LifecycleRequest ω → Bool
  | .terminate .. => true
  | _ => false

/-- An attempt at a phase, with its result. -/
abbrev PhaseAttempt := Phase × Except CampaignError Unit

/-- Phases in order, attempted up to the first that fails, and what comes of it. -/
inductive AttemptedInOrder : List Phase → List PhaseAttempt → Except CampaignError Unit → Prop where
  | none : AttemptedInOrder [] [] (.ok ())
  | failed (phase : Phase) (rest : List Phase) (e : CampaignError) :
      AttemptedInOrder (phase :: rest) [(phase, .error e)] (.error e)
  | succeeded (phase : Phase) {rest : List Phase} {attempts : List PhaseAttempt}
      {result : Except CampaignError Unit} (h : AttemptedInOrder rest attempts result) :
      AttemptedInOrder (phase :: rest) ((phase, .ok ()) :: attempts) result

theorem AttemptedInOrder.of_ok {phases : List Phase} {attempts : List PhaseAttempt}
    (h : AttemptedInOrder phases attempts (.ok ())) : attempts = phases.map (·, .ok ()) := by
  generalize hresult : Except.ok () = result at h
  induction h with
  | none => rfl
  | failed => cases hresult
  | succeeded phase _ ih =>
    subst hresult
    rw [ih rfl, List.map_cons]

theorem AttemptedInOrder.single {phase : Phase} {attempts : List PhaseAttempt} {result : Except CampaignError Unit}
    (h : AttemptedInOrder [phase] attempts result) : attempts = [(phase, result)] := by
  cases h with
  | failed => rfl
  | succeeded _ hrest =>
    cases hrest
    rfl

/-- Whether the system under test is started after an attempt at a phase: a start that succeeds starts it, a
stop that succeeds stops it. -/
def startedAfterAttempt (started : Bool) : PhaseAttempt → Bool
  | (.start, .ok ()) => true
  | (.stop, .ok ()) => false
  | _ => started

/-- Whether the system under test is started after some attempts. -/
def startedAfter (started : Bool) (attempts : List PhaseAttempt) : Bool :=
  attempts.foldl startedAfterAttempt started

/-- Whether a reset phase is attempted while the system under test is not started. -/
def ResetBeginsStopped (started : Bool) : List PhaseAttempt → Prop
  | [] => False
  | attempt :: rest => (attempt.1 = .reset ∧ started = false) ∨
      ResetBeginsStopped (startedAfterAttempt started attempt) rest

instance ResetBeginsStopped.decidable : (started : Bool) → (attempts : List PhaseAttempt) →
    Decidable (ResetBeginsStopped started attempts)
  | _, [] => isFalse id
  | started, attempt :: rest =>
    have := decidable (startedAfterAttempt started attempt) rest
    inferInstanceAs (Decidable (_ ∨ _))

@[simp]
theorem startedAfter_append (started : Bool) (attempts more : List PhaseAttempt) :
    startedAfter started (attempts ++ more) = startedAfter (startedAfter started attempts) more :=
  List.foldl_append

/-- Only the reset phase can begin while the system under test has to be started. -/
theorem AttemptedInOrder.not_resetBeginsStopped {phases : List Phase} {attempts : List PhaseAttempt}
    {result : Except CampaignError Unit} (h : AttemptedInOrder phases attempts result)
    (hnone : .reset ∉ phases) (started : Bool) : ¬ ResetBeginsStopped started attempts := by
  induction h generalizing started with
  | none => exact id
  | failed phase rest e =>
    rw [List.mem_cons, not_or] at hnone
    simp [ResetBeginsStopped, Ne.symm hnone.1]
  | succeeded phase _ ih =>
    rw [List.mem_cons, not_or] at hnone
    simp [ResetBeginsStopped, Ne.symm hnone.1, ih hnone.2]

/-- A reset phase behind a start begins when that succeeded. -/
theorem AttemptedInOrder.start_reset {attempts : List PhaseAttempt} {result : Except CampaignError Unit}
    (h : AttemptedInOrder [.start, .reset] attempts result) (started : Bool) :
    ¬ ResetBeginsStopped started attempts := by
  cases h with
  | failed => simp [ResetBeginsStopped]
  | succeeded _ hreset => simp [hreset.single, ResetBeginsStopped, startedAfterAttempt]

/-- The plans of scripts that can start and go together. -/
theorem LifecycleScripts.planReset_eq {scripts : LifecycleScripts} (hstart : scripts.has .start = true)
    (hsupported : scripts.validate = .ok ()) (first : Bool) :
    scripts.planReset first = .ok (
      if scripts.has .reset then (if first then [.start, .reset] else [.reset])
      else if first then [.start] else [.stop, .start]) := by
  have hnonempty : scripts.isEmpty = false := by simp [isEmpty, Phase.all, hstart]
  simp only [validate, hnonempty, planReset, hstart, Bool.false_eq_true, if_false] at hsupported
  unfold planReset
  rw [hstart]
  cases hreset : scripts.has .reset <;> cases hstop : scripts.has .stop
  · simp [hreset, hstop] at hsupported
  · cases first <;> rfl
  · simp [hreset, hstop] at hsupported
  · cases first <;> rfl

namespace ShellResetter

variable {ω : Type} (host : ShellHost ω)

/-- Answer a request. -/
def serve (r : ShellResetter) : LifecycleRequest ω → Except CampaignError Unit × ShellResetter × ω
  | .start env cancelled s => r.start host env cancelled s
  | .reset env cancelled s => r.reset host env cancelled s
  | .stop env cancelled s => r.stop host env cancelled s
  | .terminate cancelled s => r.terminate host cancelled s

/-- What a history of requests, the latest first, makes of a resetter. -/
def served (r : ShellResetter) : List (LifecycleRequest ω) → ShellResetter
  | [] => r
  | request :: earlier => ((served r earlier).serve host request).2.1

/-- What a request attempts. -/
def attempts (r : ShellResetter) (request : LifecycleRequest ω) : List PhaseAttempt :=
  (r.serve host request).2.1.attempted.drop r.attempted.length

/-- What the requests since the latest termination attempted. -/
def attemptsSince (r : ShellResetter) : List (LifecycleRequest ω) → List PhaseAttempt
  | [] => []
  | .terminate .. :: _ => []
  | request :: earlier => attemptsSince r earlier ++ (r.served host earlier).attempts host request

/-- Since the latest termination a start succeeded, and a stop after the last one that did. -/
def StoppedAgain (r : ShellResetter) (history : List (LifecycleRequest ω)) : Prop :=
  (.start, .ok ()) ∈ r.attemptsSince host history ∧ startedAfter false (r.attemptsSince host history) = false

/-- The phases that a request asks for. -/
def asked (r : ShellResetter) : LifecycleRequest ω → Except CampaignError (List Phase)
  | .start .. => .ok [.start]
  | .reset .. => r.scripts.planReset r.firstReset
  | .stop .. => .ok [.stop]
  | .terminate .. => .ok (if r.files.isSome && r.started && r.scripts.has .stop then [.stop] else [])

/-! ## What only phases change -/

/-- What files and dispatchers have no part in. -/
def course (r : ShellResetter) : LifecycleScripts × Bool × Bool × List PhaseAttempt :=
  (r.scripts, r.firstReset, r.started, r.attempted)

section
variable (r : ShellResetter) (s : ω)

theorem course_removeFiles : (r.removeFiles host s).1.course = r.course :=
  (congrArg course (apart_removeFiles host r s) :)

theorem course_runPhase (phase : Phase) (env : EnvSnapshot) (cancelled : Bool) :
    (r.runPhase host phase env cancelled s).2.1.course = r.course := by
  obtain ⟨files, hapart, -⟩ := runPhase_apart host r phase env cancelled s
  exact (congrArg course hapart :)

theorem course_shutdown : (r.shutdown host s).2.1.course = r.course :=
  (congrArg course (apart_shutdown host r s) :)

end

/-! ## Phases in order -/

/-- What some attempts make of a resetter. -/
structure Attempted (r : ShellResetter) (attempts : List PhaseAttempt) (r' : ShellResetter) : Prop where
  scripts : r'.scripts = r.scripts
  attempted : r'.attempted = r.attempted ++ attempts
  started : r'.started = startedAfter r.started attempts
  firstReset : r'.firstReset = true ↔ r.firstReset = true ∧ (.start, .ok ()) ∉ attempts

theorem Attempted.of_course {r r' : ShellResetter} (h : r'.course = r.course) : Attempted r [] r' := by
  simp only [course, Prod.mk.injEq] at h
  obtain ⟨hscripts, hfirst, hstarted, hattempted⟩ := h
  exact ⟨hscripts, by simp [hattempted], by simp [hstarted, startedAfter], by simp [hfirst]⟩

theorem Attempted.trans {r r' r'' : ShellResetter} {attempts more : List PhaseAttempt}
    (h : Attempted r attempts r') (h' : Attempted r' more r'') : Attempted r (attempts ++ more) r'' where
  scripts := h'.scripts.trans h.scripts
  attempted := by rw [h'.attempted, h.attempted, List.append_assoc]
  started := by rw [h'.started, h.started, startedAfter_append]
  firstReset := by
    rw [h'.firstReset, h.firstReset, List.mem_append, not_or, and_assoc]

/-- One attempt, and what its success changes. -/
theorem attempted_phase (r : ShellResetter) (phase : Phase) (env : EnvSnapshot) (cancelled : Bool) (s : ω) :
    let ran := r.runPhase host phase env cancelled s
    let noted := { ran.2.1 with attempted := ran.2.1.attempted ++ [(phase, ran.1)] }
    Attempted r [(phase, ran.1)] (match ran.1 with
      | .error _ => noted
      | .ok () => noted.succeeded phase) := by
  have hcourse := course_runPhase host r s phase env cancelled
  simp only [course, Prod.mk.injEq] at hcourse
  obtain ⟨hscripts, hfirst, hstarted, hattempted⟩ := hcourse
  dsimp only
  cases (r.runPhase host phase env cancelled s).1 with
  | error e => cases phase <;>
      exact ⟨hscripts, by simp [hattempted], by simp [hstarted, startedAfter, startedAfterAttempt], by simp [hfirst]⟩
  | ok u => cases phase <;>
      exact ⟨hscripts, by simp [hattempted, succeeded],
        by simp [hstarted, startedAfter, startedAfterAttempt, succeeded], by simp [hfirst, succeeded]⟩

theorem runPhases_attempted (env : EnvSnapshot) (cancelled : Bool) (phases : List Phase) (r : ShellResetter)
    (s : ω) :
    ∃ attempts, AttemptedInOrder phases attempts (runPhases host env cancelled phases r s).1 ∧
      Attempted r attempts (runPhases host env cancelled phases r s).2.1 := by
  induction phases generalizing r s with
  | nil => exact ⟨[], .none, .of_course rfl⟩
  | cons phase rest ih =>
    have hphase := attempted_phase host r phase env cancelled s
    rw [runPhases]
    rcases hran : r.runPhase host phase env cancelled s with ⟨result, ran, s'⟩
    rw [hran] at hphase
    dsimp only at hphase ⊢
    cases result with
    | error e => exact ⟨_, .failed phase rest e, hphase⟩
    | ok u =>
      obtain ⟨attempts, horder, hrest⟩ := ih _ s'
      exact ⟨_, .succeeded phase horder, hphase.trans hrest⟩

/-! ## One request -/

section
variable {r : ShellResetter} {request : LifecycleRequest ω}

theorem attempts_eq {attempts : List PhaseAttempt}
    (h : (r.serve host request).2.1.attempted = r.attempted ++ attempts) : r.attempts host request = attempts := by
  rw [ShellResetter.attempts, h, List.drop_left]

/-- What a request other than a termination attempts, answers and leaves. -/
structure Worked (r : ShellResetter) (request : LifecycleRequest ω) : Prop where
  scripts : (r.serve host request).2.1.scripts = r.scripts
  started : (r.serve host request).2.1.started = startedAfter r.started (r.attempts host request)
  firstReset : (r.serve host request).2.1.firstReset = true ↔
    r.firstReset = true ∧ (.start, .ok ()) ∉ r.attempts host request ∧
      ¬ (request.isReset = true ∧ (r.serve host request).1 = .ok ())
  phases : match r.asked request with
    | .error e => r.attempts host request = [] ∧ (r.serve host request).1 = .error e
    | .ok phases => AttemptedInOrder phases (r.attempts host request) (r.serve host request).1

theorem worked_of_phase {phase : Phase} {env : EnvSnapshot} {cancelled : Bool} {s : ω}
    (hserve : r.serve host request = runPhases host env cancelled [phase] r s)
    (hasked : r.asked request = .ok [phase]) (hreset : request.isReset = false) : Worked host r request := by
  obtain ⟨attempts, horder, hattempted⟩ := runPhases_attempted host env cancelled [phase] r s
  rw [← hserve] at horder hattempted
  have heq := attempts_eq host hattempted.attempted
  refine ⟨hattempted.scripts, by rw [heq, hattempted.started], ?_, ?_⟩
  · simp [heq, hattempted.firstReset, hreset]
  · rw [hasked, heq]
    exact horder

theorem worked_reset (r : ShellResetter) (env : EnvSnapshot) (cancelled : Bool) (s : ω) :
    Worked host r (.reset env cancelled s) := by
  cases hplan : r.scripts.planReset r.firstReset with
  | error e =>
    have hserve : r.serve host (.reset env cancelled s) = (.error e, r, s) := by
      simp only [serve, reset, hplan]
    have heq : r.attempts host (.reset env cancelled s) = [] := by simp [ShellResetter.attempts, hserve]
    refine ⟨by rw [hserve], by simp [hserve, heq, startedAfter], by simp [hserve, heq], ?_⟩
    simp [asked, hplan, hserve, heq]
  | ok plan =>
    obtain ⟨attempts, horder, hattempted⟩ := runPhases_attempted host env cancelled plan r s
    rcases hran : runPhases host env cancelled plan r s with ⟨result, r', s'⟩
    rw [hran] at horder hattempted
    have hserve : r.serve host (.reset env cancelled s) = (result, (match result with
        | .error _ => r'
        | .ok () => { r' with firstReset := false }), s') := by
      simp only [serve, reset, hplan, hran]
      cases result <;> rfl
    have heq : r.attempts host (.reset env cancelled s) = attempts := by
      refine attempts_eq host ?_
      rw [hserve]
      cases result <;> exact hattempted.attempted
    refine ⟨?_, ?_, ?_, ?_⟩
    · rw [hserve]
      cases result <;> exact hattempted.scripts
    · rw [hserve, heq]
      cases result <;> exact hattempted.started
    · rw [hserve, heq]
      cases result with
      | error e => simp [hattempted.firstReset]
      | ok u => simp [LifecycleRequest.isReset]
    · rw [hserve, heq]
      simpa [asked, hplan] using horder

/-- A termination attempts a stop at most, and leaves the resetter as it was in the beginning. -/
theorem terminated (r : ShellResetter) (cancelled : Bool) (s : ω) :
    let after := (r.serve host (.terminate cancelled s)).2.1
    after.scripts = r.scripts ∧ after.started = false ∧ after.firstReset = true ∧
      ∃ phases result, r.asked (.terminate cancelled s) = .ok phases ∧
        AttemptedInOrder phases (r.attempts host (.terminate cancelled s)) result := by
  dsimp only
  obtain ⟨phases, attempts, result, hasked, horder, hattempted⟩ :
      ∃ phases attempts result, r.asked (.terminate cancelled s) = .ok phases ∧
        AttemptedInOrder phases attempts result ∧
        Attempted r attempts (r.stopIfStarted host cancelled s).2.1 := by
    cases hfiles : r.files with
    | none =>
      refine ⟨[], [], .ok (), by simp [asked, hfiles], .none, .of_course ?_⟩
      simp only [stopIfStarted, hfiles]
    | some files =>
      by_cases hstop : (r.started && r.scripts.has .stop) = true
      · obtain ⟨attempts, horder, hattempted⟩ :=
          runPhases_attempted host files.2 cancelled [.stop] r s
        refine ⟨[.stop], attempts, _, by simp [asked, hfiles, hstop], horder, ?_⟩
        simpa only [stopIfStarted, hfiles, hstop, if_true, stop] using hattempted
      · refine ⟨[], [], .ok (), by simp [asked, hfiles, hstop], .none, .of_course ?_⟩
        simp only [stopIfStarted, hfiles, hstop, Bool.false_eq_true, if_false]
  rcases hstopped : r.stopIfStarted host cancelled s with ⟨stopped, r₁, s₁⟩
  rw [hstopped] at hattempted
  have hshut := course_shutdown host r₁ s₁
  rcases hdown : r₁.shutdown host s₁ with ⟨down, r₂, s₂⟩
  rw [hdown] at hshut
  have hall : Attempted r attempts (r₂.removeFiles host s₂).1 := by
    simpa using hattempted.trans (.of_course ((course_removeFiles host r₂ s₂).trans hshut))
  have hserve : (r.serve host (.terminate cancelled s)).2.1 =
      { (r₂.removeFiles host s₂).1 with started := false, firstReset := true } := by
    simp only [serve, terminate, hstopped, hdown]
  have heq : r.attempts host (.terminate cancelled s) = attempts :=
    attempts_eq host (by rw [hserve]; exact hall.attempted)
  rw [hserve, heq]
  exact ⟨hall.scripts, rfl, rfl, phases, result, hasked, horder⟩

theorem worked (h : request.isTermination = false) : Worked host r request := by
  cases request with
  | start => exact worked_of_phase host rfl rfl rfl
  | reset env cancelled s => exact worked_reset host r env cancelled s
  | stop => exact worked_of_phase host rfl rfl rfl
  | terminate => cases h

theorem serve_scripts : (r.serve host request).2.1.scripts = r.scripts := by
  cases request with
  | terminate cancelled s => exact (terminated host r cancelled s).1
  | start | reset | stop => exact (worked host rfl).scripts

end

/-! ## Histories -/

section
variable {r : ShellResetter} {request : LifecycleRequest ω} {history earlier : List (LifecycleRequest ω)}

theorem attemptsSince_cons (h : request.isTermination = false) :
    r.attemptsSince host (request :: earlier) =
      r.attemptsSince host earlier ++ (r.served host earlier).attempts host request := by
  cases request with
  | terminate => cases h
  | start | reset | stop => rfl

theorem served_scripts : (r.served host history).scripts = r.scripts := by
  induction history with
  | nil => rfl
  | cons request earlier ih => rw [served, serve_scripts, ih]

/-- The flag says what the phases since the latest termination made of the system under test. -/
theorem served_started (hnew : r.started = false) :
    (r.served host history).started = startedAfter false (r.attemptsSince host history) := by
  induction history with
  | nil => exact hnew
  | cons request earlier ih =>
    rw [served]
    cases htermination : request.isTermination with
    | false => rw [attemptsSince_cons host htermination, startedAfter_append, ← ih, (worked host htermination).started]
    | true =>
      cases request with
      | terminate cancelled s => exact (terminated host _ cancelled s).2.1
      | start | reset | stop => cases htermination

end

/-! ## Scripts that can start the system under test -/

section
variable {scripts : LifecycleScripts} {r : ShellResetter}

/-- A reset that succeeds was planned after a start or began with one. -/
theorem start_of_reset {request : LifecycleRequest ω} (hstart : r.scripts.has .start = true)
    (hsupported : r.scripts.validate = .ok ()) (hreset : request.isReset = true)
    (hok : (r.serve host request).1 = .ok ()) :
    r.firstReset = false ∨ (.start, .ok ()) ∈ r.attempts host request := by
  cases request with
  | start | stop | terminate => cases hreset
  | reset env cancelled s =>
    have hphases := (worked_reset host r env cancelled s).phases
    rw [hok, asked, LifecycleScripts.planReset_eq hstart hsupported] at hphases
    cases hfirst : r.firstReset with
    | false => exact Or.inl rfl
    | true =>
      -- both plans of a first reset begin with a start
      rw [hphases.of_ok, hfirst]
      cases r.scripts.has .reset <;> simp

/-- Whether the next reset is the first one says whether no start succeeded since the latest termination. -/
theorem served_firstReset {history : List (LifecycleRequest ω)} (hstart : r.scripts.has .start = true)
    (hsupported : r.scripts.validate = .ok ()) (hnew : r.firstReset = true) :
    (r.served host history).firstReset = true ↔ (.start, .ok ()) ∉ r.attemptsSince host history := by
  induction history with
  | nil => simp [served, attemptsSince, hnew]
  | cons request earlier ih =>
    rw [served]
    cases htermination : request.isTermination with
    | false =>
      rw [attemptsSince_cons host htermination, (worked host htermination).firstReset, List.mem_append, not_or, ih]
      refine ⟨fun h => ⟨h.1, h.2.1⟩, fun ⟨hbefore, hnow⟩ => ⟨hbefore, hnow, fun ⟨hreset, hok⟩ => ?_⟩⟩
      have hscripts : (r.served host earlier).scripts = r.scripts := served_scripts host
      rw [← hscripts] at hstart hsupported
      rcases start_of_reset host hstart hsupported hreset hok with hnot | hstarted
      · exact absurd (ih.2 hbefore) (by simp [hnot])
      · exact hnow hstarted
    | true =>
      cases request with
      | terminate cancelled s => simp [(terminated host _ cancelled s).2.2.1, attemptsSince]
      | start | reset | stop => cases htermination

/-- A reset phase begins while nothing is started when a reset is planned that has no need to start. -/
theorem resetBeginsStopped_iff {request : LifecycleRequest ω} (hstart : r.scripts.has .start = true)
    (hsupported : r.scripts.validate = .ok ()) :
    ResetBeginsStopped r.started (r.attempts host request) ↔
      request.isReset = true ∧ r.scripts.has .reset = true ∧ r.firstReset = false ∧ r.started = false := by
  cases request with
  | start env cancelled s =>
    have hworked : Worked host r (.start env cancelled s) := worked host rfl
    have hphases := hworked.phases
    exact iff_of_false (hphases.not_resetBeginsStopped (by simp) _) (by simp [LifecycleRequest.isReset])
  | stop env cancelled s =>
    have hworked : Worked host r (.stop env cancelled s) := worked host rfl
    have hphases := hworked.phases
    exact iff_of_false (hphases.not_resetBeginsStopped (by simp) _) (by simp [LifecycleRequest.isReset])
  | terminate cancelled s =>
    obtain ⟨-, -, -, phases, result, hasked, hphases⟩ := terminated host r cancelled s
    have hnone : .reset ∉ phases := by
      cases hasked
      split <;> simp
    exact iff_of_false (hphases.not_resetBeginsStopped hnone _) (by simp [LifecycleRequest.isReset])
  | reset env cancelled s =>
    have hphases := (worked_reset host r env cancelled s).phases
    rw [asked, LifecycleScripts.planReset_eq hstart hsupported] at hphases
    cases hreset : r.scripts.has .reset with
    | false =>
      rw [hreset] at hphases
      refine iff_of_false (hphases.not_resetBeginsStopped ?_ _) (by simp)
      cases r.firstReset <;> simp
    | true =>
      cases hfirst : r.firstReset with
      | false =>
        rw [hreset, hfirst] at hphases
        simp [hphases.single, ResetBeginsStopped, LifecycleRequest.isReset]
      | true =>
        rw [hreset, hfirst] at hphases
        exact iff_of_false (hphases.start_reset _) (by simp)

/-- After a reset that succeeds the system under test is started, unless it has no need to start. -/
theorem started_of_reset {request : LifecycleRequest ω} (hstart : r.scripts.has .start = true)
    (hsupported : r.scripts.validate = .ok ()) (hreset : request.isReset = true)
    (hok : (r.serve host request).1 = .ok ()) :
    (r.serve host request).2.1.started = false ↔
      r.scripts.has .reset = true ∧ r.firstReset = false ∧ r.started = false := by
  cases request with
  | start | stop | terminate => cases hreset
  | reset env cancelled s =>
    have hworked := worked_reset host r env cancelled s
    have hphases := hworked.phases
    rw [hok, asked, LifecycleScripts.planReset_eq hstart hsupported] at hphases
    rw [hworked.started, hphases.of_ok]
    cases r.scripts.has .reset <;> cases r.firstReset <;> simp [startedAfter, startedAfterAttempt]

/-- **A reset phase begins while nothing is started exactly in a reset after a stop.** The scripts can start
the system under test, and the history is any sequence of requests, in any environments and with whatever
the host does. Except in that case a reset that succeeds leaves the system under test started. -/
theorem reset_begins_stopped_iff {scripts : LifecycleScripts} (hstart : scripts.has .start = true)
    (hsupported : scripts.validate = .ok ()) (phaseTimeout : Nat) (s : ω)
    (history : List (LifecycleRequest ω)) (request : LifecycleRequest ω) :
    let new := (build host scripts phaseTimeout s).1
    let r := new.served host history
    (ResetBeginsStopped r.started (r.attempts host request) ↔
      request.isReset = true ∧ scripts.has .reset = true ∧ new.StoppedAgain host history) ∧
    (request.isReset = true → (r.serve host request).1 = .ok () →
      ((r.serve host request).2.1.started = false ↔
        scripts.has .reset = true ∧ new.StoppedAgain host history)) := by
  intro new r
  have hscripts : r.scripts = scripts := served_scripts host
  have hstopped : new.StoppedAgain host history ↔ r.firstReset = false ∧ r.started = false := by
    rw [StoppedAgain, ← served_started host (r := new) rfl, ← Bool.not_eq_true r.firstReset,
      served_firstReset host (r := new) hstart hsupported rfl, not_not]
  rw [hstopped, ← hscripts]
  rw [← hscripts] at hstart hsupported
  exact ⟨resetBeginsStopped_iff host hstart hsupported, fun hreset hok =>
    started_of_reset host hstart hsupported hreset hok⟩

end

/-! ## A reset of nothing -/

/-- A host on which every phase succeeds at once. -/
def promptHost : ShellHost Unit where
  clock _ := 0
  passUntil _ s := s
  freshNonce s := ("n", s)
  makeDirectory s := (.ok "/d", s)
  store _ s := (.ok (), s)
  removeDirectory _ s := s
  spawn _ s := (.ok (), s)
  isRunning _ := true
  write _ s := (.ok (), s)
  watch _ _ s := .wake { arrived := [(.standard, ControlMarkers.exitCode ⟨"n"⟩ ++ "0")] } s fun _ => .over s
  linger s := .over s
  arrived s := ([], s)
  kill s := s
  reap s := (.ok (), s)
  drop s := s

/-- All three scripts. -/
def wholeScripts : LifecycleScripts := ⟨"start", "reset", "stop"⟩

/-- The system under test is started and then stopped, the latest request first. -/
def startedAndStopped : List (LifecycleRequest Unit) := [.stop .empty false (), .start .empty false ()]

/-- A resetter after these requests. -/
def stoppedResetter : ShellResetter := (build promptHost wholeScripts 1000 ()).1.served promptHost startedAndStopped

/-- A reset runs the reset phase of a system that was stopped, and succeeds while nothing is started. -/
theorem reset_of_stopped_succeeds :
    wholeScripts.has .start = true ∧ wholeScripts.validate = .ok () ∧
      ResetBeginsStopped stoppedResetter.started
        (stoppedResetter.attempts promptHost (.reset .empty false ())) ∧
      (stoppedResetter.serve promptHost (.reset .empty false ())).1 = .ok () ∧
      (stoppedResetter.serve promptHost (.reset .empty false ())).2.1.started = false := by
  decide +kernel

/-- The same requests as `reset_begins_stopped_iff` sees them. -/
theorem stopped_again_of_requests :
    wholeScripts.has .start = true ∧ wholeScripts.validate = .ok () ∧
      (build promptHost wholeScripts 1000 ()).1.StoppedAgain promptHost startedAndStopped := by
  have hstart : wholeScripts.has .start = true := by decide +kernel
  have hsupported : wholeScripts.validate = .ok () := by decide +kernel
  obtain ⟨hbegins, -⟩ := reset_begins_stopped_iff promptHost hstart hsupported 1000 () startedAndStopped
    (.reset .empty false ())
  have hstopped : ResetBeginsStopped stoppedResetter.started
      (stoppedResetter.attempts promptHost (.reset .empty false ())) := by decide +kernel
  exact ⟨hstart, hsupported, (hbegins.1 hstopped).2.2⟩

end ShellResetter

end FuzzCampaign
