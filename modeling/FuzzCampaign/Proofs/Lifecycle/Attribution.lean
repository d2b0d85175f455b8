import FuzzCampaign.Proofs.Lifecycle.Ledger
import FuzzCampaign.Proofs.Lifecycle.PhaseScript
import FuzzCampaign.Proofs.Lifecycle.Started
set_option autoImplicit false

/-! # Whose exit code a phase ends with

A phase that ends with an exit code ends with the one that a shell printed in answer to the line of this very
phase. What carries this is that a dispatcher that is held has nothing outstanding: after a phase that ended in
another way than with an exit code the dispatcher is given up, whatever its shell may still have to say.
`phases_answered` says it for every history of requests and every host whose shells answer what they read. -/

namespace FuzzCampaign

open Ledger (Goes Keeps Settled)

/-! ## Attempts and their answers -/

/-- The exit code that the result of a phase tells. -/
def toldCode : Except CampaignError Unit → Option Int
  | .ok () => some 0
  | .error (.reset _ code _ _) => code
  | .error _ => none

/-- Attempts at phases and the lines by which they asked a shell, the first of these lines having the number `n`.
A result that tells a code belongs to an attempt that asked, and the code was told in answer to its line. -/
inductive Attributed (m : ControlMarkers) (told : List Answer) : Nat → List PhaseAttempt → List String → Prop where
  | nil {n : Nat} : Attributed m told n [] []
  /-- The attempt did not come to ask. -/
  | unasked {n : Nat} {phase : Phase} {result : Except CampaignError Unit} {attempts : List PhaseAttempt}
      {lines : List String} : toldCode result = none → Attributed m told n attempts lines →
      Attributed m told n ((phase, result) :: attempts) lines
  | asked {n : Nat} {phase : Phase} {result : Except CampaignError Unit} {attempts : List PhaseAttempt}
      {lines : List String} (set : ScriptSet) (path : String) : set.phasePath? phase = some path →
      (∀ code, toldCode result = some code → ∃ c : UInt8, code = c.toNat ∧ ⟨n, c⟩ ∈ told) →
      Attributed m told (n + 1) attempts lines →
      Attributed m told n ((phase, result) :: attempts) (m.execLine path :: lines)

section
variable {m : ControlMarkers} {told told' : List Answer} {n : Nat} {attempts more : List PhaseAttempt}
  {lines others : List String}

/-- What is told later takes nothing back. -/
theorem Attributed.mono (h : Attributed m told n attempts lines) (htold : told <+: told') :
    Attributed m told' n attempts lines := by
  induction h with
  | nil => exact .nil
  | unasked hnone _ ih => exact .unasked hnone ih
  | asked set path hpath hcode _ ih =>
    refine .asked set path hpath (fun code hresult => ?_) ih
    obtain ⟨c, hc, hmem⟩ := hcode code hresult
    exact ⟨c, hc, htold.subset hmem⟩

theorem Attributed.append (h : Attributed m told n attempts lines)
    (h' : Attributed m told (n + lines.length) more others) :
    Attributed m told n (attempts ++ more) (lines ++ others) := by
  induction h with
  | nil => exact h'
  | unasked hnone _ ih => exact .unasked hnone (ih h')
  | asked set path hpath hcode _ ih =>
    refine .asked set path hpath hcode (ih ?_)
    rwa [List.length_cons, Nat.add_comm _ 1, ← Nat.add_assoc] at h'

end

/-- From one account to a later one these attempts were made: nothing else was asked, and every code was told in
answer to the attempt that ended with it. -/
def Attempts (m : ControlMarkers) (l : Ledger) (attempts : List PhaseAttempt) (l' : Ledger) : Prop :=
  ∃ lines, l'.asked = l.asked ++ lines ∧ l.told <+: l'.told ∧ Attributed m l'.told l.asked.length attempts lines

section
variable {m : ControlMarkers} {l l' l'' : Ledger} {attempts more : List PhaseAttempt} {phase : Phase}
  {result : Except CampaignError Unit}

theorem attempts_of_keeps (h : Keeps l l') : Attempts m l [] l' :=
  ⟨[], by rw [h.asked, List.append_nil], h.told, .nil⟩

theorem Attempts.trans (h : Attempts m l attempts l') (h' : Attempts m l' more l'') :
    Attempts m l (attempts ++ more) l'' := by
  obtain ⟨lines, hasked, htold, hattributed⟩ := h
  obtain ⟨others, hasked', htold', hattributed'⟩ := h'
  rw [hasked, List.length_append] at hattributed'
  exact ⟨lines ++ others, by rw [hasked', hasked, List.append_assoc], htold.trans htold',
    (hattributed.mono htold').append hattributed'⟩

theorem Attempts.after (h : Keeps l l') (h' : Attempts m l' attempts l'') : Attempts m l attempts l'' :=
  (attempts_of_keeps h).trans h'

theorem Attempts.before (h : Attempts m l attempts l') (h' : Keeps l' l'') : Attempts m l attempts l'' := by
  simpa using h.trans (attempts_of_keeps h')

/-- An attempt that did not come to ask. -/
theorem attempts_unasked (h : Keeps l l') (hnone : toldCode result = none) : Attempts m l [(phase, result)] l' :=
  ⟨[], by rw [h.asked, List.append_nil], h.told, .unasked hnone .nil⟩

/-- An attempt that asked. -/
theorem attempts_asked {set : ScriptSet} {path : String} (hpath : set.phasePath? phase = some path)
    (h : Keeps (l.ask (m.execLine path)) l')
    (hcode : ∀ code, toldCode result = some code → ∃ c : UInt8, code = c.toNat ∧ ⟨l.asked.length, c⟩ ∈ l'.told) :
    Attempts m l [(phase, result)] l' :=
  ⟨[m.execLine path], h.asked, h.told, .asked set path hpath hcode .nil⟩

end

/-! ## One phase of a dispatcher -/

section
variable {ω : Type} {host : ShellHost ω} {m : ControlMarkers} {ledger : ω → Ledger}

theorem toldCode_codeResult (d : Dispatcher) (phase : Phase) (code : Int) :
    toldCode (d.codeResult phase code) = some code := by
  unfold Dispatcher.codeResult
  split
  · next hzero => rw [hzero]; rfl
  · rfl

/-- An attempt that ends with a code that was told in answer to its line. -/
theorem attempts_answered {l l' : Ledger} {set : ScriptSet} {phase : Phase} {path : String} {code : Int}
    (hpath : set.phasePath? phase = some path) (h : Keeps (l.ask (m.execLine path)) l') (d : Dispatcher)
    (htold : ∃ c : UInt8, code = c.toNat ∧ ⟨l.asked.length, c⟩ ∈ l'.told) :
    Attempts m l [(phase, d.codeResult phase code)] l' := by
  refine attempts_asked hpath h fun told hresult => ?_
  rw [toldCode_codeResult] at hresult
  cases hresult
  exact htold

/-- A dispatcher with nothing outstanding runs a phase. When it can be used again nothing is outstanding. -/
structure RanPhase (m : ControlMarkers) (ledger : ω → Ledger) (phase : Phase) (s : ω)
    (ran : Except CampaignError Unit × Dispatcher × ω) : Prop where
  attempts : Attempts m (ledger s) [(phase, ran.1)] (ledger ran.2.2)
  markers : ran.2.1.markers = m
  settled : ran.2.1.alive = true → (ledger ran.2.2).Settled

theorem Dispatcher.runPhase_spec (hanswers : Answers host m ledger) {d : Dispatcher} {s : ω} (hmarkers : d.markers = m)
    (hsettled : (ledger s).Settled) {set : ScriptSet} {phase : Phase} {script : String}
    (hscript : set.phasePath? phase = some script) (timeout : Nat) (cancelled : Bool) :
    RanPhase m ledger phase s (d.runPhase host phase script timeout cancelled s) := by
  unfold runPhase
  dsimp only
  rcases hchecked : d.checkAlive host s with ⟨scripts, markers, output, alive⟩
  obtain rfl : markers = m := (congrArg Dispatcher.markers hchecked).symm.trans hmarkers
  cases alive with
  | false => exact ⟨attempts_unasked (.refl _) rfl, rfl, nofun⟩
  | true =>
  have harrived := hanswers.arrived s
  unfold listen
  rcases hread : host.arrived s with ⟨arrived, s₁⟩
  rw [hread] at harrived
  have hsettled := hsettled.goes harrived
  dsimp only at hsettled ⊢
  have hfailed := hanswers.askFailed script s₁
  have hasked := hanswers.ask script s₁
  rw [if_neg (by decide)]
  rcases hwrite : host.write (markers.execLine script) s₁ with ⟨written, s₂⟩
  rw [hwrite] at hfailed hasked
  cases written with
  | error reason =>
    have hkeeps := hfailed reason rfl
    exact ⟨.after harrived.keeps (attempts_asked hscript hkeeps nofun), rfl, nofun⟩
  | ok u =>
    dsimp only
    -- the answer to the line is all that is outstanding
    have hgoes := hasked rfl
    have hawaits : Ledger.Awaits (ledger s₂) (ledger s₁).asked.length
        (output.lines markers arrived).beginPhase.exitCodes :=
      (hsettled.ask _).goes (d := (output.lines markers arrived).beginPhase) hgoes
    have hawaited := Ledger.await_awaited (hanswers.watch timeout cancelled s₂) hawaits
    rcases hended : Dispatcher.await markers (host.watch timeout cancelled s₂)
      (output.lines markers arrived).beginPhase with ⟨ending, heard, s₃⟩
    rw [hended] at hawaited
    obtain ⟨hkeeps, hcode, hexited⟩ := hawaited
    have hkeeps := hgoes.keeps.trans hkeeps
    cases ending with
    | exitCode code =>
      obtain ⟨htold, hleft⟩ := hcode code rfl
      exact ⟨.after harrived.keeps (attempts_answered hscript hkeeps _ htold), rfl, fun _ => hleft⟩
    | cancelled | expired =>
      exact ⟨.after harrived.keeps (attempts_asked hscript (hkeeps.trans (hanswers.kill s₃)) nofun), rfl, nofun⟩
    | exited =>
      dsimp only
      have hawaitedLate := Ledger.awaitLate_awaited (hanswers.linger s₃) (hexited rfl)
      rcases hlinger : Dispatcher.awaitLate markers (host.linger s₃) heard with ⟨late, heard', s₄⟩
      rw [hlinger] at hawaitedLate
      obtain ⟨hkeepsLate, hlate⟩ := hawaitedLate
      have hkeeps := hkeeps.trans hkeepsLate
      cases late with
      | none =>
        exact ⟨.after harrived.keeps (attempts_asked hscript (hkeeps.trans (hanswers.kill s₄)) nofun), rfl, nofun⟩
      | some code =>
        exact ⟨.after harrived.keeps (attempts_answered hscript hkeeps _ (hlate code rfl)), rfl, nofun⟩

end

/-! ## The files of a script set -/

theorem Lifecycle.phaseScript_error {phase : Phase} {body file : String} {env : EnvSnapshot} {e : CampaignError}
    (h : phaseScript phase body env file = .error e) : ∃ name, e = notAVariable name := by
  unfold phaseScript at h
  split at h
  · next hdeclared =>
    cases h
    obtain ⟨entry, -, -, hrefused⟩ := declarations_refused hdeclared
    exact ⟨entry.1, hrefused⟩
  · cases h

theorem ScriptSet.renderPhases_error {scripts : LifecycleScripts} {env : EnvSnapshot} {file : String}
    {phases : List Phase} {e : CampaignError} (h : renderPhases scripts env file phases = .error e) :
    ∃ name, e = Lifecycle.notAVariable name := by
  induction phases with
  | nil => cases h
  | cons phase rest ih =>
    rw [renderPhases] at h
    split at h
    · exact ih h
    split at h
    · next hscript =>
      cases h
      exact Lifecycle.phaseScript_error hscript
    split at h
    · next hrest =>
      cases h
      exact ih hrest
    · cases h

/-- A script set is refused for nothing but the name of a variable. -/
theorem ScriptSet.render_error {dir : String} {scripts : LifecycleScripts} {env : EnvSnapshot} {m : ControlMarkers}
    {e : CampaignError} (h : render dir scripts env m = .error e) : ∃ name, e = Lifecycle.notAVariable name := by
  unfold render at h
  dsimp only at h
  split at h
  · next hphases =>
    cases h
    exact renderPhases_error hphases
  · cases h

namespace ShellResetter

section
variable {ω : Type} {host : ShellHost ω} {m : ControlMarkers} {ledger : ω → Ledger} {r : ShellResetter} {s : ω}

/-! ## A resetter between phases -/

/-- A resetter knows the markers of its shells, and the shell that it holds, which it only does together with files,
has nothing outstanding. -/
structure Held (m : ControlMarkers) (l : Ledger) (r : ShellResetter) : Prop where
  markers : r.markers = m
  dispatcher : ∀ d, r.dispatcher = some d → d.markers = m ∧ l.Settled
  files : r.files = none → r.dispatcher = none

/-- A resetter that holds no shell. -/
theorem held_of_none (hmarkers : r.markers = m) (hnone : r.dispatcher = none) (l : Ledger) : Held m l r :=
  ⟨hmarkers, by simp [hnone], fun _ => hnone⟩

/-- Nothing is asked while a resetter and its host come to be `r'` and `s'`, and no shell is held then. -/
structure Idle (ledger : ω → Ledger) (r : ShellResetter) (s : ω) (r' : ShellResetter) (s' : ω) : Prop where
  keeps : Keeps (ledger s) (ledger s')
  markers : r'.markers = r.markers
  dispatcher : r'.dispatcher = none

theorem Idle.held {r' : ShellResetter} {s' : ω} (h : Idle ledger r s r' s') (hmarkers : r.markers = m) (l : Ledger) :
    Held m l r' := held_of_none (h.markers.trans hmarkers) h.dispatcher l

theorem listen_keeps (hanswers : Answers host m ledger) (r : ShellResetter) (s : ω) :
    Keeps (ledger s) (ledger (r.listen host s).2) ∧ (r.listen host s).1.markers = r.markers := by
  unfold listen
  cases r.dispatcher with
  | none => exact ⟨.refl _, rfl⟩
  | some d => exact ⟨(hanswers.arrived s).keeps, rfl⟩

theorem dropDispatcher_idle (hanswers : Answers host m ledger) (r : ShellResetter) (s : ω) :
    Idle ledger r s (r.dropDispatcher host s).1 (r.dropDispatcher host s).2 := by
  unfold dropDispatcher listen
  cases hheld : r.dispatcher with
  | none => exact ⟨.refl _, rfl, hheld⟩
  | some d => exact ⟨(hanswers.arrived s).keeps.trans (hanswers.drop _), rfl, rfl⟩

theorem removeFiles_idle (hanswers : Answers host m ledger) (hnone : r.dispatcher = none) (s : ω) :
    Idle ledger r s (r.removeFiles host s).1 (r.removeFiles host s).2 := by
  unfold removeFiles
  split
  · exact ⟨.refl _, rfl, hnone⟩
  · exact ⟨hanswers.removeDirectory _ s, rfl, hnone⟩

theorem materialize_keeps (hanswers : Answers host m ledger) (r : ShellResetter) (env : EnvSnapshot) (s : ω) :
    Keeps (ledger s) (ledger (r.materialize host env s).2) ∧
      ∀ e, (r.materialize host env s).1 = .error e → toldCode (.error e) = none := by
  have hmade := hanswers.makeDirectory s
  unfold materialize
  split
  · next h =>
    rw [h] at hmade
    exact ⟨hmade, fun e h => by cases h; rfl⟩
  · next dir s₁ h =>
    rw [h] at hmade
    split
    · next hrender =>
      obtain ⟨name, rfl⟩ := ScriptSet.render_error hrender
      exact ⟨hmade.trans (hanswers.removeDirectory dir s₁), fun e h => by cases h; rfl⟩
    · next set _ =>
      have hstored := hanswers.store set s₁
      split
      · next h =>
        rw [h] at hstored
        exact ⟨(hmade.trans hstored).trans (hanswers.removeDirectory dir _), fun e h => by cases h; rfl⟩
      · next h =>
        rw [h] at hstored
        exact ⟨hmade.trans hstored, nofun⟩

/-- A step of a phase that asks nothing: the resetter and its host come to be `after`, and with an error the phase
is over. -/
structure Prepared {α : Type} (m : ControlMarkers) (ledger : ω → Ledger) (s : ω)
    (after : Except CampaignError α × ShellResetter × ω) : Prop where
  keeps : Keeps (ledger s) (ledger after.2.2)
  held : Held m (ledger after.2.2) after.2.1
  untold : ∀ e, after.1 = .error e → toldCode (.error e) = none

theorem renewFiles_prepared (hanswers : Answers host m ledger) (hmarkers : r.markers = m)
    (hnone : r.dispatcher = none) (env : EnvSnapshot) (s : ω) : Prepared m ledger s (r.renewFiles host env s) := by
  obtain ⟨hkept, huntold⟩ := materialize_keeps hanswers r env s
  unfold renewFiles
  split
  · next h =>
    rw [h] at hkept huntold
    exact ⟨hkept, held_of_none hmarkers hnone _, fun e h => by cases h; exact huntold _ rfl⟩
  · next s₁ h =>
    rw [h] at hkept
    have hremoved := removeFiles_idle hanswers hnone s₁
    refine ⟨hkept.trans hremoved.keeps, held_of_none ?_ ?_ _, nofun⟩
    · exact hremoved.markers.trans hmarkers
    · exact hremoved.dispatcher

theorem ensureFiles_prepared (hanswers : Answers host m ledger) (hheld : Held m (ledger s) r) (env : EnvSnapshot) :
    Prepared m ledger s (r.ensureFiles host env s) := by
  unfold ensureFiles
  split
  · next hnone => exact renewFiles_prepared hanswers hheld.markers (hheld.files hnone) env s
  · split
    · exact ⟨.refl _, hheld, nofun⟩
    · have hdropped := dropDispatcher_idle hanswers r s
      obtain ⟨hkeeps, hleft, huntold⟩ :=
        renewFiles_prepared hanswers (hdropped.markers.trans hheld.markers) hdropped.dispatcher env _
      exact ⟨hdropped.keeps.trans hkeeps, hleft, huntold⟩

/-- A dispatcher that is taken has nothing outstanding. -/
structure Taken (m : ControlMarkers) (ledger : ω → Ledger) (s : ω)
    (taken : Except CampaignError Dispatcher × ShellResetter × ω) : Prop where
  prepared : Prepared m ledger s taken
  settled : ∀ d, taken.1 = .ok d → d.markers = m ∧ (ledger taken.2.2).Settled

/-- A shell that is started has nothing outstanding. -/
theorem spawn_spec (hanswers : Answers host m ledger) (set : ScriptSet) (s : ω) :
    let spawned := Dispatcher.spawn host set m s
    Keeps (ledger s) (ledger spawned.2) ∧ (∀ e, spawned.1 = .error e → toldCode (.error e) = none) ∧
      ∀ d, spawned.1 = .ok d → d.markers = m ∧ (ledger spawned.2).Settled := by
  obtain ⟨hkeeps, hsettled⟩ := hanswers.spawn set s
  unfold Dispatcher.spawn
  split
  · next h =>
    rw [h] at hkeeps hsettled
    exact ⟨hkeeps, nofun, fun d h => by cases h; exact ⟨rfl, hsettled rfl⟩⟩
  · next h =>
    rw [h] at hkeeps
    exact ⟨hkeeps, fun e h => by cases h; rfl, nofun⟩

theorem respawn_taken (hanswers : Answers host m ledger) (hmarkers : r.markers = m) (set : ScriptSet) :
    Taken m ledger s (r.respawn host set s) := by
  obtain ⟨hlistened, hkept⟩ := listen_keeps hanswers r s
  obtain rfl : (r.listen host s).1.markers = m := hkept.trans hmarkers
  obtain ⟨hkeeps, huntold, hready⟩ := spawn_spec hanswers set (r.listen host s).2
  unfold respawn
  dsimp only
  split
  · next h =>
    rw [h] at hkeeps hready
    refine ⟨⟨hlistened.trans hkeeps, held_of_none ?_ ?_ _, nofun⟩, fun d h => ?_⟩
    · rfl
    · rfl
    · cases h
      exact hready _ rfl
  · next s₁ h =>
    rw [h] at hkeeps huntold
    have hdropped := dropDispatcher_idle hanswers (r.listen host s).1 s₁
    exact ⟨⟨(hlistened.trans hkeeps).trans hdropped.keeps, hdropped.held rfl _, huntold⟩, nofun⟩

theorem takeDispatcher_taken (hanswers : Answers host m ledger) (hheld : Held m (ledger s) r) (set : ScriptSet) :
    Taken m ledger s (r.takeDispatcher host set s) := by
  obtain ⟨hmarkers, hdispatchers, -⟩ := hheld
  unfold takeDispatcher
  cases hdispatcher : r.dispatcher with
  | none =>
    subst hmarkers
    obtain ⟨hkeeps, huntold, hready⟩ := spawn_spec hanswers set s
    exact ⟨⟨hkeeps, held_of_none rfl hdispatcher _, huntold⟩, hready⟩
  | some d =>
    dsimp only [Option.map]
    split
    · refine ⟨⟨.refl _, held_of_none ?_ ?_ _, nofun⟩, fun d' h => ?_⟩
      · exact hmarkers
      · rfl
      · cases h
        exact hdispatchers d hdispatcher
    · exact respawn_taken hanswers hmarkers set

/-! ## Attempts at phases -/

/-- A part of a request made these attempts. -/
structure Made (m : ControlMarkers) (ledger : ω → Ledger) (s : ω) (attempts : List PhaseAttempt)
    (r' : ShellResetter) (s' : ω) : Prop where
  attempts : Attempts m (ledger s) attempts (ledger s')
  held : Held m (ledger s') r'

/-- A phase that ends before it asks. -/
theorem Prepared.made {α : Type} {e : CampaignError} {r' : ShellResetter} {s' : ω}
    (h : Prepared m ledger s ((.error e : Except CampaignError α), r', s')) (phase : Phase) :
    Made m ledger s [(phase, .error e)] r' s' :=
  ⟨attempts_unasked h.keeps (h.untold e rfl), h.held⟩

theorem runOn_made (hanswers : Answers host m ledger) (hheld : Held m (ledger s) r) {set : ScriptSet}
    {env : EnvSnapshot} (hfiles : r.files = some (set, env)) (phase : Phase) (cancelled : Bool) :
    let ran := r.runOn host set phase cancelled s
    Made m ledger s [(phase, ran.1)] ran.2.1 ran.2.2 := by
  have hkept := apart_takeDispatcher host r s set
  unfold runOn
  split
  · exact ⟨attempts_unasked (.refl _) rfl, hheld⟩
  next script hscript =>
  have htaken := takeDispatcher_taken hanswers hheld set
  split
  · next h =>
    rw [h] at htaken
    exact htaken.prepared.made phase
  next d r₁ s₁ h =>
  rw [h] at htaken hkept
  have hfiles₁ : r₁.files = some (set, env) := (congrArg ShellResetter.files hkept :).trans hfiles
  obtain ⟨hprepared, hready⟩ := htaken
  obtain ⟨hd, hsettled⟩ := hready d rfl
  have hran := d.runPhase_spec hanswers hd hsettled hscript r₁.phaseTimeout cancelled
  dsimp only
  rcases hphase : d.runPhase host phase script r₁.phaseTimeout cancelled s₁ with ⟨result, d', s₂⟩
  rw [hphase] at hran
  have hattempts := Attempts.after hprepared.keeps hran.attempts
  split
  · next halive =>
    refine ⟨hattempts, hprepared.held.markers, fun d hd => ?_, fun hnone => ?_⟩
    · cases hd
      exact ⟨hran.markers, hran.settled (Bool.and_eq_true_iff.1 halive).1⟩
    · rw [show r₁.files = none from hnone] at hfiles₁
      cases hfiles₁
  · -- a dispatcher that cannot be used again is given up
    have hdropped := dropDispatcher_idle hanswers
      { (r₁.collect (d'.checkAlive host s₂)).1 with dispatcher := some (r₁.collect (d'.checkAlive host s₂)).2 } s₂
    exact ⟨hattempts.before hdropped.keeps, hdropped.held hprepared.held.markers _⟩

theorem runPhase_made (hanswers : Answers host m ledger) (hheld : Held m (ledger s) r) (phase : Phase)
    (env : EnvSnapshot) (cancelled : Bool) :
    let ran := r.runPhase host phase env cancelled s
    Made m ledger s [(phase, ran.1)] ran.2.1 ran.2.2 := by
  have hprepared := ensureFiles_prepared hanswers hheld env
  unfold runPhase
  split
  · exact ⟨attempts_unasked (.refl _) rfl, hheld⟩
  split
  · next h =>
    rw [h] at hprepared
    exact hprepared.made phase
  next r₁ s₁ h =>
  rw [h] at hprepared
  split
  · exact ⟨attempts_unasked hprepared.keeps rfl, hprepared.held⟩
  · next set _ hfiles =>
    obtain ⟨hattempts, hheld⟩ := runOn_made hanswers hprepared.held hfiles phase cancelled
    exact ⟨.after hprepared.keeps hattempts, hheld⟩

/-- What a success notes has no part in it. -/
theorem Held.succeeded {l : Ledger} (h : Held m l r) (attempted : List PhaseAttempt) (phase : Phase) :
    Held m l ({ r with attempted }.succeeded phase) := by
  cases phase <;> exact ⟨h.markers, h.dispatcher, h.files⟩

/-- A part of a request made some attempts and recorded them. -/
structure Recorded (m : ControlMarkers) (ledger : ω → Ledger) (r : ShellResetter) (s : ω) (r' : ShellResetter)
    (s' : ω) : Prop where
  record : ∃ attempts, r'.attempted = r.attempted ++ attempts ∧ Attempts m (ledger s) attempts (ledger s')
  held : Held m (ledger s') r'

theorem recorded_nothing (hheld : Held m (ledger s) r) : Recorded m ledger r s r s :=
  ⟨⟨[], (List.append_nil _).symm, attempts_of_keeps (.refl _)⟩, hheld⟩

theorem runPhases_recorded (hanswers : Answers host m ledger) (hheld : Held m (ledger s) r) (env : EnvSnapshot)
    (cancelled : Bool) (phases : List Phase) :
    let ran := runPhases host env cancelled phases r s
    Recorded m ledger r s ran.2.1 ran.2.2 := by
  induction phases generalizing r s with
  | nil => exact recorded_nothing hheld
  | cons phase rest ih =>
    have hphase := runPhase_made hanswers hheld phase env cancelled
    have hcourse := course_runPhase host r s phase env cancelled
    rw [runPhases]
    rcases hran : r.runPhase host phase env cancelled s with ⟨result, r₁, s₁⟩
    rw [hran] at hphase hcourse
    obtain ⟨hattempts, hheld₁⟩ := hphase
    have hattempted : r₁.attempted = r.attempted := (congrArg (fun c => c.2.2.2) hcourse :)
    have hsucceeded := hheld₁.succeeded (r₁.attempted ++ [(phase, result)]) phase
    dsimp only
    cases result with
    | error e => exact ⟨⟨_, by rw [hattempted], hattempts⟩, hheld₁.markers, hheld₁.dispatcher, hheld₁.files⟩
    | ok u =>
      obtain ⟨⟨more, hmore, hrest⟩, hheld₂⟩ := ih hsucceeded
      refine ⟨⟨(phase, .ok u) :: more, ?_, hattempts.trans hrest⟩, hheld₂⟩
      rw [hmore]
      cases phase <;> simp [succeeded, hattempted]

theorem stopIfStarted_recorded (hanswers : Answers host m ledger) (hheld : Held m (ledger s) r) (cancelled : Bool) :
    let stopped := r.stopIfStarted host cancelled s
    Recorded m ledger r s stopped.2.1 stopped.2.2 := by
  unfold stopIfStarted
  split
  · split
    · exact runPhases_recorded hanswers hheld _ cancelled [.stop]
    · exact recorded_nothing hheld
  · exact recorded_nothing hheld

theorem shutdown_idle (hanswers : Answers host m ledger) (hheld : Held m (ledger s) r) :
    Idle ledger r s (r.shutdown host s).2.1 (r.shutdown host s).2.2 := by
  unfold shutdown
  split
  · next hnone => exact ⟨.refl _, rfl, hnone⟩
  · next d hd =>
    obtain ⟨hmarkers, -⟩ := hheld.dispatcher d hd
    have hexit : Keeps (ledger s) (ledger (if d.alive then (host.write d.markers.exitLine s).2 else s)) := by
      split
      · exact hmarkers ▸ hanswers.exit s
      · exact .refl _
    exact ⟨((hexit.trans (hanswers.reap _)).trans (hanswers.arrived _).keeps).trans (hanswers.drop _), rfl, rfl⟩

theorem reset_recorded (hanswers : Answers host m ledger) (hheld : Held m (ledger s) r) (env : EnvSnapshot)
    (cancelled : Bool) :
    let done := r.reset host env cancelled s
    Recorded m ledger r s done.2.1 done.2.2 := by
  unfold reset
  split
  · exact recorded_nothing hheld
  · next plan _ =>
    have hran := runPhases_recorded hanswers hheld env cancelled plan
    split
    · next h =>
      rw [h] at hran
      exact hran
    · next h =>
      rw [h] at hran
      exact ⟨hran.record, hran.held.markers, hran.held.dispatcher, hran.held.files⟩

theorem terminate_recorded (hanswers : Answers host m ledger) (hheld : Held m (ledger s) r) (cancelled : Bool) :
    let done := r.terminate host cancelled s
    Recorded m ledger r s done.2.1 done.2.2 := by
  have hstopped := stopIfStarted_recorded hanswers hheld cancelled
  unfold terminate
  rcases hstop : r.stopIfStarted host cancelled s with ⟨stopped, r₁, s₁⟩
  rw [hstop] at hstopped
  obtain ⟨⟨attempts, hrecord, hattempts⟩, hheld₁⟩ := hstopped
  have hdown := shutdown_idle hanswers hheld₁
  have hcourse := course_shutdown host r₁ s₁
  dsimp only at hdown hcourse ⊢
  rcases hshutdown : r₁.shutdown host s₁ with ⟨down, r₂, s₂⟩
  rw [hshutdown] at hdown hcourse
  have hremoved := removeFiles_idle hanswers hdown.dispatcher s₂
  have hattempted : (r₂.removeFiles host s₂).1.attempted = r₁.attempted :=
    (congrArg (fun c => c.2.2.2) ((course_removeFiles host r₂ s₂).trans hcourse) :)
  refine ⟨⟨attempts, hattempted.trans hrecord, hattempts.before (hdown.keeps.trans hremoved.keeps)⟩,
    held_of_none ?_ ?_ _⟩
  · exact (hremoved.markers.trans hdown.markers).trans hheld₁.markers
  · exact hremoved.dispatcher

theorem serve_recorded (hanswers : Answers host m ledger) (request : LifecycleRequest ω)
    (hheld : Held m (ledger request.found) r) :
    let served := r.serve host request
    Recorded m ledger r request.found served.2.1 served.2.2 := by
  cases request with
  | start env cancelled s => exact runPhases_recorded hanswers hheld env cancelled [.start]
  | stop env cancelled s => exact runPhases_recorded hanswers hheld env cancelled [.stop]
  | reset env cancelled s => exact reset_recorded hanswers hheld env cancelled
  | terminate cancelled s => exact terminate_recorded hanswers hheld cancelled

end

/-! ## Histories -/

section
variable {ω : Type} (host : ShellHost ω)

/-- The host that a history of requests, the latest first, leaves behind. -/
def leaves (r : ShellResetter) (s : ω) : List (LifecycleRequest ω) → ω
  | [] => s
  | request :: earlier => ((r.served host earlier).serve host request).2.2

/-- Each request of a history finds the host that the earlier ones left, where the shell may have gone on. -/
def Connected (m : ControlMarkers) (ledger : ω → Ledger) (r : ShellResetter) (s : ω) :
    List (LifecycleRequest ω) → Prop
  | [] => True
  | request :: earlier =>
    Goes m (ledger (r.leaves host s earlier)) [] (ledger request.found) ∧ Connected m ledger r s earlier

variable {host} {m : ControlMarkers} {ledger : ω → Ledger} {r : ShellResetter} {s : ω}

theorem Held.goes {l l' : Ledger} {lines : List (OutputStream × String)} (h : Held m l r) (hgoes : Goes m l lines l') :
    Held m l' r :=
  ⟨h.markers, fun d hd => ⟨(h.dispatcher d hd).1, (h.dispatcher d hd).2.goes hgoes⟩, h.files⟩

theorem served_recorded (hanswers : Answers host m ledger) (hheld : Held m (ledger s) r)
    {history : List (LifecycleRequest ω)} (hconnected : r.Connected host m ledger s history) :
    Recorded m ledger r s (r.served host history) (r.leaves host s history) := by
  induction history with
  | nil => exact recorded_nothing hheld
  | cons request earlier ih =>
    obtain ⟨hgoes, hearlier⟩ := hconnected
    obtain ⟨⟨attempts, hrecord, hattempts⟩, hheld₁⟩ := ih hearlier
    obtain ⟨⟨more, hmore, hlatest⟩, hheld₂⟩ := serve_recorded hanswers request (hheld₁.goes hgoes)
    refine ⟨⟨attempts ++ more, ?_, hattempts.trans (.after hgoes.keeps hlatest)⟩, hheld₂⟩
    rw [served, hmore, hrecord, List.append_assoc]

/-- **No phase ends with an exit code that answers another.** The shells of the host answer what they read, and the
history is any sequence of requests, in which shells crash, writes fail, answers come late or never and phases are
cancelled or take too long. A phase succeeds only when its own line was answered with zero, and fails with a code
only when its own line was answered with that code. -/
theorem phases_answered {scripts : LifecycleScripts} {phaseTimeout : Nat} {s₀ : ω}
    (hanswers : Answers host (build host scripts phaseTimeout s₀).1.markers ledger)
    {history : List (LifecycleRequest ω)} :
    let new := (build host scripts phaseTimeout s₀).1
    let s := (build host scripts phaseTimeout s₀).2
    new.Connected host new.markers ledger s history →
      Attempts new.markers (ledger s) (new.served host history).attempted (ledger (new.leaves host s history)) := by
  intro new s hconnected
  obtain ⟨⟨attempts, hrecord, hattempts⟩, -⟩ :=
    served_recorded hanswers (held_of_none (r := new) rfl rfl _) hconnected
  rw [hrecord]
  exact hattempts

end

/-! ## An answer that comes too late -/

/-- The markers of a host that has only these. -/
def tardyMarkers : ControlMarkers := ⟨"n"⟩

/-- The shell answers the first line that it has to answer. -/
def answered (code : UInt8) (l : Ledger) : Ledger :=
  match l.unanswered with
  | [] => l
  | k :: rest => { l with told := l.told ++ [⟨k, code⟩], unanswered := rest, inFlight := l.inFlight ++ [⟨k, code⟩] }

/-- The client receives what is in flight. -/
def received (l : Ledger) : List (OutputStream × String) × Ledger :=
  (l.inFlight.map fun a => (.standard, String.ofList (tardyMarkers.answerText a.code)), { l with inFlight := [] })

/-- The shell is gone, and what it was about to say with it. -/
def silenced (l : Ledger) : Ledger := { l with unanswered := [], inFlight := [] }

/-- A host on which the first phase takes too long: its script ends with code 3, which is printed but not read in
time. All other phases succeed. -/
def tardyHost : ShellHost Ledger where
  clock _ := 0
  passUntil _ l := l
  freshNonce l := (tardyMarkers.nonce, l)
  makeDirectory l := (.ok "/d", l)
  store _ l := (.ok (), l)
  removeDirectory _ l := l
  spawn _ l := (.ok (), silenced l)
  isRunning _ := true
  write line l := (.ok (), if tardyMarkers.exec.toList.isPrefixOf line.toList then l.ask line else l)
  watch _ _ l :=
    let late := l.asked.length == 1
    let l := answered (if late then 3 else 0) l
    .wake { expired := late } l fun _ =>
      .wake { arrived := (received l).1 } (received l).2 fun _ => .over (received l).2
  linger l := .over l
  arrived l := received l
  kill l := l
  reap l := (.ok (), l)
  drop l := silenced l

theorem goes_answered (code : UInt8) (l : Ledger) : Goes tardyMarkers l [] (answered code l) := by
  unfold answered
  cases hunanswered : l.unanswered with
  | nil => exact .refl _ l
  | cons k rest => exact ⟨[⟨k, code⟩], [], rfl, rfl, hunanswered, rfl, .nil⟩

theorem goes_received (l : Ledger) : Goes tardyMarkers l (received l).1 (received l).2 := by
  refine ⟨[], l.inFlight, rfl, (List.append_nil _).symm, rfl, rfl, ?_⟩
  unfold received
  induction l.inFlight with
  | nil => exact .nil
  | cons a rest ih => exact .answer ih

theorem keeps_silenced (l : Ledger) : Keeps l (silenced l) := ⟨rfl, List.prefix_refl _⟩

theorem tardyHost_answers : Answers tardyHost tardyMarkers id where
  makeDirectory l := .refl l
  store _ l := .refl l
  removeDirectory _ l := .refl l
  spawn _ l := ⟨keeps_silenced l, fun _ => ⟨rfl, rfl⟩⟩
  ask path l _ := by
    have hexec : tardyMarkers.exec.toList.isPrefixOf (tardyMarkers.execLine path).toList = true := by
      simp [ControlMarkers.execLine]
    simp only [tardyHost, hexec, if_true, id]
    exact .refl _ _
  askFailed path l reason h := by cases h
  exit l := .refl l
  watch _ _ l := ⟨goes_answered _ l, goes_received _, .refl _ _⟩
  linger l := .refl _ l
  arrived l := goes_received l
  kill l := .refl l
  reap l := .refl l
  drop l := keeps_silenced l

/-- The system under test is started, and started again when that took too long; the latest request first. -/
def startedTwice : List (LifecycleRequest Ledger) :=
  let new := (build tardyHost wholeScripts 1000 {}).1
  let first := .start .empty false {}
  [.start .empty false (new.leaves tardyHost {} [first]), first]

/-- The code that was printed too late is nobody's, and the second start ends with its own. -/
theorem late_code_unclaimed :
    let new := (build tardyHost wholeScripts 1000 {}).1
    let l := new.leaves tardyHost {} startedTwice
    new.Connected tardyHost tardyMarkers id {} startedTwice ∧
      (new.served tardyHost startedTwice).attempted.map (fun attempt => toldCode attempt.2) = [none, some 0] ∧
      l.told = [⟨0, 3⟩, ⟨1, 0⟩] ∧
      Attempts tardyMarkers {} (new.served tardyHost startedTwice).attempted l := by
  have hconnected : (build tardyHost wholeScripts 1000 {}).1.Connected tardyHost tardyMarkers id {} startedTwice :=
    ⟨.refl _ _, .refl _ _, trivial⟩
  exact ⟨hconnected, by decide +kernel, by decide +kernel, phases_answered tardyHost_answers hconnected⟩

end ShellResetter

end FuzzCampaign
