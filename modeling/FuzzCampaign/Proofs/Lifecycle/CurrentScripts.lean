import FuzzCampaign.Proofs.Lifecycle.ScriptUse
set_option autoImplicit false

/-! # Shells run the scripts that are held

Files, their environment and the shell are replaced at different moments, each of which can fail. All the same a shell
that is held was started from the files that are held (`Current`), and a request asks it for nothing but scripts of
these files, rendered from the environment of the request (`Serves`). `shells_run_held_scripts` says so for every
history of requests. -/

namespace FuzzCampaign

open HostEvent (Quiet)

theorem ScriptSet.render_dir {dir : String} {scripts : LifecycleScripts} {env : EnvSnapshot} {m : ControlMarkers}
    {set : ScriptSet} (h : render dir scripts env m = .ok set) : set.dir = dir := by
  unfold render at h
  dsimp only at h
  split at h
  · cases h
  · cases h
    rfl

/-- The environment that a request runs phases in: its own, and for a termination the one of the files. -/
def LifecycleRequest.runsIn {ω : Type} (r : ShellResetter) : LifecycleRequest ω → EnvSnapshot
  | .start env _ _ | .reset env _ _ | .stop env _ _ => env
  | .terminate .. => (r.files.map Prod.snd).getD .empty

/-- The files that a request runs scripts of, when it finds the resetter `r` and leaves `r'`: those that are held then,
which a termination removes in the end. -/
def LifecycleRequest.worksWith {ω : Type} (r r' : ShellResetter) :
    LifecycleRequest ω → Option (ScriptSet × EnvSnapshot)
  | .terminate .. => r.files
  | .start .. | .reset .. | .stop .. => r'.files

namespace ShellResetter

/-! ## A resetter and the log of its host -/

/-- The script set from which the shell that is held was started. -/
def attached (r : ShellResetter) : Option ScriptSet := r.dispatcher.map Dispatcher.scripts

theorem attached_of_none {r : ShellResetter} (h : r.dispatcher = none) : r.attached = none := by
  rw [attached, h, Option.map_none]

/-- A resetter with these markers and the log of its host. A shell that is held was started from the files that are
held; these were rendered from their environment, and they are there. -/
structure Current (m : ControlMarkers) (r : ShellResetter) (log : List HostEvent) : Prop where
  markers : r.markers = m
  dispatcher : ∀ d, r.dispatcher = some d → d.markers = m ∧ ∃ env, r.files = some (d.scripts, env)
  rendered : ∀ set env, r.files = some (set, env) → ScriptSet.render set.dir r.scripts env m = .ok set
  orderly : Orderly m none log r.attached
  deployed : Deployed r.files log

/-- What a part of a request does: it makes these attempts with these files, and leaves the resetter as it should
be. -/
structure Ran (m : ControlMarkers) (files : Option (ScriptSet × EnvSnapshot)) (env : EnvSnapshot)
    (log : List HostEvent) (attempts : List PhaseAttempt) (exits : List String) (r' : ShellResetter)
    (log' : List HostEvent) : Prop where
  current : Current m r' log'
  events : ∃ events, log' = log ++ events ∧ Works m files env attempts exits events

/-- What a part of a request does that has no shell do anything. -/
structure Settled (m : ControlMarkers) (log : List HostEvent) (r' : ShellResetter) (log' : List HostEvent) : Prop where
  current : Current m r' log'
  events : ∃ events, log' = log ++ events ∧ Quiet events

section
variable {m : ControlMarkers} {files files' : Option (ScriptSet × EnvSnapshot)} {env : EnvSnapshot}
  {attempts more : List PhaseAttempt} {exits : List String} {r r' : ShellResetter} {log log' log'' : List HostEvent}

theorem settled_refl (h : Current m r log) : Settled m log r log :=
  ⟨h, [], (List.append_nil log).symm, by simp [Quiet]⟩

theorem Settled.ran (h : Settled m log r' log') : Ran m files env log [] [] r' log' := by
  obtain ⟨events, hlog, hquiet⟩ := h.events
  exact ⟨h.current, events, hlog, works_quiet hquiet⟩

theorem Settled.trans {s : ShellResetter} (h : Settled m log s log') (h' : Settled m log' r' log'') :
    Settled m log r' log'' := by
  obtain ⟨events, rfl, hquiet⟩ := h.events
  obtain ⟨later, rfl, hlater⟩ := h'.events
  refine ⟨h'.current, events ++ later, List.append_assoc _ _ _, fun e he => ?_⟩
  exact (List.mem_append.1 he).elim (hquiet e) (hlater e)

theorem Ran.mono (h : Ran m files env log attempts exits r' log')
    (hfiles : ∀ set, files = some (set, env) → files' = some (set, env)) :
    Ran m files' env log attempts exits r' log' := by
  obtain ⟨events, hlog, hworks⟩ := h.events
  exact ⟨h.current, events, hlog, hworks.mono hfiles⟩

theorem Ran.trans {s : ShellResetter} (h : Ran m files env log attempts [] s log')
    (h' : Ran m files env log' more exits r' log'') : Ran m files env log (attempts ++ more) exits r' log'' := by
  obtain ⟨events, rfl, hworks⟩ := h.events
  obtain ⟨later, rfl, hlater⟩ := h'.events
  exact ⟨h'.current, events ++ later, List.append_assoc _ _ _, hworks.append hlater⟩

theorem Ran.after {s : ShellResetter} (h : Settled m log s log') (h' : Ran m files env log' attempts exits r' log'') :
    Ran m files env log attempts exits r' log'' := h.ran.trans h'

/-- A phase that fails before anything is asked for it. -/
theorem Settled.failed (h : Settled m log r' log') (phase : Phase) (e : CampaignError) :
    Ran m files env log [(phase, .error e)] [] r' log' :=
  .after h ⟨h.current, [], (List.append_nil log').symm, works_failed phase e⟩

theorem Ran.before {s : ShellResetter} (h : Ran m files env log attempts exits s log')
    (h' : Settled m log' r' log'') : Ran m files env log attempts exits r' log'' := by
  obtain ⟨events, rfl, hworks⟩ := h.events
  obtain ⟨later, rfl, hlater⟩ := h'.events
  exact ⟨h'.current, events ++ later, List.append_assoc _ _ _, hworks.before hlater⟩

/-- Where only the dispatcher changed and all files were left alone. -/
theorem Current.of_apart {events : List HostEvent} (h : Current m r log) (hapart : r'.apart = r.apart)
    (hdispatcher : ∀ d, r'.dispatcher = some d → d.markers = m ∧ ∃ env, r.files = some (d.scripts, env))
    (hlog : log' = log ++ events) (horderly : Orderly m r.attached events r'.attached)
    (hshell : ∀ e ∈ events, e.onFiles = false) : Current m r' log' := by
  have hmarkers : r'.markers = r.markers := (congrArg ShellResetter.markers hapart :)
  have hfiles : r'.files = r.files := (congrArg ShellResetter.files hapart :)
  have hscripts : r'.scripts = r.scripts := (congrArg ShellResetter.scripts hapart :)
  refine ⟨hmarkers.trans h.markers, ?_, ?_, ?_, ?_⟩
  · rwa [hfiles]
  · rw [hfiles, hscripts]
    exact h.rendered
  · rw [hlog]
    exact h.orderly.trans horderly
  · rw [hfiles, hlog]
    exact h.deployed.append hshell

/-- What the events of a shell make of a resetter that finds its files and keeps them. -/
theorem Current.ran_of_use {events : List HostEvent} (h : Current m r log) (hapart : r'.apart = r.apart)
    (hdispatcher : ∀ d, r'.dispatcher = some d → d.markers = m ∧ ∃ env, r.files = some (d.scripts, env))
    (hlog : log' = log ++ events) (huse : ShellUse m files env r.attached attempts exits events r'.attached) :
    Ran m files env log attempts exits r' log' :=
  ⟨h.of_apart hapart hdispatcher hlog huse.orderly huse.shell, events, hlog, huse.works⟩

end

/-! ## Files and shells -/

section
variable {ω : Type} (host : ShellHost ω) {m : ControlMarkers} {r : ShellResetter} {s : ω × List HostEvent}
  {env : EnvSnapshot}

theorem dropDispatcher_dispatcher (r : ShellResetter) (s : ω) : (r.dropDispatcher host s).1.dispatcher = none := by
  unfold dropDispatcher
  split
  · next hnone => exact hnone
  · rfl

theorem dropDispatcher_log (r : ShellResetter) (s : ω × List HostEvent) :
    (r.dropDispatcher host.logging s).2.2 = s.2 ++ (r.dispatcher.map fun _ => .dropped).toList := by
  unfold dropDispatcher
  cases hheld : r.dispatcher with
  | none => exact (List.append_nil s.2).symm
  | some d =>
    simp only [listen, hheld]
    rfl

theorem dropDispatcher_settled (h : Current m r s.2) :
    let dropped := r.dropDispatcher host.logging s
    Settled m s.2 dropped.1 dropped.2.2 := by
  intro dropped
  have hlog : dropped.2.2 = _ := dropDispatcher_log host r s
  have hnone : dropped.1.attached = none := attached_of_none (dropDispatcher_dispatcher host.logging r s)
  have horderly : Orderly m r.attached (r.dispatcher.map fun _ => .dropped).toList none := by
    rw [attached]
    cases r.dispatcher with
    | none => exact .nil
    | some d => exact .dropped .nil
  refine ⟨h.of_apart (apart_dropDispatcher host.logging r s) ?_ hlog (hnone ▸ horderly) ?_, _, hlog, ?_⟩
  · rw [dropDispatcher_dispatcher]
    exact nofun
  · simp [HostEvent.onFiles]
  · simp [Quiet, HostEvent.line?]

/-- What is noted while a script set is written. -/
theorem materialize_log (r : ShellResetter) (env : EnvSnapshot) (s : ω × List HostEvent) :
    match (r.materialize host.logging env s).1 with
    | .error _ => (r.materialize host.logging env s).2.2 = s.2 ∨
        ∃ dir, (r.materialize host.logging env s).2.2 = s.2 ++ [.made dir, .removed dir]
    | .ok set => ScriptSet.render set.dir r.scripts env r.markers = .ok set ∧
        (r.materialize host.logging env s).2.2 = s.2 ++ [.made set.dir, .stored set] := by
  unfold materialize
  dsimp only [ShellHost.logging]
  rcases host.makeDirectory s.1 with ⟨e | dir, s₁⟩
  · exact Or.inl (List.append_nil s.2)
  dsimp only
  cases hrender : ScriptSet.render dir r.scripts env r.markers with
  | error e => exact Or.inr ⟨dir, List.append_assoc _ _ _⟩
  | ok set =>
    obtain rfl : set.dir = dir := ScriptSet.render_dir hrender
    dsimp only
    rcases host.store set s₁ with ⟨e | u, s₂⟩
    · refine Or.inr ⟨set.dir, ?_⟩
      simp [HostEvent.ofResult]
    · exact ⟨hrender, List.append_assoc _ _ _⟩

theorem removeFiles_log (r : ShellResetter) (s : ω × List HostEvent) :
    (r.removeFiles host.logging s).2.2 = s.2 ++ removals r.files := by
  unfold removeFiles
  cases r.files with
  | none => exact (List.append_nil s.2).symm
  | some held => rfl

theorem removeFiles_dispatcher (r : ShellResetter) (s : ω) :
    (r.removeFiles host s).1.dispatcher = r.dispatcher := by
  unfold removeFiles
  split <;> rfl

/-- Where no shell is held and the host only did something with files. -/
theorem Current.settled_of_none {events log' : List HostEvent} (h : Current m r s.2) (hnone : r.dispatcher = none)
    (hlog : log' = s.2 ++ events) (horderly : Orderly m none events none) (hquiet : Quiet events)
    (hdeployed : Deployed r.files log') : Settled m s.2 r log' := by
  have hattached := attached_of_none hnone
  refine ⟨⟨h.markers, h.dispatcher, h.rendered, ?_, hdeployed⟩, events, hlog, hquiet⟩
  rw [hlog, hattached]
  exact (hattached ▸ h.orderly).trans horderly

theorem materialize_discarded {e : CampaignError} {s' : ω × List HostEvent} (h : Current m r s.2)
    (hnone : r.dispatcher = none) (hfailed : r.materialize host.logging env s = (.error e, s')) :
    Settled m s.2 r s'.2 := by
  have hlog := materialize_log host r env s
  rw [hfailed] at hlog
  rcases hlog with hlog | ⟨dir, hlog⟩
  · have hsame : s'.2 = s.2 ++ [] := hlog.trans (List.append_nil s.2).symm
    exact h.settled_of_none hnone hsame .nil (by simp [Quiet]) (hlog ▸ h.deployed)
  · refine h.settled_of_none hnone hlog (.made (.removed .nil)) (by simp [Quiet, HostEvent.line?]) ?_
    rw [hlog]
    exact h.deployed.discarded dir

theorem materialize_replaced {set : ScriptSet} {s' : ω × List HostEvent} (h : Current m r s.2)
    (hnone : r.dispatcher = none) (hwritten : r.materialize host.logging env s = (.ok set, s')) :
    let removed := r.removeFiles host.logging s'
    Settled m s.2 { removed.1 with files := some (set, env) } removed.2.2 := by
  intro removed
  have hlog := materialize_log host r env s
  rw [hwritten] at hlog
  obtain ⟨hrender, hlog⟩ := hlog
  have hremoved : removed.2.2 = s.2 ++ [.made set.dir, .stored set] ++ removals r.files := by
    rw [← hlog]
    exact removeFiles_log host r s'
  have hapart : removed.1.apart = { r.apart with files := none } := apart_removeFiles host.logging r s'
  have hmarkers : removed.1.markers = r.markers := (congrArg ShellResetter.markers hapart :)
  have hscripts : removed.1.scripts = r.scripts := (congrArg ShellResetter.scripts hapart :)
  have hgone : removed.1.dispatcher = none := (removeFiles_dispatcher host.logging r s').trans hnone
  have hattached := attached_of_none hnone
  refine ⟨⟨hmarkers.trans h.markers, fun d hd => ?_, ?_, ?_, ?_⟩, _, hremoved.trans (List.append_assoc _ _ _), ?_⟩
  · rw [show removed.1.dispatcher = some d from hd] at hgone
    cases hgone
  · rintro _ _ ⟨⟩
    dsimp only
    rw [hscripts, ← h.markers]
    exact hrender
  · have hbefore := h.orderly
    have hafter : ({ removed.1 with files := some (set, env) } : ShellResetter).attached = none :=
      attached_of_none hgone
    rw [hattached] at hbefore
    rw [hremoved, hafter, List.append_assoc]
    exact hbefore.trans (.made (.stored orderly_removals))
  · rw [hremoved]
    exact h.deployed.replaced set env
  · intro e he
    rcases List.mem_append.1 he with he | he
    · simp only [List.mem_cons, List.not_mem_nil, or_false] at he
      rcases he with rfl | rfl <;> exact ⟨rfl, nofun⟩
    · exact quiet_removals e he

theorem renewFiles_settled (h : Current m r s.2) (hnone : r.dispatcher = none) (env : EnvSnapshot) :
    let renewed := r.renewFiles host.logging env s
    Settled m s.2 renewed.2.1 renewed.2.2.2 := by
  unfold renewFiles
  split
  · next hfailed => exact materialize_discarded host h hnone hfailed
  · next hwritten => exact materialize_replaced host h hnone hwritten

/-- Without files there is no shell either. -/
theorem Current.dispatcher_none {log : List HostEvent} (h : Current m r log) (hnone : r.files = none) :
    r.dispatcher = none := by
  refine Option.eq_none_iff_forall_ne_some.2 fun d hd => ?_
  obtain ⟨-, env, hfiles⟩ := h.dispatcher d hd
  rw [hnone] at hfiles
  cases hfiles

theorem ensureFiles_settled (h : Current m r s.2) (env : EnvSnapshot) :
    let ensured := r.ensureFiles host.logging env s
    Settled m s.2 ensured.2.1 ensured.2.2.2 := by
  unfold ensureFiles
  split
  · next hnone => exact renewFiles_settled host h (h.dispatcher_none hnone) env
  · split
    · exact settled_refl h
    · have hdropped := dropDispatcher_settled host h
      have hnone := dropDispatcher_dispatcher host.logging r s
      exact hdropped.trans (renewFiles_settled host hdropped.current hnone env)

theorem renewFiles_files (r : ShellResetter) (env : EnvSnapshot) (s : ω) (e : CampaignError)
    (hfailed : (r.renewFiles host env s).1 = .error e) : (r.renewFiles host env s).2.1.files = r.files := by
  revert hfailed
  unfold renewFiles
  split
  · exact fun _ => rfl
  · exact nofun

/-- Files are kept when they cannot be replaced, and when they are those of the environment. -/
theorem ensureFiles_files (r : ShellResetter) (env : EnvSnapshot) (s : ω) :
    (∀ e, (r.ensureFiles host env s).1 = .error e → (r.ensureFiles host env s).2.1.files = r.files) ∧
      ∀ set, r.files = some (set, env) → (r.ensureFiles host env s).2.1.files = r.files := by
  unfold ensureFiles
  split
  · next hnone => exact ⟨renewFiles_files host r env s, fun set hheld => by rw [hnone] at hheld; cases hheld⟩
  · next current hfiles =>
    split
    · exact ⟨fun _ _ => rfl, fun _ _ => rfl⟩
    · next hother =>
      have hkept : (r.dropDispatcher host s).1.files = r.files :=
        (congrArg ShellResetter.files (apart_dropDispatcher host r s) :)
      refine ⟨fun e hfailed => (renewFiles_files host _ env _ e hfailed).trans hkept, fun set hheld => ?_⟩
      rw [hfiles] at hheld
      cases hheld
      exact absurd rfl hother

/-! ## One phase -/

/-- What is noted while a dispatcher runs a phase: that its line was to be written, or nothing, and then the phase
failed. -/
theorem dispatcher_runPhase_log (d : Dispatcher) (phase : Phase) (script : String) (timeout : Nat) (cancelled : Bool)
    (s : ω × List HostEvent) :
    let ran := d.runPhase host.logging phase script timeout cancelled s
    ran.2.1.scripts = d.scripts ∧ ran.2.1.markers = d.markers ∧
      ((ran.2.2.2 = s.2 ∧ ∃ e, ran.1 = .error e) ∨ ran.2.2.2 = s.2 ++ [.wrote (d.markers.execLine script)]) := by
  unfold Dispatcher.runPhase Dispatcher.listen
  dsimp only [ShellHost.logging, Dispatcher.checkAlive]
  split
  · exact ⟨rfl, rfl, Or.inl ⟨rfl, _, rfl⟩⟩
  rcases host.write (d.markers.execLine script) (host.arrived s.1).2 with ⟨e | u, s₁⟩
  · exact ⟨rfl, rfl, Or.inr rfl⟩
  dsimp only
  rw [Dispatcher.await_map]
  rcases Dispatcher.await d.markers (host.watch timeout cancelled s₁) _ with ⟨ending, output, s₂⟩
  cases ending with
  | exitCode code => exact ⟨rfl, rfl, Or.inr rfl⟩
  | cancelled | expired => exact ⟨rfl, rfl, Or.inr rfl⟩
  | exited =>
    simp only [Prod.map_apply, id, Dispatcher.awaitLate_map]
    rcases Dispatcher.awaitLate d.markers (host.linger s₂) output with ⟨_ | code, output', s₃⟩
    · exact ⟨rfl, rfl, Or.inr rfl⟩
    · exact ⟨rfl, rfl, Or.inr rfl⟩

/-- A phase that a dispatcher for the files runs is asked for, or it fails. -/
theorem dispatcher_runPhase_use {files : Option (ScriptSet × EnvSnapshot)} {d : Dispatcher} {phase : Phase}
    {script : String} (hmarkers : d.markers = m) (hpath : d.scripts.phasePath? phase = some script)
    (hfiles : files = some (d.scripts, env)) (timeout : Nat) (cancelled : Bool) (s : ω × List HostEvent) :
    let ran := d.runPhase host.logging phase script timeout cancelled s
    ran.2.1.scripts = d.scripts ∧ ran.2.1.markers = d.markers ∧ ∃ events, ran.2.2.2 = s.2 ++ events ∧
      ShellUse m files env (some d.scripts) [(phase, ran.1)] [] events (some d.scripts) := by
  intro ran
  obtain ⟨hscripts, hkept, ⟨hsame, e, hfailed⟩ | hwrote⟩ :=
    dispatcher_runPhase_log host d phase script timeout cancelled s
  · refine ⟨hscripts, hkept, [], hsame.trans (List.append_nil _).symm, ?_⟩
    rw [show ran.1 = .error e from hfailed]
    exact shellUse_failed phase e
  · rw [hmarkers] at hwrote
    exact ⟨hscripts, hkept, _, hwrote, shellUse_asked hfiles hpath ran.1⟩

/-- A dispatcher for a script set was taken, or there is none. -/
structure Readied (m : ControlMarkers) (set : ScriptSet) (r : ShellResetter) (log : List HostEvent)
    (taken : Except CampaignError Dispatcher × ShellResetter × ω × List HostEvent) : Prop where
  apart : taken.2.1.apart = r.apart
  dispatcher : taken.2.1.dispatcher = none
  ready : ∀ d, taken.1 = .ok d → d.markers = m ∧ d.scripts = set
  events : ∃ events, taken.2.2.2 = log ++ events ∧
    Orderly m r.attached events (taken.1.toOption.map Dispatcher.scripts) ∧
    ∀ e ∈ events, e = .dropped ∨ e = .spawned set

/-- What is noted when a dispatcher is started. -/
theorem spawn_log (set : ScriptSet) (m : ControlMarkers) (s : ω × List HostEvent) :
    let spawned := Dispatcher.spawn host.logging set m s
    (∀ e, spawned.1 = .error e → spawned.2.2 = s.2) ∧
      ∀ d, spawned.1 = .ok d → d = { scripts := set, markers := m } ∧ spawned.2.2 = s.2 ++ [.spawned set] := by
  unfold Dispatcher.spawn
  dsimp only [ShellHost.logging]
  rcases host.spawn set s.1 with ⟨e | u, s'⟩
  · exact ⟨fun _ _ => List.append_nil s.2, nofun⟩
  · exact ⟨nofun, fun d h => by cases h; exact ⟨rfl, rfl⟩⟩

theorem listen_log (r : ShellResetter) (s : ω × List HostEvent) : (r.listen host.logging s).2.2 = s.2 := by
  unfold listen
  split <;> rfl

/-- The script set of the shell is the same. -/
theorem attached_listen (r : ShellResetter) (s : ω) : (r.listen host s).1.attached = r.attached := by
  unfold listen
  split
  · rfl
  · next d hheld =>
    rw [attached, attached, hheld]
    rfl

/-- A shell that is gone gives way to a new one, or is given up when there can be none. -/
theorem respawn_readied (hmarkers : r.markers = m) {set : ScriptSet} (hattached : r.attached = some set) :
    Readied m set r s.2 (r.respawn host.logging set s) := by
  have hapart := apart_listen host.logging r s
  have hlistened := listen_log host r s
  have hstill := attached_listen host.logging r s
  unfold respawn
  rcases hlisten : r.listen host.logging s with ⟨r₁, s₁⟩
  rw [hlisten] at hapart hlistened hstill
  dsimp only at hapart hlistened hstill ⊢
  obtain ⟨hfailed, hstarted⟩ := spawn_log host set r₁.markers s₁
  rcases hspawn : Dispatcher.spawn host.logging set r₁.markers s₁ with ⟨e | d, s₂⟩ <;> rw [hspawn] at hfailed hstarted
  · have hdropped := dropDispatcher_log host r₁ s₂
    obtain ⟨d, hheld, -⟩ := Option.map_eq_some_iff.1 (hstill.trans hattached)
    rw [hheld, show s₂.2 = s.2 from (hfailed e rfl).trans hlistened] at hdropped
    refine ⟨(apart_dropDispatcher host.logging r₁ s₂).trans hapart, dropDispatcher_dispatcher host.logging r₁ s₂, nofun,
      [.dropped], hdropped, .dropped .nil, by simp⟩
  · obtain ⟨rfl, hlog⟩ := hstarted d rfl
    refine ⟨hapart, rfl, ?_, [.spawned set], hlog.trans (by rw [hlistened]), ?_, by simp⟩
    · rintro _ ⟨⟩
      exact ⟨(congrArg ShellResetter.markers hapart :).trans hmarkers, rfl⟩
    · rw [hattached]
      exact .respawned .nil

theorem takeDispatcher_readied (h : Current m r s.2) {set : ScriptSet} (hfiles : r.files = some (set, env)) :
    Readied m set r s.2 (r.takeDispatcher host.logging set s) := by
  unfold takeDispatcher
  cases hheld : r.dispatcher with
  | none =>
    have hnone : r.attached = none := attached_of_none hheld
    obtain ⟨hfailed, hstarted⟩ := spawn_log host set r.markers s
    dsimp only [Option.map]
    rcases hspawn : Dispatcher.spawn host.logging set r.markers s with ⟨e | d, s₁⟩ <;> rw [hspawn] at hfailed hstarted
    · exact ⟨rfl, hheld, nofun, [], (hfailed e rfl).trans (List.append_nil s.2).symm, hnone ▸ .nil, by simp⟩
    · obtain ⟨rfl, hlog⟩ := hstarted d rfl
      refine ⟨rfl, hheld, ?_, [.spawned set], hlog, hnone ▸ .spawned .nil, by simp⟩
      rintro _ ⟨⟩
      exact ⟨h.markers, rfl⟩
  | some d =>
    obtain ⟨hmarkers, other, hscripts⟩ := h.dispatcher d hheld
    obtain ⟨rfl, -⟩ : d.scripts = set ∧ other = env := by simpa using hscripts.symm.trans hfiles
    have hattached : r.attached = some d.scripts := by rw [attached, hheld, Option.map_some]
    dsimp only [Option.map]
    split
    · refine ⟨rfl, rfl, ?_, [], (List.append_nil s.2).symm, hattached ▸ .nil, by simp⟩
      rintro _ ⟨⟩
      exact ⟨hmarkers, rfl⟩
    · exact respawn_readied host h.markers hattached

/-- While a dispatcher is taken, no shell is asked for anything and none is started but from these files. -/
theorem Readied.use {set : ScriptSet} {log : List HostEvent}
    {taken : Except CampaignError Dispatcher × ShellResetter × ω × List HostEvent} (h : Readied m set r log taken)
    (hfiles : r.files = some (set, env)) :
    ∃ events, taken.2.2.2 = log ++ events ∧
      ShellUse m r.files env r.attached [] [] events (taken.1.toOption.map Dispatcher.scripts) := by
  obtain ⟨events, hlog, horderly, hevents⟩ := h.events
  refine ⟨events, hlog, horderly, ⟨⟨[], List.filterMap_eq_nil_iff.2 fun e he => ?_, .nil⟩, fun other hother => ?_⟩,
    fun e he => ?_⟩
  · rcases hevents e he with rfl | rfl <;> rfl
  · rcases hevents _ hother with hother | hother
    · cases hother
    · cases hother
      exact hfiles
  · rcases hevents e he with rfl | rfl <;> rfl

/-- A phase is run with the script of the files that are held, or it fails. -/
theorem runOn_ran (h : Current m r s.2) {set : ScriptSet} (hfiles : r.files = some (set, env)) (phase : Phase)
    (cancelled : Bool) :
    let ran := r.runOn host.logging set phase cancelled s
    Ran m r.files env s.2 [(phase, ran.1)] [] ran.2.1 ran.2.2.2 := by
  have htaken := takeDispatcher_readied host h hfiles
  unfold runOn
  split
  · exact (settled_refl h).failed phase _
  next script hscript =>
  rcases htake : r.takeDispatcher host.logging set s with ⟨taken, r₁, s₁⟩
  rw [htake] at htaken
  obtain ⟨events, hlog, htook⟩ := htaken.use hfiles
  cases taken with
  | error e =>
    have hnone : r₁.dispatcher = none := htaken.dispatcher
    have hall : s₁.2 = s.2 ++ (events ++ []) := by rw [List.append_nil]; exact hlog
    have hfailed : ShellUse m r.files env r.attached [(phase, .error e)] [] (events ++ []) none :=
      htook.append (shellUse_failed phase e)
    rw [← attached_of_none hnone] at hfailed
    refine h.ran_of_use htaken.apart ?_ hall hfailed
    rw [hnone]
    exact nofun
  | ok d =>
    obtain ⟨hmarkers, hscripts⟩ := htaken.ready d rfl
    have hpath : d.scripts.phasePath? phase = some script := hscripts ▸ hscript
    have hheld : r.files = some (d.scripts, env) := hscripts ▸ hfiles
    obtain ⟨hscripts', hmarkers', more, hmore, hasked⟩ :=
      dispatcher_runPhase_use host hmarkers hpath hheld r₁.phaseTimeout cancelled s₁
    dsimp only
    rcases hphase : d.runPhase host.logging phase script r₁.phaseTimeout cancelled s₁ with ⟨result, d', s₂⟩
    rw [hphase] at hscripts' hmarkers' hmore hasked
    have hall : s₂.2 = s.2 ++ (events ++ more) := by
      rw [hmore, show s₁.2 = _ from hlog, List.append_assoc]
    have hran : Ran m r.files env s.2 [(phase, result)] []
        { (r₁.collect (d'.checkAlive host.logging s₂)).1 with
          dispatcher := some (r₁.collect (d'.checkAlive host.logging s₂)).2 } s₂.2 := by
      refine h.ran_of_use htaken.apart ?_ hall ?_
      · rintro _ ⟨⟩
        exact ⟨hmarkers'.trans hmarkers, env, hheld.trans (by rw [← hscripts']; rfl)⟩
      · show ShellUse m r.files env r.attached [(phase, result)] [] (events ++ more) (some d'.scripts)
        rw [show d'.scripts = d.scripts from hscripts']
        exact htook.append hasked
    split
    · exact hran
    · -- a dispatcher that cannot be used again is given up
      exact hran.before (dropDispatcher_settled host hran.current)

theorem files_runOn (r : ShellResetter) (set : ScriptSet) (phase : Phase) (cancelled : Bool) (s : ω) :
    (r.runOn host set phase cancelled s).2.1.files = r.files :=
  (congrArg ShellResetter.files (apart_runOn host r s set phase cancelled) :)

theorem ensureFiles_ok (r : ShellResetter) (env : EnvSnapshot) (s : ω)
    (hok : (r.ensureFiles host env s).1 = .ok ()) : ∃ set, (r.ensureFiles host env s).2.1.files = some (set, env) := by
  obtain ⟨files, hapart, -, hmade⟩ := ensureFiles_apart host r env s
  obtain ⟨set, rfl⟩ := hmade hok
  exact ⟨set, (congrArg ShellResetter.files hapart :)⟩

theorem runPhase_ran (h : Current m r s.2) (phase : Phase) (env : EnvSnapshot) (cancelled : Bool) :
    let ran := r.runPhase host.logging phase env cancelled s
    Ran m ran.2.1.files env s.2 [(phase, ran.1)] [] ran.2.1 ran.2.2.2 := by
  have hensured := ensureFiles_settled host h env
  have hok := ensureFiles_ok host.logging r env s
  unfold runPhase
  split
  · exact (settled_refl h).failed phase _
  rcases hensure : r.ensureFiles host.logging env s with ⟨e | u, r₁, s₁⟩
  · rw [hensure] at hensured
    exact hensured.failed phase e
  · rw [hensure] at hensured hok
    obtain ⟨set, hfiles⟩ := hok rfl
    have hran := runOn_ran host hensured.current hfiles phase cancelled
    dsimp only at hfiles ⊢
    simp only [hfiles]
    rw [files_runOn]
    exact .after hensured hran

/-- Files of the environment stay while a phase is run in it. -/
theorem runPhase_files (r : ShellResetter) (phase : Phase) (env : EnvSnapshot) (cancelled : Bool) (s : ω)
    {set : ScriptSet} (hheld : r.files = some (set, env)) :
    (r.runPhase host phase env cancelled s).2.1.files = some (set, env) := by
  have hkept := (ensureFiles_files host r env s).2 set hheld
  rw [← hheld]
  unfold runPhase
  split
  · rfl
  rcases hensure : r.ensureFiles host env s with ⟨e | u, r₁, s₁⟩
  · rw [hensure] at hkept
    exact hkept
  · rw [hensure] at hkept
    dsimp only at hkept ⊢
    split
    · exact hkept
    · rw [files_runOn, hkept]

/-! ## Requests -/

/-- What is recorded has no part in it. -/
theorem Current.succeeded {log : List HostEvent} (h : Current m r log) (attempted : List PhaseAttempt)
    (phase : Phase) : Current m ({ r with attempted }.succeeded phase) log := by
  cases phase <;> exact ⟨h.markers, h.dispatcher, h.rendered, h.orderly, h.deployed⟩

theorem runPhases_ran (h : Current m r s.2) (env : EnvSnapshot) (cancelled : Bool) (phases : List Phase) :
    let ran := runPhases host.logging env cancelled phases r s
    (∀ set, r.files = some (set, env) → ran.2.1.files = some (set, env)) ∧
      ∃ attempts, ran.2.1.attempted = r.attempted ++ attempts ∧
        Ran m ran.2.1.files env s.2 attempts [] ran.2.1 ran.2.2.2 := by
  induction phases generalizing r s with
  | nil => exact ⟨fun _ => id, [], (List.append_nil _).symm, (settled_refl h).ran⟩
  | cons phase rest ih =>
    have hran := runPhase_ran host h phase env cancelled
    have hfiles : ∀ set, r.files = some (set, env) → _ := fun set hheld =>
      runPhase_files host.logging r phase env cancelled s hheld
    have hcourse := course_runPhase host.logging r s phase env cancelled
    rw [runPhases]
    rcases hphase : r.runPhase host.logging phase env cancelled s with ⟨result, r₁, s₁⟩
    rw [hphase] at hran hfiles hcourse
    have hattempted : r₁.attempted = r.attempted := (congrArg (fun c => c.2.2.2) hcourse :)
    have hcurrent := hran.current.succeeded (r₁.attempted ++ [(phase, result)]) phase
    cases result with
    | error e =>
      obtain ⟨hcurrent, hevents⟩ := hran
      refine ⟨hfiles, [(phase, .error e)], congrArg (· ++ [(phase, .error e)]) hattempted, ?_, hevents⟩
      exact ⟨hcurrent.markers, hcurrent.dispatcher, hcurrent.rendered, hcurrent.orderly, hcurrent.deployed⟩
    | ok u =>
      -- the other phases begin with what is recorded of this one
      obtain ⟨hstay, more, hmore, hrest⟩ := ih hcurrent
      have hkept : ({ r₁ with attempted := r₁.attempted ++ [(phase, Except.ok u)] }.succeeded phase).files =
          r₁.files := by
        cases phase <;> rfl
      have hrecord : ({ r₁ with attempted := r₁.attempted ++ [(phase, Except.ok u)] }.succeeded phase).attempted =
          r.attempted ++ [(phase, .ok u)] := by
        rw [← hattempted]
        cases phase <;> rfl
      rw [hkept] at hstay
      rw [hrecord] at hmore
      refine ⟨fun set hheld => hstay set (hfiles set hheld), (phase, .ok u) :: more, ?_, ?_⟩
      · exact hmore.trans (List.append_assoc _ _ _)
      · exact (hran.mono hstay).trans hrest

theorem stopIfStarted_ran (h : Current m r s.2) (cancelled : Bool) (env : EnvSnapshot)
    (henv : ∀ set held, r.files = some (set, held) → held = env) :
    let ran := r.stopIfStarted host.logging cancelled s
    (ran.2.1.files = r.files) ∧ ∃ attempts, ran.2.1.attempted = r.attempted ++ attempts ∧
      Ran m r.files env s.2 attempts [] ran.2.1 ran.2.2.2 := by
  unfold stopIfStarted
  cases hfiles : r.files with
  | none => exact ⟨hfiles, [], (List.append_nil _).symm, (settled_refl h).ran⟩
  | some files =>
    obtain ⟨set, held⟩ := files
    obtain rfl := henv set held hfiles
    dsimp only
    split
    · obtain ⟨hstay, attempts, hrecord, hran⟩ := runPhases_ran host h held cancelled [.stop]
      have hkept := hstay set hfiles
      exact ⟨hkept, attempts, hrecord, hran.mono fun other hother => by rw [← hkept]; exact hother⟩
    · exact ⟨hfiles, [], (List.append_nil _).symm, (settled_refl h).ran⟩

/-- A shell that is held is asked to exit, unless it is gone already. -/
theorem shutdown_ran (h : Current m r s.2) (files : Option (ScriptSet × EnvSnapshot)) (env : EnvSnapshot) :
    let down := r.shutdown host.logging s
    down.2.1.dispatcher = none ∧
      ∃ exits, (exits = [] ∨ exits = [m.exitLine]) ∧ Ran m files env s.2 [] exits down.2.1 down.2.2.2 := by
  have hapart := apart_shutdown host.logging r s
  revert hapart
  unfold shutdown
  cases hheld : r.dispatcher with
  | none => exact fun _ => ⟨hheld, [], Or.inl rfl, (settled_refl h).ran⟩
  | some d =>
    intro hapart
    obtain ⟨hmarkers, -⟩ := h.dispatcher d hheld
    have hlog : (d.shutdown host.logging s).2.2.2 =
        s.2 ++ (if d.alive then [.wrote m.exitLine, .dropped] else [.dropped]) := by
      rw [← hmarkers]
      unfold Dispatcher.shutdown
      cases d.alive with
      | false => rfl
      | true => exact List.append_assoc _ _ _
    refine ⟨rfl, if d.alive then [m.exitLine] else [], by cases d.alive <;> simp, ?_⟩
    refine h.ran_of_use hapart nofun hlog ?_
    rw [attached, hheld]
    show ShellUse m files env (some d.scripts) [] _ _ none
    cases d.alive with
    | false => exact ⟨.dropped .nil, ⟨⟨[], rfl, .nil⟩, by simp⟩, by simp [HostEvent.onFiles]⟩
    | true => exact ⟨.wrote (Or.inl rfl) (.dropped .nil), ⟨⟨[], rfl, .nil⟩, by simp⟩, by simp [HostEvent.onFiles]⟩

theorem removeFiles_settled (h : Current m r s.2) (hnone : r.dispatcher = none) :
    let removed := r.removeFiles host.logging s
    Settled m s.2 removed.1 removed.2.2 := by
  intro removed
  have hlog : removed.2.2 = s.2 ++ removals r.files := removeFiles_log host r s
  have hapart : removed.1.apart = { r.apart with files := none } := apart_removeFiles host.logging r s
  have hmarkers : removed.1.markers = r.markers := (congrArg ShellResetter.markers hapart :)
  have hfiles : removed.1.files = none := (congrArg ShellResetter.files hapart :)
  have hgone : removed.1.dispatcher = none := (removeFiles_dispatcher host.logging r s).trans hnone
  have horderly := h.orderly
  rw [attached_of_none hnone] at horderly
  refine ⟨⟨hmarkers.trans h.markers, ?_, ?_, ?_, ?_⟩, _, hlog, quiet_removals⟩
  · rw [hgone]
    exact nofun
  · rw [hfiles]
    exact nofun
  · rw [hlog, attached_of_none hgone]
    exact horderly.trans orderly_removals
  · rw [hlog, hfiles]
    exact h.deployed.cleared

theorem reset_ran (h : Current m r s.2) (env : EnvSnapshot) (cancelled : Bool) :
    let ran := r.reset host.logging env cancelled s
    ∃ attempts, ran.2.1.attempted = r.attempted ++ attempts ∧
      Ran m ran.2.1.files env s.2 attempts [] ran.2.1 ran.2.2.2 := by
  unfold reset
  split
  · exact ⟨[], (List.append_nil _).symm, (settled_refl h).ran⟩
  next plan _ =>
  obtain ⟨-, attempts, hrecord, hran⟩ := runPhases_ran host h env cancelled plan
  rcases hphases : runPhases host.logging env cancelled plan r s with ⟨e | u, r₁, s₁⟩
  · rw [hphases] at hrecord hran
    exact ⟨attempts, hrecord, hran⟩
  · rw [hphases] at hrecord hran
    obtain ⟨⟨hmarkers, hdispatcher, hrendered, horderly, hdeployed⟩, hevents⟩ := hran
    exact ⟨attempts, hrecord, ⟨hmarkers, hdispatcher, hrendered, horderly, hdeployed⟩, hevents⟩

theorem terminate_ran (h : Current m r s.2) (cancelled : Bool) (env : EnvSnapshot)
    (henv : ∀ set held, r.files = some (set, held) → held = env) :
    let ran := r.terminate host.logging cancelled s
    ∃ attempts exits, ran.2.1.attempted = r.attempted ++ attempts ∧ (exits = [] ∨ exits = [m.exitLine]) ∧
      Ran m r.files env s.2 attempts exits ran.2.1 ran.2.2.2 := by
  obtain ⟨-, attempts, hrecord, hstop⟩ := stopIfStarted_ran host h cancelled env henv
  unfold terminate
  rcases hstopped : r.stopIfStarted host.logging cancelled s with ⟨stopped, r₁, s₁⟩
  rw [hstopped] at hrecord hstop
  obtain ⟨hnone, exits, hexits, hdown⟩ := shutdown_ran host hstop.current r.files env
  have hcourse := course_shutdown host.logging r₁ s₁
  dsimp only at hnone hdown hcourse ⊢
  rcases hshutdown : r₁.shutdown host.logging s₁ with ⟨down, r₂, s₂⟩
  rw [hshutdown] at hnone hdown hcourse
  have hremoved := removeFiles_settled host hdown.current hnone
  have hattempted : (r₂.removeFiles host.logging s₂).1.attempted = r₁.attempted :=
    (congrArg (fun c => c.2.2.2) ((course_removeFiles host.logging r₂ s₂).trans hcourse) :)
  obtain ⟨⟨hmarkers, hdispatcher, hrendered, horderly, hdeployed⟩, hevents⟩ := (hstop.trans hdown).before hremoved
  rw [List.append_nil] at hevents
  exact ⟨attempts, exits, hattempted.trans hrecord, hexits,
    ⟨hmarkers, hdispatcher, hrendered, horderly, hdeployed⟩, hevents⟩

theorem serve_ran {log : List HostEvent} (h : Current m r log) (request : LifecycleRequest ω) :
    let ran := r.serve host.logging (request.map (·, log))
    ∃ attempts exits, ran.2.1.attempted = r.attempted ++ attempts ∧
      (exits = [] ∨ request.isTermination = true ∧ exits = [m.exitLine]) ∧
      Ran m (request.worksWith r ran.2.1) (request.runsIn r) log attempts exits ran.2.1 ran.2.2.2 := by
  cases request with
  | start env cancelled s =>
    obtain ⟨-, attempts, hrecord, hran⟩ := runPhases_ran host (s := (s, log)) h env cancelled [.start]
    exact ⟨attempts, [], hrecord, Or.inl rfl, hran⟩
  | stop env cancelled s =>
    obtain ⟨-, attempts, hrecord, hran⟩ := runPhases_ran host (s := (s, log)) h env cancelled [.stop]
    exact ⟨attempts, [], hrecord, Or.inl rfl, hran⟩
  | reset env cancelled s =>
    obtain ⟨attempts, hrecord, hran⟩ := reset_ran host (s := (s, log)) h env cancelled
    exact ⟨attempts, [], hrecord, Or.inl rfl, hran⟩
  | terminate cancelled s =>
    obtain ⟨attempts, exits, hrecord, hexits, hran⟩ := terminate_ran host (s := (s, log)) h cancelled
      ((r.files.map Prod.snd).getD .empty) (by intro set held hfiles; rw [hfiles]; rfl)
    exact ⟨attempts, exits, hrecord, hexits.imp_right fun hexit => ⟨rfl, hexit⟩, hran⟩

/-! ## Files that cannot be had -/

/-- The first phase fails when the files of its environment cannot be had. -/
theorem runPhases_of_failed {phase : Phase} {rest : List Phase} {e : CampaignError} {r₁ : ShellResetter} {s s₁ : ω}
    (hdefined : r.scripts.has phase = true) (hfailed : r.ensureFiles host env s = (.error e, r₁, s₁))
    (cancelled : Bool) :
    runPhases host env cancelled (phase :: rest) r s =
      (.error e, { r₁ with attempted := r₁.attempted ++ [(phase, .error e)] }, s₁) := by
  have hphase : r.runPhase host phase env cancelled s = (.error e, r₁, s₁) := by
    rw [runPhase, if_neg (by simp [hdefined]), hfailed]
  rw [runPhases, hphase]

/-- A request fails with its first phase. -/
theorem serve_of_failed {request : LifecycleRequest ω} {phase : Phase} {rest : List Phase} {e : CampaignError}
    {r₁ : ShellResetter} {s₁ : ω} (hasked : r.asked request = .ok (phase :: rest))
    (hdefined : r.scripts.has phase = true)
    (hfailed : r.ensureFiles host (request.runsIn r) request.found = (.error e, r₁, s₁)) :
    r.serve host request = (.error e, { r₁ with attempted := r₁.attempted ++ [(phase, .error e)] }, s₁) := by
  cases request with
  | start env cancelled s =>
    cases hasked
    exact runPhases_of_failed host hdefined hfailed cancelled
  | stop env cancelled s =>
    cases hasked
    exact runPhases_of_failed host hdefined hfailed cancelled
  | reset env cancelled s =>
    have hplan : r.scripts.planReset r.firstReset = .ok (phase :: rest) := hasked
    have hphases : runPhases host env cancelled (phase :: rest) r s = _ :=
      runPhases_of_failed host hdefined hfailed cancelled
    rw [serve, reset, hplan]
    dsimp only
    rw [hphases]
  | terminate cancelled s =>
    -- the files that are held are those of the environment
    cases hfiles : r.files with
    | none => simp [asked, hfiles] at hasked
    | some held =>
      simp [ensureFiles, LifecycleRequest.runsIn, hfiles] at hfailed

/-- A request that fails so keeps the files and has no shell do anything. -/
theorem serve_logging_of_failed {log : List HostEvent} (h : Current m r log) {request : LifecycleRequest ω}
    {phase : Phase} {rest : List Phase} {e : CampaignError} (hasked : r.asked request = .ok (phase :: rest))
    (hdefined : r.scripts.has phase = true)
    (hfailed : (r.ensureFiles host (request.runsIn r) request.found).1 = .error e) :
    let ran := r.serve host.logging (request.map (·, log))
    ran.1 = .error e ∧ ran.2.1.files = r.files ∧ ran.2.1.attempted = r.attempted ++ [(phase, .error e)] ∧
      ∃ events, ran.2.2.2 = log ++ events ∧ Quiet events := by
  have hsettled := ensureFiles_settled host (s := (request.found, log)) h (request.runsIn r)
  have hkept := (ensureFiles_files host.logging r (request.runsIn r) (request.found, log)).1
  obtain ⟨files, hapart, -⟩ := ensureFiles_apart host.logging r (request.runsIn r) (request.found, log)
  -- the files cannot be had with the log either
  rw [show request.found = Prod.fst (request.found, log) from rfl, host.maps_logging.ensureFiles] at hfailed
  rcases hensured : r.ensureFiles host.logging (request.runsIn r) (request.found, log) with ⟨result, r₁, s₁⟩
  rw [hensured] at hsettled hkept hapart hfailed
  obtain rfl : result = .error e := hfailed
  have hattempted : r₁.attempted = r.attempted := (congrArg ShellResetter.attempted hapart :)
  have hsame : r.asked (request.map (·, log)) = .ok (phase :: rest) := by
    rw [← hasked]
    cases request <;> rfl
  have hserve : r.serve host.logging (request.map (·, log)) = _ :=
    serve_of_failed host.logging hsame hdefined (by
      rw [← hensured]
      cases request <;> rfl)
  rw [hserve]
  exact ⟨rfl, hkept e rfl, congrArg (· ++ [(phase, .error e)]) hattempted, hsettled.events⟩

end

/-! ## Histories -/

variable {ω : Type} (host : ShellHost ω)

/-- What a request of a resetter did, by the log of the host. -/
structure Serves (m : ControlMarkers) (r : ShellResetter) (request : LifecycleRequest ω) (events : List HostEvent) :
    Prop where
  /-- It ran scripts of the files only, those of the phases it attempted, in their environment. -/
  works : ∃ exits, (exits = [] ∨ request.isTermination = true ∧ exits = [m.exitLine]) ∧
    Works m (request.worksWith r (r.serve host request).2.1) (request.runsIn r) (r.attempts host request) exits events
  /-- When the files of its environment could not be had, it kept those that were held and ran nothing. -/
  kept : ∀ phase rest e, r.asked request = .ok (phase :: rest) → r.scripts.has phase = true →
    (r.ensureFiles host (request.runsIn r) request.found).1 = .error e →
    (r.serve host request).1 = .error e ∧ (r.serve host request).2.1.files = r.files ∧
      r.attempts host request = [(phase, .error e)] ∧ Quiet events

theorem serves_of_current {m : ControlMarkers} {r : ShellResetter} {log : List HostEvent} (h : Current m r log)
    (request : LifecycleRequest ω) :
    Current m (r.serve host request).2.1 (r.serve host.logging (request.map (·, log))).2.2.2 ∧
      ∃ events, (r.serve host.logging (request.map (·, log))).2.2.2 = log ++ events ∧
        Serves host m r request events := by
  obtain ⟨attempts, exits, hrecord, hexits, hran⟩ := serve_ran host h request
  have hplain := serve_logging host r request log
  rcases hserve : r.serve host.logging (request.map (·, log)) with ⟨result, r', s', log'⟩
  rw [hserve] at hrecord hran hplain
  have hattempts : r.attempts host request = attempts := attempts_eq host (by rw [hplain]; exact hrecord)
  obtain ⟨events, hlog, hworks⟩ := hran.events
  -- what is said with the log is true without it, since both leave the same resetter
  refine ⟨hplain ▸ hran.current, events, hlog, ⟨exits, hexits, ?_⟩, ?_⟩
  · rw [hplain, hattempts]
    exact hworks
  · intro phase rest e hasked hdefined hfailed
    obtain ⟨hresult, hfiles, hfirst, later, hlater, hquiet⟩ := serve_logging_of_failed host h hasked hdefined hfailed
    rw [hserve] at hresult hfiles hfirst hlater
    obtain rfl : later = events := List.append_cancel_left (hlater.symm.trans hlog)
    rw [hplain]
    exact ⟨hresult, hfiles, hattempts.trans (List.append_cancel_left (hrecord.symm.trans hfirst)), hquiet⟩

theorem new_current (scripts : LifecycleScripts) (phaseTimeout : Nat) (s₀ : ω) :
    Current (build host scripts phaseTimeout s₀).1.markers (build host scripts phaseTimeout s₀).1 [] where
  markers := rfl
  dispatcher := nofun
  rendered := nofun
  orderly := .nil
  deployed := ⟨nofun, nofun, fun _ => nofun⟩

theorem current_logged {m : ControlMarkers} {r : ShellResetter} (h : Current m r [])
    (history : List (LifecycleRequest ω)) : Current m (r.served host history) (r.logged host history).2 := by
  induction history with
  | nil => exact h
  | cons request earlier ih =>
    have hnext := (serves_of_current host ih request).1
    rwa [logged, logged_fst, served]

/-- **Shells run the scripts that are held.** The history is any sequence of requests, each with its own environment
and its own host, where directories cannot be made, environments cannot be written, shells crash and phases take too
long. A shell that is held was started from the files that are held. A request writes to it nothing but lines for the
scripts of the phases it attempts, which are scripts of the files that are held then and were rendered from the
environment of the request. When such files cannot be had it keeps those it held, and no phase is run. -/
theorem shells_run_held_scripts (scripts : LifecycleScripts) (phaseTimeout : Nat) (s₀ : ω)
    (history : List (LifecycleRequest ω)) :
    let new := (build host scripts phaseTimeout s₀).1
    let r := new.served host history
    let log := (new.logged host history).2
    Current new.markers r log ∧
      ∀ request, ∃ events, (new.logged host (request :: history)).2 = log ++ events ∧
        Serves host new.markers r request events := by
  intro new r log
  have hcurrent : Current new.markers r log := current_logged host (new_current host scripts phaseTimeout s₀) history
  refine ⟨hcurrent, fun request => ?_⟩
  have hserved := (serves_of_current host hcurrent request).2
  rwa [logged, logged_fst]

/-! ## An environment that cannot be written -/

/-- A variable that has no name of a variable. -/
def unwritableEnv : EnvSnapshot := .ofList [("1", "x")]

/-- A resetter that started the system under test in the empty environment. -/
def startedResetter : ShellResetter :=
  (build promptHost wholeScripts 1000 ()).1.served promptHost [.start .empty false ()]

/-- The files of the empty environment are kept, and the reset fails without a word to any shell. -/
theorem unwritable_reset_keeps_files :
    startedResetter.files.map Prod.snd = some .empty ∧
      (startedResetter.serve promptHost (.reset unwritableEnv false ())).1 = .error (Lifecycle.notAVariable "1") ∧
      (startedResetter.serve promptHost (.reset unwritableEnv false ())).2.1.files = startedResetter.files := by
  have hfiles : startedResetter.files.map Prod.snd = some .empty := by decide +kernel
  have hasked : startedResetter.asked (.reset unwritableEnv false () : LifecycleRequest Unit) = .ok [.reset] := by
    decide +kernel
  have hdefined : startedResetter.scripts.has .reset = true := by decide +kernel
  have hfailed : (startedResetter.ensureFiles promptHost unwritableEnv ()).1 =
      .error (Lifecycle.notAVariable "1") := by decide +kernel
  obtain ⟨-, hserves⟩ := shells_run_held_scripts promptHost wholeScripts 1000 () [.start .empty false ()]
  obtain ⟨_, -, hserved⟩ := hserves (.reset unwritableEnv false ())
  obtain ⟨hresult, hkept, -⟩ := hserved.kept .reset [] _ hasked hdefined hfailed
  exact ⟨hfiles, hresult, hkept⟩

end ShellResetter

end FuzzCampaign
