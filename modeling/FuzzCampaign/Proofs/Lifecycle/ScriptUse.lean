import FuzzCampaign.Proofs.Lifecycle.HostLog
set_option autoImplicit false

/-! # What a log says about scripts

A log of a host is `Orderly` when files are only touched while there is no shell and every line is for the script set
that the shell was started from. Files that are held are `Deployed` when by the log they are there. A stretch of a log
`Works` with files for some attempts at phases when it asks a shell for nothing but the scripts of these phases. -/

namespace FuzzCampaign

/-! ## Logs -/

namespace HostEvent

/-- The line that was to be written. -/
def line? : HostEvent → Option String
  | .wrote line => some line
  | _ => none

/-- Whether the event is about files. -/
def onFiles : HostEvent → Bool
  | .made _ | .stored _ | .removed _ => true
  | .spawned _ | .wrote _ | .dropped => false

/-- Events that have no shell do anything. -/
def Quiet (events : List HostEvent) : Prop := ∀ e ∈ events, e.line? = none ∧ ∀ set, e ≠ .spawned set

end HostEvent

open HostEvent (Quiet)

/-- A line asks a shell that was started from this script set to exit, or to run one of the scripts of the set. -/
def Addresses (m : ControlMarkers) (set : ScriptSet) (line : String) : Prop :=
  line = m.exitLine ∨ ∃ phase path, set.phasePath? phase = some path ∧ line = m.execLine path

/-- A log that begins with a shell started from one script set, or with none, and ends with a shell started from the
other. Files are only touched while there is no shell. A shell is started when there is none, or in the place of one of
the same script set; lines are written to a shell that is there, and they address it. -/
inductive Orderly (m : ControlMarkers) : Option ScriptSet → List HostEvent → Option ScriptSet → Prop where
  | nil {a : Option ScriptSet} : Orderly m a [] a
  | made {dir : String} {events : List HostEvent} {b : Option ScriptSet} :
      Orderly m none events b → Orderly m none (.made dir :: events) b
  | stored {set : ScriptSet} {events : List HostEvent} {b : Option ScriptSet} :
      Orderly m none events b → Orderly m none (.stored set :: events) b
  | removed {dir : String} {events : List HostEvent} {b : Option ScriptSet} :
      Orderly m none events b → Orderly m none (.removed dir :: events) b
  | spawned {set : ScriptSet} {events : List HostEvent} {b : Option ScriptSet} :
      Orderly m (some set) events b → Orderly m none (.spawned set :: events) b
  | respawned {set : ScriptSet} {events : List HostEvent} {b : Option ScriptSet} :
      Orderly m (some set) events b → Orderly m (some set) (.spawned set :: events) b
  | wrote {set : ScriptSet} {line : String} {events : List HostEvent} {b : Option ScriptSet} :
      Addresses m set line → Orderly m (some set) events b → Orderly m (some set) (.wrote line :: events) b
  | dropped {a b : Option ScriptSet} {events : List HostEvent} :
      Orderly m none events b → Orderly m a (.dropped :: events) b

theorem Orderly.trans {m : ControlMarkers} {a b c : Option ScriptSet} {events more : List HostEvent}
    (h : Orderly m a events b) (h' : Orderly m b more c) : Orderly m a (events ++ more) c := by
  induction h with
  | nil => exact h'
  | made _ ih => exact .made (ih h')
  | stored _ ih => exact .stored (ih h')
  | removed _ ih => exact .removed (ih h')
  | spawned _ ih => exact .spawned (ih h')
  | respawned _ ih => exact .respawned (ih h')
  | wrote haddressed _ ih => exact .wrote haddressed (ih h')
  | dropped _ ih => exact .dropped (ih h')

/-- The directories that were made. -/
def madeIn (log : List HostEvent) : List String :=
  log.filterMap fun
    | .made dir => some dir
    | _ => none

/-- The files that are held are there: their directory was made, they were written, and while no directory is made
twice theirs was not removed. -/
structure Deployed (files : Option (ScriptSet × EnvSnapshot)) (log : List HostEvent) : Prop where
  known : ∀ dir, .removed dir ∈ log → dir ∈ madeIn log
  made : ∀ set env, files = some (set, env) → set.dir ∈ madeIn log ∧ .stored set ∈ log
  present : (madeIn log).Nodup → ∀ set env, files = some (set, env) → .removed set.dir ∉ log

/-! ## What a request asks for -/

/-- Attempts at phases and the lines that were to be written for them. Each of these lines names the script of its
phase among the files, which are those of the environment. A phase for which no line was written failed. -/
inductive Asks (m : ControlMarkers) (files : Option (ScriptSet × EnvSnapshot)) (env : EnvSnapshot) :
    List PhaseAttempt → List String → Prop where
  | nil : Asks m files env [] []
  | silent {phase : Phase} {e : CampaignError} {attempts : List PhaseAttempt} {lines : List String} :
      Asks m files env attempts lines → Asks m files env ((phase, .error e) :: attempts) lines
  | asked {phase : Phase} {result : Except CampaignError Unit} {set : ScriptSet} {path : String}
      {attempts : List PhaseAttempt} {lines : List String} : files = some (set, env) →
      set.phasePath? phase = some path → Asks m files env attempts lines →
      Asks m files env ((phase, result) :: attempts) (m.execLine path :: lines)

/-- What these events ask for: the scripts of the attempts, and then nothing else but the lines `exits`. Every shell
that is started for it is started from the files. -/
structure Works (m : ControlMarkers) (files : Option (ScriptSet × EnvSnapshot)) (env : EnvSnapshot)
    (attempts : List PhaseAttempt) (exits : List String) (events : List HostEvent) : Prop where
  lines : ∃ lines, events.filterMap HostEvent.line? = lines ++ exits ∧ Asks m files env attempts lines
  spawned : ∀ set, .spawned set ∈ events → files = some (set, env)

section
variable {m : ControlMarkers} {files files' : Option (ScriptSet × EnvSnapshot)} {env : EnvSnapshot}
  {attempts more : List PhaseAttempt} {lines others exits : List String} {events later log : List HostEvent}

theorem Asks.append (h : Asks m files env attempts lines) (h' : Asks m files env more others) :
    Asks m files env (attempts ++ more) (lines ++ others) := by
  induction h with
  | nil => exact h'
  | silent _ ih => exact .silent ih
  | asked hfiles hpath _ ih => exact .asked hfiles hpath ih

theorem Asks.mono (hfiles : ∀ set, files = some (set, env) → files' = some (set, env))
    (h : Asks m files env attempts lines) : Asks m files' env attempts lines := by
  induction h with
  | nil => exact .nil
  | silent _ ih => exact .silent ih
  | asked hheld hpath _ ih => exact .asked (hfiles _ hheld) hpath ih

theorem Works.mono (hfiles : ∀ set, files = some (set, env) → files' = some (set, env))
    (h : Works m files env attempts exits events) : Works m files' env attempts exits events := by
  obtain ⟨lines, hlines, hasks⟩ := h.lines
  exact ⟨⟨lines, hlines, hasks.mono hfiles⟩, fun set hset => hfiles set (h.spawned set hset)⟩

theorem Works.append (h : Works m files env attempts [] events) (h' : Works m files env more exits later) :
    Works m files env (attempts ++ more) exits (events ++ later) := by
  obtain ⟨lines, hlines, hasks⟩ := h.lines
  obtain ⟨others, hothers, hmore⟩ := h'.lines
  rw [List.append_nil] at hlines
  refine ⟨⟨lines ++ others, ?_, hasks.append hmore⟩, fun set hset => ?_⟩
  · rw [List.filterMap_append, hlines, hothers, List.append_assoc]
  · exact (List.mem_append.1 hset).elim (h.spawned set) (h'.spawned set)

theorem works_quiet (h : Quiet events) : Works m files env [] [] events where
  lines := ⟨[], List.filterMap_eq_nil_iff.2 fun e he => (h e he).1, .nil⟩
  spawned := fun set hset => absurd rfl ((h _ hset).2 set)

/-- A phase for which nothing is asked and which fails. -/
theorem works_failed (phase : Phase) (e : CampaignError) : Works m files env [(phase, .error e)] [] [] :=
  ⟨⟨[], rfl, .silent .nil⟩, by simp⟩

/-- A phase for which a shell is asked. -/
theorem works_asked {set : ScriptSet} {path : String} {phase : Phase} (hfiles : files = some (set, env))
    (hpath : set.phasePath? phase = some path) (result : Except CampaignError Unit) :
    Works m files env [(phase, result)] [] [.wrote (m.execLine path)] :=
  ⟨⟨[m.execLine path], rfl, .asked hfiles hpath .nil⟩, by simp⟩

/-- Quiet events after the others. -/
theorem Works.before (h : Works m files env attempts exits events) (h' : Quiet later) :
    Works m files env attempts exits (events ++ later) := by
  obtain ⟨lines, hlines, hasks⟩ := h.lines
  refine ⟨⟨lines, ?_, hasks⟩, fun set hset => ?_⟩
  · rw [List.filterMap_append, hlines, List.filterMap_eq_nil_iff.2 fun e he => (h' e he).1, List.append_nil]
  · exact (List.mem_append.1 hset).elim (h.spawned set) fun hlater => absurd rfl ((h' _ hlater).2 set)

end

/-! ## What shells do -/

/-- Events that leave all files alone, from a shell started from one script set, or none, to another. -/
structure ShellUse (m : ControlMarkers) (files : Option (ScriptSet × EnvSnapshot)) (env : EnvSnapshot)
    (a : Option ScriptSet) (attempts : List PhaseAttempt) (exits : List String) (events : List HostEvent)
    (b : Option ScriptSet) : Prop where
  orderly : Orderly m a events b
  works : Works m files env attempts exits events
  shell : ∀ e ∈ events, e.onFiles = false

section
variable {m : ControlMarkers} {files : Option (ScriptSet × EnvSnapshot)} {env : EnvSnapshot}
  {a b c : Option ScriptSet} {attempts more : List PhaseAttempt} {exits : List String} {events later : List HostEvent}

theorem ShellUse.append (h : ShellUse m files env a attempts [] events b)
    (h' : ShellUse m files env b more exits later c) :
    ShellUse m files env a (attempts ++ more) exits (events ++ later) c where
  orderly := h.orderly.trans h'.orderly
  works := h.works.append h'.works
  shell := fun e he => (List.mem_append.1 he).elim (h.shell e) (h'.shell e)

/-- A phase that fails without a shell. -/
theorem shellUse_failed (phase : Phase) (e : CampaignError) :
    ShellUse m files env a [(phase, .error e)] [] [] a :=
  ⟨.nil, works_failed phase e, by simp⟩

/-- A phase that a shell is asked for. -/
theorem shellUse_asked {set : ScriptSet} {path : String} {phase : Phase} (hfiles : files = some (set, env))
    (hpath : set.phasePath? phase = some path) (result : Except CampaignError Unit) :
    ShellUse m files env (some set) [(phase, result)] [] [.wrote (m.execLine path)] (some set) where
  orderly := .wrote (Or.inr ⟨phase, path, hpath, rfl⟩) .nil
  works := works_asked hfiles hpath result
  shell := by simp [HostEvent.onFiles]

end

/-! ## Files that are there -/

section
variable {files : Option (ScriptSet × EnvSnapshot)} {log events : List HostEvent}

theorem madeIn_append (log events : List HostEvent) : madeIn (log ++ events) = madeIn log ++ madeIn events :=
  List.filterMap_append

theorem Deployed.append (h : Deployed files log) (hshell : ∀ e ∈ events, e.onFiles = false) :
    Deployed files (log ++ events) := by
  have hnone : madeIn events = [] := by
    refine List.filterMap_eq_nil_iff.2 fun e he => ?_
    have hoff := hshell e he
    cases e <;> first | rfl | cases hoff
  have hmade : madeIn (log ++ events) = madeIn log := by rw [madeIn_append, hnone, List.append_nil]
  have hremoved : ∀ dir, .removed dir ∈ log ++ events → .removed dir ∈ log := by
    intro dir hdir
    refine (List.mem_append.1 hdir).resolve_right fun hlater => ?_
    cases hshell _ hlater
  refine ⟨fun dir hdir => ?_, fun set env hfiles => ?_, fun hnodup set env hfiles hdir => ?_⟩
  · rw [hmade]
    exact h.known dir (hremoved dir hdir)
  · rw [hmade]
    exact ⟨(h.made set env hfiles).1, List.mem_append_left _ (h.made set env hfiles).2⟩
  · rw [hmade] at hnodup
    exact h.present hnodup set env hfiles (hremoved _ hdir)

/-- A directory that is made and given up again. -/
theorem Deployed.discarded (h : Deployed files log) (dir : String) :
    Deployed files (log ++ [.made dir, .removed dir]) := by
  have hmade : madeIn (log ++ [.made dir, .removed dir]) = madeIn log ++ [dir] := madeIn_append log _
  refine ⟨fun other hother => ?_, fun set env hfiles => ?_, fun hnodup set env hfiles hdir => ?_⟩
  · rw [hmade]
    rcases List.mem_append.1 hother with hother | hother
    · exact List.mem_append_left _ (h.known other hother)
    · simp only [List.mem_cons, reduceCtorEq, HostEvent.removed.injEq, List.not_mem_nil, or_false, false_or] at hother
      simp [hother]
  · rw [hmade]
    exact ⟨List.mem_append_left _ (h.made set env hfiles).1, List.mem_append_left _ (h.made set env hfiles).2⟩
  · rw [hmade] at hnodup
    obtain ⟨hbefore, -, hfresh⟩ := List.nodup_append.1 hnodup
    rcases List.mem_append.1 hdir with hdir | hdir
    · exact h.present hbefore set env hfiles hdir
    · simp only [List.mem_cons, reduceCtorEq, HostEvent.removed.injEq, List.not_mem_nil, or_false, false_or] at hdir
      exact hfresh _ (h.made set env hfiles).1 _ (List.mem_singleton_self dir) hdir

/-- The directory of files that are held is removed. -/
def removals (files : Option (ScriptSet × EnvSnapshot)) : List HostEvent :=
  files.toList.map fun held => .removed held.1.dir

theorem mem_removals {dir : String} :
    .removed dir ∈ removals files ↔ ∃ set env, files = some (set, env) ∧ set.dir = dir := by
  cases files with
  | none => simp [removals]
  | some held =>
    obtain ⟨set, env⟩ := held
    simp [removals, eq_comm]

theorem quiet_removals : Quiet (removals files) := by
  cases files with
  | none => simp [removals, Quiet]
  | some held => simp [removals, Quiet, HostEvent.line?]

theorem orderly_removals {m : ControlMarkers} : Orderly m none (removals files) none := by
  cases files with
  | none => exact .nil
  | some held => exact .removed .nil

theorem madeIn_removals : madeIn (removals files) = [] := by
  cases files <;> rfl

theorem Deployed.cleared (h : Deployed files log) : Deployed none (log ++ removals files) := by
  refine ⟨fun dir hdir => ?_, nofun, fun _ => nofun⟩
  rw [madeIn_append, madeIn_removals, List.append_nil]
  rcases List.mem_append.1 hdir with hdir | hdir
  · exact h.known dir hdir
  · obtain ⟨set, env, hfiles, rfl⟩ := mem_removals.1 hdir
    exact (h.made set env hfiles).1

/-- New files take the place of those that are held. -/
theorem Deployed.replaced (h : Deployed files log) (set : ScriptSet) (env : EnvSnapshot) :
    Deployed (some (set, env)) (log ++ [.made set.dir, .stored set] ++ removals files) := by
  have hmade : madeIn (log ++ [.made set.dir, .stored set] ++ removals files) = madeIn log ++ [set.dir] := by
    rw [madeIn_append, madeIn_append, madeIn_removals, List.append_nil]
    rfl
  have hremoved : ∀ dir, .removed dir ∈ log ++ [.made set.dir, .stored set] ++ removals files → dir ∈ madeIn log := by
    intro dir hdir
    have hdir : .removed dir ∈ log ++ removals files := by simpa using hdir
    have hknown := h.cleared.known dir hdir
    rwa [madeIn_append, madeIn_removals, List.append_nil] at hknown
  refine ⟨fun dir hdir => ?_, ?_, fun hnodup => ?_⟩
  · rw [hmade]
    exact List.mem_append_left _ (hremoved dir hdir)
  · rintro _ _ ⟨⟩
    rw [hmade]
    exact ⟨by simp, by simp⟩
  · rintro _ _ ⟨⟩ hdir
    rw [hmade] at hnodup
    exact (List.nodup_append.1 hnodup).2.2 _ (hremoved _ hdir) _ (List.mem_singleton_self _) rfl

end

end FuzzCampaign
