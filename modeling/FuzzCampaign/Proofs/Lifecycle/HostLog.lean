import FuzzCampaign.Proofs.Lifecycle.Started
set_option autoImplicit false

/-! # A host that keeps a log

What a resetter asks of its host cannot be seen in the resetter afterwards. `ShellHost.logging` is the same host
with a log of it. A resetter cannot tell the two apart: a map of hosts, under which both answer alike, carries
every request over (`ShellHost.Maps.serve`), and forgetting the log is one (`ShellHost.maps_logging`). -/

namespace FuzzCampaign

/-! ## Maps of hosts -/

/-- The same findings on another host. -/
def Watch.map {α β : Type} (f : α → β) : Watch α → Watch β
  | .over host => .over (f host)
  | .wake found host later => .wake found (f host) fun u => (later u).map f

/-- The same request on another host. -/
def LifecycleRequest.map {α β : Type} (f : α → β) : LifecycleRequest α → LifecycleRequest β
  | .start env cancelled s => .start env cancelled (f s)
  | .reset env cancelled s => .reset env cancelled (f s)
  | .stop env cancelled s => .stop env cancelled (f s)
  | .terminate cancelled s => .terminate cancelled (f s)

/-- The first host does what the second does with the states that `f` makes of its own. -/
structure ShellHost.Maps {α β : Type} (host : ShellHost α) (image : ShellHost β) (f : α → β) : Prop where
  makeDirectory : ∀ s, image.makeDirectory (f s) = (host.makeDirectory s).map id f
  store : ∀ set s, image.store set (f s) = (host.store set s).map id f
  removeDirectory : ∀ dir s, image.removeDirectory dir (f s) = f (host.removeDirectory dir s)
  spawn : ∀ set s, image.spawn set (f s) = (host.spawn set s).map id f
  isRunning : ∀ s, image.isRunning (f s) = host.isRunning s
  write : ∀ line s, image.write line (f s) = (host.write line s).map id f
  watch : ∀ timeout cancelled s, image.watch timeout cancelled (f s) = (host.watch timeout cancelled s).map f
  linger : ∀ s, image.linger (f s) = (host.linger s).map f
  arrived : ∀ s, image.arrived (f s) = (host.arrived s).map id f
  kill : ∀ s, image.kill (f s) = f (host.kill s)
  reap : ∀ s, image.reap (f s) = (host.reap s).map id f
  drop : ∀ s, image.drop (f s) = f (host.drop s)

section
variable {α β : Type} (f : α → β) (m : ControlMarkers)

theorem Dispatcher.await_map (w : Watch α) (d : Demux) :
    await m (w.map f) d = (await m w d).map id (Prod.map id f) := by
  induction w generalizing d with
  | «over» host => rfl
  | wake found host later ih =>
    rw [Watch.map, await, await]
    split
    · rfl
    · exact ih () _

theorem Dispatcher.awaitLate_map (w : Watch α) (d : Demux) :
    awaitLate m (w.map f) d = (awaitLate m w d).map id (Prod.map id f) := by
  induction w generalizing d with
  | «over» host => rfl
  | wake found host later ih =>
    rw [Watch.map, awaitLate, awaitLate]
    split
    · rfl
    · exact ih () _

end

namespace ShellHost.Maps

variable {α β : Type} {host : ShellHost α} {image : ShellHost β} {f : α → β} (h : host.Maps image f)
include h

section
variable (d : Dispatcher) (s : α)

theorem dispatcher_spawn (set : ScriptSet) (m : ControlMarkers) :
    Dispatcher.spawn image set m (f s) = (Dispatcher.spawn host set m s).map id f := by
  unfold Dispatcher.spawn
  rw [h.spawn]
  rcases host.spawn set s with ⟨e | u, s'⟩ <;> rfl

theorem dispatcher_listen : d.listen image (f s) = (d.listen host s).map id f := by
  unfold Dispatcher.listen
  rw [h.arrived]
  rfl

theorem checkAlive : d.checkAlive image (f s) = d.checkAlive host s := by
  rw [Dispatcher.checkAlive, h.isRunning]
  rfl

theorem dispatcher_runPhase (phase : Phase) (script : String) (timeout : Nat) (cancelled : Bool) :
    d.runPhase image phase script timeout cancelled (f s) =
      (d.runPhase host phase script timeout cancelled s).map id (Prod.map id f) := by
  unfold Dispatcher.runPhase
  rw [h.checkAlive]
  dsimp only
  split
  · rfl
  rw [h.dispatcher_listen]
  rcases (d.checkAlive host s).listen host s with ⟨d₁, s₁⟩
  simp only [Prod.map_apply, id, h.write]
  rcases host.write (d₁.markers.execLine script) s₁ with ⟨e | u, s₂⟩
  · rfl
  simp only [Prod.map_apply, id, h.watch, Dispatcher.await_map]
  rcases Dispatcher.await d₁.markers (host.watch timeout cancelled s₂) d₁.output.beginPhase with ⟨ending, output, s₃⟩
  cases ending with
  | exitCode code => rfl
  | cancelled | expired => simp only [Prod.map_apply, id, h.kill]
  | exited =>
    simp only [Prod.map_apply, id, h.linger, Dispatcher.awaitLate_map]
    rcases Dispatcher.awaitLate d₁.markers (host.linger s₃) output with ⟨_ | code, output', s₄⟩
    · simp only [Prod.map_apply, id, h.kill]
    · rfl

theorem dispatcher_shutdown : d.shutdown image (f s) = (d.shutdown host s).map id (Prod.map id f) := by
  unfold Dispatcher.shutdown
  have hexit : (if d.alive then (image.write d.markers.exitLine (f s)).2 else f s) =
      f (if d.alive then (host.write d.markers.exitLine s).2 else s) := by
    rw [h.write]
    cases d.alive <;> rfl
  simp only [hexit, h.reap, Prod.map_apply, Prod.map_fst, Prod.map_snd, id, h.dispatcher_listen, h.drop]

end

section
variable (r : ShellResetter) (s : α)

theorem listen : r.listen image (f s) = (r.listen host s).map id f := by
  unfold ShellResetter.listen
  cases r.dispatcher with
  | none => rfl
  | some d => simp only [h.dispatcher_listen, Prod.map_apply, Prod.map_fst, Prod.map_snd, id]

theorem dropDispatcher : r.dropDispatcher image (f s) = (r.dropDispatcher host s).map id f := by
  unfold ShellResetter.dropDispatcher
  cases r.dispatcher with
  | none => rfl
  | some d => simp only [h.listen, Prod.map_apply, Prod.map_fst, Prod.map_snd, id, h.drop]

theorem materialize (env : EnvSnapshot) : r.materialize image env (f s) = (r.materialize host env s).map id f := by
  unfold ShellResetter.materialize
  rw [h.makeDirectory]
  rcases host.makeDirectory s with ⟨e | dir, s₁⟩
  · rfl
  simp only [Prod.map_apply, id]
  cases ScriptSet.render dir r.scripts env r.markers with
  | error e => simp only [h.removeDirectory, Prod.map_apply, id]
  | ok set =>
    simp only [h.store]
    rcases host.store set s₁ with ⟨e | u, s₂⟩
    · simp only [h.removeDirectory, Prod.map_apply, id]
    · rfl

theorem removeFiles : r.removeFiles image (f s) = (r.removeFiles host s).map id f := by
  unfold ShellResetter.removeFiles
  cases r.files with
  | none => rfl
  | some held => simp only [h.removeDirectory, Prod.map_apply, id]

theorem renewFiles (env : EnvSnapshot) :
    r.renewFiles image env (f s) = (r.renewFiles host env s).map id (Prod.map id f) := by
  unfold ShellResetter.renewFiles
  rw [h.materialize]
  rcases r.materialize host env s with ⟨e | set, s₁⟩
  · rfl
  · simp only [Prod.map_apply, Prod.map_fst, Prod.map_snd, id, h.removeFiles]

theorem ensureFiles (env : EnvSnapshot) :
    r.ensureFiles image env (f s) = (r.ensureFiles host env s).map id (Prod.map id f) := by
  unfold ShellResetter.ensureFiles
  cases r.files with
  | none => exact h.renewFiles r s env
  | some held =>
    dsimp only
    split
    · rfl
    · rw [h.dropDispatcher]
      exact h.renewFiles _ _ env

theorem respawn (set : ScriptSet) :
    r.respawn image set (f s) = (r.respawn host set s).map id (Prod.map id f) := by
  unfold ShellResetter.respawn
  rw [h.listen]
  rcases r.listen host s with ⟨r₁, s₁⟩
  simp only [Prod.map_apply, id, h.dispatcher_spawn]
  rcases Dispatcher.spawn host set r₁.markers s₁ with ⟨e | d, s₂⟩
  · simp only [Prod.map_apply, Prod.map_fst, Prod.map_snd, id, h.dropDispatcher]
  · rfl

theorem takeDispatcher (set : ScriptSet) :
    r.takeDispatcher image set (f s) = (r.takeDispatcher host set s).map id (Prod.map id f) := by
  unfold ShellResetter.takeDispatcher
  cases r.dispatcher with
  | none => simp only [Option.map_none, h.dispatcher_spawn, Prod.map_apply, Prod.map_fst, Prod.map_snd, id]
  | some d =>
    simp only [Option.map_some, h.checkAlive]
    split
    · rfl
    · exact h.respawn r s set

theorem runOn (set : ScriptSet) (phase : Phase) (cancelled : Bool) :
    r.runOn image set phase cancelled (f s) = (r.runOn host set phase cancelled s).map id (Prod.map id f) := by
  unfold ShellResetter.runOn
  cases set.phasePath? phase with
  | none => rfl
  | some script =>
    simp only [h.takeDispatcher]
    rcases r.takeDispatcher host set s with ⟨e | d, r₁, s₁⟩
    · rfl
    simp only [Prod.map_apply, id, h.dispatcher_runPhase]
    rcases d.runPhase host phase script r₁.phaseTimeout cancelled s₁ with ⟨result, d', s₂⟩
    simp only [Prod.map_apply, id, h.checkAlive]
    split
    · rfl
    · simp only [h.dropDispatcher, Prod.map_apply, Prod.map_fst, Prod.map_snd, id]

theorem runPhase (phase : Phase) (env : EnvSnapshot) (cancelled : Bool) :
    r.runPhase image phase env cancelled (f s) =
      (r.runPhase host phase env cancelled s).map id (Prod.map id f) := by
  unfold ShellResetter.runPhase
  split
  · rfl
  rw [h.ensureFiles]
  rcases r.ensureFiles host env s with ⟨e | u, r₁, s₁⟩
  · rfl
  simp only [Prod.map_apply, id]
  cases r₁.files with
  | none => rfl
  | some held => simp only [h.runOn]

theorem runPhases (env : EnvSnapshot) (cancelled : Bool) (phases : List Phase) :
    ShellResetter.runPhases image env cancelled phases r (f s) =
      (ShellResetter.runPhases host env cancelled phases r s).map id (Prod.map id f) := by
  induction phases generalizing r s with
  | nil => rfl
  | cons phase rest ih =>
    rw [ShellResetter.runPhases, ShellResetter.runPhases, h.runPhase]
    rcases r.runPhase host phase env cancelled s with ⟨e | u, r₁, s₁⟩
    · rfl
    · exact ih _ s₁

theorem stopIfStarted (cancelled : Bool) :
    r.stopIfStarted image cancelled (f s) = (r.stopIfStarted host cancelled s).map id (Prod.map id f) := by
  unfold ShellResetter.stopIfStarted
  cases r.files with
  | none => rfl
  | some held =>
    dsimp only
    split
    · exact h.runPhases r s held.2 cancelled [.stop]
    · rfl

theorem shutdown : r.shutdown image (f s) = (r.shutdown host s).map id (Prod.map id f) := by
  unfold ShellResetter.shutdown
  cases r.dispatcher with
  | none => rfl
  | some d => simp only [h.dispatcher_shutdown, Prod.map_apply, Prod.map_fst, Prod.map_snd, id]

theorem reset (env : EnvSnapshot) (cancelled : Bool) :
    r.reset image env cancelled (f s) = (r.reset host env cancelled s).map id (Prod.map id f) := by
  unfold ShellResetter.reset
  cases r.scripts.planReset r.firstReset with
  | error e => rfl
  | ok plan =>
    simp only [h.runPhases]
    rcases ShellResetter.runPhases host env cancelled plan r s with ⟨e | u, r₁, s₁⟩ <;> rfl

theorem terminate (cancelled : Bool) :
    r.terminate image cancelled (f s) = (r.terminate host cancelled s).map id (Prod.map id f) := by
  unfold ShellResetter.terminate
  simp only [h.stopIfStarted, h.shutdown, h.removeFiles, Prod.map_apply, Prod.map_fst, Prod.map_snd, id]

/-- A request on the image of a host is answered as on the host itself. -/
theorem serve (request : LifecycleRequest α) :
    r.serve image (request.map f) = (r.serve host request).map id (Prod.map id f) := by
  cases request with
  | start env cancelled s => exact h.runPhases r s env cancelled [.start]
  | reset env cancelled s => exact h.reset r s env cancelled
  | stop env cancelled s => exact h.runPhases r s env cancelled [.stop]
  | terminate cancelled s => exact h.terminate r s cancelled

end

end ShellHost.Maps

/-! ## The log -/

/-- What was asked of a host. -/
inductive HostEvent where
  /-- A directory was made. -/
  | made (dir : String)
  /-- The files of a script set were written. -/
  | stored (set : ScriptSet)
  /-- A directory was removed, with everything in it. -/
  | removed (dir : String)
  /-- A shell was started on the dispatcher's script of a script set. -/
  | spawned (set : ScriptSet)
  /-- A line was to be written to the shell's input. -/
  | wrote (line : String)
  /-- The shell was given up. -/
  | dropped
deriving DecidableEq, Repr

/-- What is noted of an action that may fail: the event, if it does not. -/
def HostEvent.ofResult {α : Type} (event : α → HostEvent) : Except String α → List HostEvent
  | .ok a => [event a]
  | .error _ => []

/-- The same host, with a log. -/
def ShellHost.logging {ω : Type} (host : ShellHost ω) : ShellHost (ω × List HostEvent) where
  clock s := host.clock s.1
  passUntil time s := (host.passUntil time s.1, s.2)
  freshNonce s := ((host.freshNonce s.1).1, (host.freshNonce s.1).2, s.2)
  makeDirectory s :=
    ((host.makeDirectory s.1).1, (host.makeDirectory s.1).2,
      s.2 ++ HostEvent.ofResult .made (host.makeDirectory s.1).1)
  store set s :=
    ((host.store set s.1).1, (host.store set s.1).2,
      s.2 ++ HostEvent.ofResult (fun _ => .stored set) (host.store set s.1).1)
  removeDirectory dir s := (host.removeDirectory dir s.1, s.2 ++ [.removed dir])
  spawn set s :=
    ((host.spawn set s.1).1, (host.spawn set s.1).2,
      s.2 ++ HostEvent.ofResult (fun _ => .spawned set) (host.spawn set s.1).1)
  isRunning s := host.isRunning s.1
  write line s := ((host.write line s.1).1, (host.write line s.1).2, s.2 ++ [.wrote line])
  watch timeout cancelled s := (host.watch timeout cancelled s.1).map (·, s.2)
  linger s := (host.linger s.1).map (·, s.2)
  arrived s := ((host.arrived s.1).1, (host.arrived s.1).2, s.2)
  kill s := (host.kill s.1, s.2)
  reap s := ((host.reap s.1).1, (host.reap s.1).2, s.2)
  drop s := (host.drop s.1, s.2 ++ [.dropped])

theorem Watch.map_fst {ω : Type} (log : List HostEvent) (w : Watch ω) : (w.map (·, log)).map Prod.fst = w := by
  induction w with
  | «over» host => rfl
  | wake found host later ih =>
    rw [Watch.map, Watch.map]
    congr 1
    exact funext ih

/-- Forgetting the log gives the host back. -/
theorem ShellHost.maps_logging {ω : Type} (host : ShellHost ω) : host.logging.Maps host Prod.fst where
  makeDirectory _ := rfl
  store _ _ := rfl
  removeDirectory _ _ := rfl
  spawn _ _ := rfl
  isRunning _ := rfl
  write _ _ := rfl
  watch _ _ s := (Watch.map_fst s.2 _).symm
  linger s := (Watch.map_fst s.2 _).symm
  arrived _ := rfl
  kill _ := rfl
  reap _ := rfl
  drop _ := rfl

namespace ShellResetter

variable {ω : Type} (host : ShellHost ω)

/-- What a history of requests, the latest first, makes of a resetter, and the log of its host. Whatever happens to
the host between two requests, the log goes on. -/
def logged (r : ShellResetter) : List (LifecycleRequest ω) → ShellResetter × List HostEvent
  | [] => (r, [])
  | request :: earlier =>
    let before := logged r earlier
    let after := before.1.serve host.logging (request.map (·, before.2))
    (after.2.1, after.2.2.2)

theorem serve_logging (r : ShellResetter) (request : LifecycleRequest ω) (log : List HostEvent) :
    r.serve host request = (r.serve host.logging (request.map (·, log))).map id (Prod.map id Prod.fst) := by
  rw [← host.maps_logging.serve]
  cases request <;> rfl

/-- The log changes nothing. -/
theorem logged_fst (r : ShellResetter) (history : List (LifecycleRequest ω)) :
    (r.logged host history).1 = r.served host history := by
  induction history with
  | nil => rfl
  | cons request earlier ih =>
    rw [served, logged, ← ih, serve_logging host _ request (r.logged host earlier).2]
    rfl

end ShellResetter

end FuzzCampaign
