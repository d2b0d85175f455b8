import FuzzCampaign.Lifecycle.Dispatcher
import FuzzCampaign.Model
set_option autoImplicit false

/-! # The shell resetter

A resetter that runs the user's lifecycle scripts in one shell, so that what a phase exports is there in
the phases after it. Files and shell are made when the first phase needs them, files again when the
environment changes, the shell again when it is gone. Whether the system under test was started, and
whether the next reset is the first one, decide what a reset runs and what is left to do in the end. -/

namespace FuzzCampaign

/-- A shell resetter. -/
structure ShellResetter where
  scripts : LifecycleScripts
  /-- How long a phase may take, in nanoseconds. -/
  phaseTimeout : Nat
  markers : ControlMarkers
  /-- The files and the environment from which they were rendered. -/
  files : Option (ScriptSet × EnvSnapshot) := none
  dispatcher : Option Dispatcher := none
  /-- Whether the next reset is the first one. -/
  firstReset : Bool := true
  /-- Whether a start succeeded and no stop after it. -/
  started : Bool := false
  /-- What the scripts printed, in order. -/
  shown : List SinkEvent := []
  /-- The phases attempted, in order, with their results. -/
  attempted : List (Phase × Except CampaignError Unit) := []

namespace ShellResetter

/-! ## Dispatcher and files -/

/-- What a dispatcher printed goes over to the resetter. -/
def collect (r : ShellResetter) (d : Dispatcher) : ShellResetter × Dispatcher :=
  ({ r with shown := r.shown ++ d.output.shown }, { d with output := { d.output with shown := [] } })

variable {ω : Type} (host : ShellHost ω)

/-- Read what arrived from the dispatcher. -/
def listen (r : ShellResetter) (s : ω) : ShellResetter × ω :=
  match r.dispatcher with
  | none => (r, s)
  | some d =>
    let (d, s) := d.listen host s
    let (r, d) := r.collect d
    ({ r with dispatcher := some d }, s)

/-- Give the dispatcher up. -/
def dropDispatcher (r : ShellResetter) (s : ω) : ShellResetter × ω :=
  match r.dispatcher with
  | none => (r, s)
  | some _ =>
    let (r, s) := r.listen host s
    ({ r with dispatcher := none }, host.drop s)

/-- The error of a script set that could not be written. -/
def notWritten (reason : String) : CampaignError := .phase "materialize" reason

/-- Write the script set of an environment to a directory of its own. -/
def materialize (r : ShellResetter) (env : EnvSnapshot) (s : ω) : Except CampaignError ScriptSet × ω :=
  match host.makeDirectory s with
  | (.error reason, s) => (.error (notWritten reason), s)
  | (.ok dir, s) =>
    match ScriptSet.render dir r.scripts env r.markers with
    | .error e => (.error e, host.removeDirectory dir s)
    | .ok set =>
      match host.store set s with
      | (.error reason, s) => (.error (notWritten reason), host.removeDirectory dir s)
      | (.ok (), s) => (.ok set, s)

/-- Remove the files that are held. -/
def removeFiles (r : ShellResetter) (s : ω) : ShellResetter × ω :=
  match r.files with
  | none => (r, s)
  | some (set, _) => ({ r with files := none }, host.removeDirectory set.dir s)

/-- Write the files of an environment and hold them; files that cannot be replaced are kept. -/
def renewFiles (r : ShellResetter) (env : EnvSnapshot) (s : ω) :
    Except CampaignError Unit × ShellResetter × ω :=
  match r.materialize host env s with
  | (.error e, s) => (.error e, r, s)
  | (.ok set, s) =>
    let (r, s) := r.removeFiles host s
    (.ok (), { r with files := some (set, env) }, s)

/-- Have the files of an environment. When files of another one are held the dispatcher is given up first. -/
def ensureFiles (r : ShellResetter) (env : EnvSnapshot) (s : ω) :
    Except CampaignError Unit × ShellResetter × ω :=
  match r.files with
  | none => r.renewFiles host env s
  | some (_, current) =>
    if current = env then (.ok (), r, s)
    else
      let (r, s) := r.dropDispatcher host s
      r.renewFiles host env s

/-- The error of a phase without a script. -/
def notDefined (phase : Phase) : CampaignError := .config ("no " ++ phase.name ++ " script is defined")

/-- Start a dispatcher in the place of one that is gone. -/
def respawn (r : ShellResetter) (set : ScriptSet) (s : ω) : Except CampaignError Dispatcher × ShellResetter × ω :=
  let (r, s) := r.listen host s
  match Dispatcher.spawn host set r.markers s with
  | (.ok d, s) => (.ok d, { r with dispatcher := none }, s)
  | (.error e, s) =>
    let (r, s) := r.dropDispatcher host s
    (.error e, r, s)

/-- A dispatcher that runs, started when there is none or it is gone. It is no longer held by the resetter. -/
def takeDispatcher (r : ShellResetter) (set : ScriptSet) (s : ω) :
    Except CampaignError Dispatcher × ShellResetter × ω :=
  match r.dispatcher.map fun d => d.checkAlive host s with
  | none =>
    let (d, s) := Dispatcher.spawn host set r.markers s
    (d, r, s)
  | some d =>
    if d.alive then (.ok d, { r with dispatcher := none }, s) else r.respawn host set s

/-! ## Phases -/

/-- Run a phase whose files are there. -/
def runOn (r : ShellResetter) (set : ScriptSet) (phase : Phase) (cancelled : Bool) (s : ω) :
    Except CampaignError Unit × ShellResetter × ω :=
  match set.phasePath? phase with
  | none => (.error (notDefined phase), r, s)
  | some script =>
    match r.takeDispatcher host set s with
    | (.error e, r, s) => (.error e, r, s)
    | (.ok d, r, s) =>
      let (result, d, s) := d.runPhase host phase script r.phaseTimeout cancelled s
      let (r, d) := r.collect (d.checkAlive host s)
      let r := { r with dispatcher := some d }
      if d.alive then (result, r, s)
      else
        let (r, s) := r.dropDispatcher host s
        (result, r, s)

/-- Run a phase in an environment. -/
def runPhase (r : ShellResetter) (phase : Phase) (env : EnvSnapshot) (cancelled : Bool) (s : ω) :
    Except CampaignError Unit × ShellResetter × ω :=
  if !r.scripts.has phase then (.error (notDefined phase), r, s)
  else
    match r.ensureFiles host env s with
    | (.error e, r, s) => (.error e, r, s)
    | (.ok (), r, s) =>
      match r.files with
      | none => (.error (.phase phase.name "lifecycle scripts missing"), r, s)
      | some (set, _) => r.runOn host set phase cancelled s

/-- What a phase that succeeded changes. -/
def succeeded (r : ShellResetter) : Phase → ShellResetter
  | .start => { r with started := true, firstReset := false }
  | .stop => { r with started := false }
  | .reset => r

/-- Run phases in order, up to the first that fails. -/
def runPhases (env : EnvSnapshot) (cancelled : Bool) :
    List Phase → ShellResetter → ω → Except CampaignError Unit × ShellResetter × ω
  | [], r, s => (.ok (), r, s)
  | phase :: rest, r, s =>
    let (result, r, s) := r.runPhase host phase env cancelled s
    let r := { r with attempted := r.attempted ++ [(phase, result)] }
    match result with
    | .error e => (.error e, r, s)
    | .ok () => runPhases env cancelled rest (r.succeeded phase) s

/-! ## Requests -/

/-- Start the system under test. -/
def start (r : ShellResetter) (env : EnvSnapshot) (cancelled : Bool) (s : ω) :
    Except CampaignError Unit × ShellResetter × ω :=
  runPhases host env cancelled [.start] r s

/-- Stop the system under test. -/
def stop (r : ShellResetter) (env : EnvSnapshot) (cancelled : Bool) (s : ω) :
    Except CampaignError Unit × ShellResetter × ω :=
  runPhases host env cancelled [.stop] r s

/-- Reset the system under test. -/
def reset (r : ShellResetter) (env : EnvSnapshot) (cancelled : Bool) (s : ω) :
    Except CampaignError Unit × ShellResetter × ω :=
  match r.scripts.planReset r.firstReset with
  | .error e => (.error e, r, s)
  | .ok plan =>
    match runPhases host env cancelled plan r s with
    | (.error e, r, s) => (.error e, r, s)
    | (.ok (), r, s) => (.ok (), { r with firstReset := false }, s)

/-- Stop the system under test if it was started and can be stopped. -/
def stopIfStarted (r : ShellResetter) (cancelled : Bool) (s : ω) :
    Except CampaignError Unit × ShellResetter × ω :=
  match r.files with
  | some (_, env) =>
    if r.started && r.scripts.has .stop then r.stop host env cancelled s else (.ok (), r, s)
  | none => (.ok (), r, s)

/-- Shut the dispatcher down if there is one. -/
def shutdown (r : ShellResetter) (s : ω) : Except CampaignError Unit × ShellResetter × ω :=
  match r.dispatcher with
  | none => (.ok (), r, s)
  | some d =>
    let (result, d, s) := d.shutdown host s
    let (r, _) := r.collect d
    (result, { r with dispatcher := none }, s)

/-- The first error of two results. -/
def firstError (first second : Except CampaignError Unit) : Except CampaignError Unit :=
  match first with
  | .error e => .error e
  | .ok () => second

/-- Stop the system under test if it was started, shut the dispatcher down and remove the files. The
first error is answered, and none of them leaves anything undone. -/
def terminate (r : ShellResetter) (cancelled : Bool) (s : ω) :
    Except CampaignError Unit × ShellResetter × ω :=
  let (stopped, r, s) := r.stopIfStarted host cancelled s
  let (down, r, s) := r.shutdown host s
  let (r, s) := r.removeFiles host s
  (firstError stopped down, { r with started := false, firstReset := true }, s)

/-- How the resetter describes itself. -/
def descriptor (r : ShellResetter) : ResetterDescriptor :=
  .shell r.scripts.start r.scripts.reset r.scripts.stop

/-- A new resetter. -/
def build (scripts : LifecycleScripts) (phaseTimeout : Nat) (s : ω) : ShellResetter × ω :=
  let (nonce, s) := host.freshNonce s
  ({ scripts, phaseTimeout, markers := ⟨nonce⟩ }, s)

/-! ## As a lifecycle -/

/-- What a request did to its surroundings since an instant. -/
def effects (before after : ShellResetter) (since : Nat) (s : ω) : Effects ω :=
  { nudge := { pause := host.clock s - since }, shown := after.shown.drop before.shown.length, outside := s }

/-- The lifecycle that scripts make in the host, which is what lies outside. -/
def lifecycle (scripts : LifecycleScripts) (phaseTimeout : Nat) : Lifecycle ShellResetter ω where
  build := fun _ s =>
    let (r, s) := build host scripts phaseTimeout s
    (.ok (), { outside := s }, r)
  descriptor := descriptor
  reset := fun env cancelled now r s =>
    let s := host.passUntil now s
    let (result, after, s) := r.reset host env cancelled s
    (result, effects host r after now s, after)
  terminate := fun now r s =>
    let s := host.passUntil now s
    let (result, after, s) := r.terminate host false s
    (result, effects host r after now s, after)

end ShellResetter

end FuzzCampaign
