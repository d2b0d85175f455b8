import FuzzCampaign.Lifecycle.Rendering
set_option autoImplicit false

/-! # Script sets

The files of one dispatcher: its own script and a script for every phase that is defined, in a directory
of their own. They are rendered from one environment snapshot. -/

namespace FuzzCampaign

/-- The files of one dispatcher. -/
structure ScriptSet where
  /-- The path of the directory. -/
  dir : String
  /-- The script of each defined phase, in the order of the phases. -/
  phases : List (Phase × String)
  /-- The script of the dispatcher. -/
  dispatcher : String
deriving DecidableEq, Repr

namespace ScriptSet

/-- The path of a file of the directory. -/
def fileIn (dir name : String) : String := dir ++ "/" ++ name

/-- The name of the file of a phase. -/
def phaseFile (phase : Phase) : String := phase.name ++ ".bash"

/-- The name of the dispatcher's file. -/
def dispatcherFile : String := "dispatcher.bash"

/-- The name of the file that exports are saved to. -/
def exportsFile : String := "exports.bash"

/-- The scripts of the defined ones among some phases. -/
def renderPhases (scripts : LifecycleScripts) (env : EnvSnapshot) (exports : String) :
    List Phase → Except CampaignError (List (Phase × String))
  | [] => .ok []
  | phase :: rest =>
    match scripts.get? phase with
    | none => renderPhases scripts env exports rest
    | some body =>
      match Lifecycle.phaseScript phase body env exports with
      | .error e => .error e
      | .ok script =>
        match renderPhases scripts env exports rest with
        | .error e => .error e
        | .ok others => .ok ((phase, script) :: others)

/-- Render the files of a directory. -/
def render (dir : String) (scripts : LifecycleScripts) (env : EnvSnapshot) (markers : ControlMarkers) :
    Except CampaignError ScriptSet :=
  let exports := fileIn dir exportsFile
  match renderPhases scripts env exports Phase.all with
  | .error e => .error e
  | .ok phases => .ok ⟨dir, phases, Lifecycle.dispatcherScript markers exports⟩

/-- The path of the script of a phase, when it is defined. -/
def phasePath? (set : ScriptSet) (phase : Phase) : Option String :=
  if set.phases.any fun (p, _) => p = phase then some (fileIn set.dir (phaseFile phase)) else none

/-- The path of the dispatcher's script. -/
def dispatcherPath (set : ScriptSet) : String := fileIn set.dir dispatcherFile

/-- Name and content of every file, by name. -/
def files (set : ScriptSet) : List (String × String) :=
  Entries.ofList ((dispatcherFile, set.dispatcher) :: set.phases.map fun (p, text) => (phaseFile p, text))

end ScriptSet

end FuzzCampaign
