import FuzzCampaign.CommandLine.Arguments
import FuzzCampaign.CommandLine.Log
import FuzzCampaign.Config
import FuzzCampaign.Lifecycle.ShellResetter
import FuzzCampaign.Text.Quoted
set_option autoImplicit false

/-! # Runs of the program

A run logs events, the lines that scripts print among them, and ends well or with an error. After a
lifecycle request, whatever came of it, what it started is stopped again; of two errors the request's own
is the one that the run ends with. -/

namespace FuzzCampaign.CommandLine

/-! ## Errors -/

/-- Texts as a list. -/
def quotedList (texts : List String) : String := "[" ++ ", ".intercalate (texts.map Text.quoted) ++ "]"

/-- An error with everything that it holds, as a run ends with it. -/
def failureText : CampaignError → String
  | .reset phase code message tail =>
    let codeText := match code with
      | some n => "Some(" ++ toString n ++ ")"
      | none => "None"
    "Reset \x7b phase: " ++ Text.quoted phase ++ ", exit_code: " ++ codeText ++ ", message: " ++
      Text.quoted message ++ ", output_tail: " ++ quotedList tail ++ " \x7d"
  | e@(.config m) | e@(.transport m) | e@(.directive m) | e@(.check m) | e@(.io m) | e@(.cancelled m) =>
    e.kind ++ "(" ++ Text.quoted m ++ ")"

/-! ## Commands -/

/-- What a run logs and how it ends. -/
structure Report where
  events : List LogEvent
  result : Except CampaignError Unit

/-- Tell the plans of a configuration's resets. -/
def lint (config : Config) : Report :=
  let scripts := config.resetter.scripts
  let valid : LogEvent := { message := "configuration is valid" }
  if scripts.isEmpty then
    ⟨[{ level := .warn, message := "no lifecycle scripts defined; the noop resetter will be used" }, valid],
      .ok ()⟩
  else
    match scripts.planReset true, scripts.planReset false with
    | .error e, _ => ⟨[], .error e⟩
    | .ok first, .error e => ⟨[{ message := "first reset plan", plan := some first }], .error e⟩
    | .ok first, .ok later =>
      ⟨[{ message := "first reset plan", plan := some first },
        { message := "subsequent reset plan", plan := some later }, valid], .ok ()⟩

section

variable {ω : Type} (host : ShellHost ω)

/-- Make the request of a phase. -/
def request (phase : Phase) (r : ShellResetter) (env : EnvSnapshot) (s : ω) :
    Except CampaignError Unit × ShellResetter × ω :=
  match phase with
  | .start => r.start host env false s
  | .reset => r.reset host env false s
  | .stop => r.stop host env false s

/-- Make a request, then stop what it started. -/
def exec (config : Config) (phase : Phase) (env : EnvSnapshot) (s : ω) : Report :=
  let (r, s) := ShellResetter.build host config.resetter.scripts config.phaseTimeout s
  let (requested, r, s) := request host phase r env s
  let (terminated, after, _) := r.terminate host false s
  let failed : List LogEvent := match requested with
    | .error _ => [{ level := .error, message := "lifecycle request failed", phase := some phase }]
    | .ok () => []
  let result := ShellResetter.firstError requested terminated
  let completed : List LogEvent := match result with
    | .error _ => []
    | .ok () => [{ message := "lifecycle request completed", phase := some phase }]
  ⟨outputEvents r.shown ++ failed ++ outputEvents (after.shown.drop r.shown.length) ++ completed, result⟩

/-! ## Runs -/

/-- The configuration in a file with a content, or with the reason why it cannot be read. -/
def loadConfig (content : Except String (List UInt8)) : Except CampaignError Config :=
  match content with
  | .error reason => .error (.config ("failed to read config: " ++ reason))
  | .ok bytes =>
    match Text.decode? bytes with
    | none => .error (.config "failed to read config: stream did not contain valid UTF-8")
    | some text => Config.parse text

/-- Carry out a command with the content of the configuration's file; `read` tells the value of an
environment variable. -/
def run (command : Command) (content : Except String (List UInt8)) (read : String → Option (List UInt8))
    (s : ω) : Report :=
  match loadConfig content with
  | .error e => ⟨[], .error e⟩
  | .ok config =>
    let report := match command with
      | .lint => lint config
      | .exec phase => exec host config phase (config.captureEnv read) s
    { report with events := { message := "configuration loaded" } :: report.events }

/-! ## Outcomes -/

/-- What a run comes to for the one who asked for it. -/
structure Outcome where
  /-- The exit status. -/
  status : Nat := 0
  /-- What is written to the standard output besides the log. -/
  output : String := ""
  /-- What is written to the standard error. -/
  complaint : String := ""
  format : LogFormat := .text
  events : List LogEvent := []

/-- What help says. -/
def helpText : String :=
  "Fuzzing campaign client tooling\n\nUsage: campaign-client [OPTIONS] --config <CONFIG> <COMMAND>\n\n" ++
  "Commands:\n  exec  Run one lifecycle request (start, reset or stop), then tear it down\n" ++
  "  lint  Validate the configuration and the lifecycle script combination\n" ++
  "  help  Print this message\n\n" ++
  "Options:\n      --config <CONFIG>          Path to the TOML configuration file\n" ++
  "      --log-format <LOG_FORMAT>  Log output format [default: text] [possible values: text, json]\n" ++
  "  -h, --help                     Print help\n  -V, --version                  Print version\n"

/-- What the program calls itself. -/
def versionText : String := "campaign-client " ++ currentVersion ++ "\n"

/-- The outcome of a report. -/
def Report.outcome (r : Report) (format : LogFormat) : Outcome :=
  match r.result with
  | .ok () => { format, events := r.events }
  | .error e => { status := 1, complaint := "Error: " ++ failureText e, format, events := r.events }

/-- Do what the words after the program's name ask for; `fileContent` tells the content of a file. -/
def perform (words : List String) (fileContent : String → Except String (List UInt8))
    (read : String → Option (List UInt8)) (s : ω) : Outcome :=
  match Instruction.ofWords words with
  | .error e => { status := 2, complaint := "error: " ++ e.message }
  | .ok .help => { output := helpText }
  | .ok .version => { output := versionText }
  | .ok (.run a) => (run host a.command (fileContent a.config) read s).outcome a.format

end

end FuzzCampaign.CommandLine
