import FuzzCampaign.Campaign.Descriptor
import FuzzCampaign.Lifecycle.Markers
import FuzzCampaign.Lifecycle.Scripts
import FuzzCampaign.Text.Quoted
set_option autoImplicit false

/-! # Rendered scripts

The script of a phase sets the strict mode, declares the environment snapshot read-only, turns the
execution trace on and runs the user's text; then it saves what was exported. The dispatcher reads control
lines and runs phase scripts in subshells; it takes over what a successful phase exported. Text of the
user is quoted so that it stands for itself. -/

namespace FuzzCampaign.Lifecycle

/-- A single quote. -/
def quoteMark : Char := '\x27'

/-- A character inside single quotes; a single quote ends them, stands escaped, and begins them again. -/
def shellQuoteChar (c : Char) : List Char :=
  if c = quoteMark then [quoteMark, '\\', quoteMark, quoteMark] else [c]

/-- A text as one word of a shell script. -/
def shellQuote (value : String) : String :=
  String.ofList (quoteMark :: value.toList.flatMap shellQuoteChar ++ [quoteMark])

/-- Whether a text is a name that a shell variable can have. -/
def isVariableName (name : String) : Bool :=
  match name.toList with
  | [] => false
  | c :: rest => (c.isAlpha || c == '_') && rest.all fun c => c.isAlphanum || c == '_'

/-- The error of a variable that no shell can have. -/
def notAVariable (name : String) : CampaignError :=
  .config ("environment variable name " ++ Text.quoted name ++ " is not a valid shell identifier")

/-- The read-only declarations of an environment. -/
def declarations : List (String × String) → Except CampaignError String
  | [] => .ok ""
  | (name, value) :: rest =>
    if isVariableName name then
      match declarations rest with
      | .ok text => .ok ("declare -rx " ++ name ++ "=" ++ shellQuote value ++ "\n" ++ text)
      | .error e => .error e
    else .error (notAVariable name)

/-- The strict mode. -/
def strictMode : String := "set -o errexit\nset -o errtrace\nset -o nounset\nset -o pipefail\n"

/-- The script of a phase. -/
def phaseScript (phase : Phase) (body : String) (env : EnvSnapshot) (exportsFile : String) :
    Except CampaignError String :=
  match declarations env.entries with
  | .error e => .error e
  | .ok declared =>
    .ok ("# " ++ phase.name ++ " phase\n" ++ strictMode ++ declared ++
      "PS4=" ++ shellQuote ControlMarkers.tracePrompt ++ "\nset -o xtrace\n" ++
      body ++ (if body.toList.getLast? = some '\n' then "" else "\n") ++
      "\x7b set +o xtrace; \x7d 2>/dev/null\n" ++
      "export -p | grep -v -E '^declare -[a-zA-Z]*r[a-zA-Z]* ' > " ++ shellQuote exportsFile ++
      " || true\n")

/-- The loop of the dispatcher. -/
def dispatcherLoop : String := "while IFS= read -r __line; do
  case \"$__line\" in
    \"$__exit_marker\")
      break
      ;;
    \"$__exec_marker\"*)
      __script=\"$\x7b__line#\"$__exec_marker\"\x7d\"
      : > \"$__exports_file\"
      ( source \"$__script\" ) </dev/null 2>&1
      __code=$?
      if [ \"$__code\" -eq 0 ] && [ -s \"$__exports_file\" ]; then
        source \"$__exports_file\"
      fi
      printf '%s%d\\n' \"$__exitcode_marker\" \"$__code\"
      ;;
    *)
      printf 'unexpected control line: %s\\n' \"$__line\"
      ;;
  esac
done
"

/-- The script of the dispatcher. -/
def dispatcherScript (markers : ControlMarkers) (exportsFile : String) : String :=
  "# lifecycle dispatcher\nset -o nounset\n" ++
  "__exec_marker=" ++ shellQuote markers.exec ++ "\n" ++
  "__exit_marker=" ++ shellQuote markers.exit ++ "\n" ++
  "__exitcode_marker=" ++ shellQuote markers.exitCode ++ "\n" ++
  "__exports_file=" ++ shellQuote exportsFile ++ "\n" ++ dispatcherLoop

end FuzzCampaign.Lifecycle
