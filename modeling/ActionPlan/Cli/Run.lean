import ActionPlan.Cli.Arguments
import ActionPlan.Config.Reader
import ActionPlan.Graph.Json
import ActionPlan.Graph.Render
import ActionPlan.Path.Sandbox
import ActionPlan.Planner

/-!
# Running a Command

A run ends in graphs that are printed, in a refusal, or in an error. What a run needs from
outside, which is the text of a file and the answers of a model, comes in as functions, so
that the whole run is the same with a real system and with one that is merely described.

## Main definitions

* `Cli.Outcome`: How a run ends.
* `Cli.Surroundings`: What a run needs from outside.
* `Cli.run`: A run with a list of arguments.
-/

namespace ActionPlan

namespace Cli

/-- How a run ends. -/
inductive Outcome
  | printed (text : String)
  | failed (message : String)
  | refused
  | misused
  deriving DecidableEq

namespace Outcome

/-- The exit code. -/
def exitCode : Outcome → Nat
  | .printed _ => 0
  | .failed _ => 1
  | .refused => 2
  | .misused => 2

/-- The summary of the command line, for one that is misused. -/
def usage : String :=
  "Usage: plan-compiler [OPTIONS] <INSTRUCTION>..."

/-- What is printed. -/
def output : Outcome → String
  | .printed text => text ++ "\n"
  | _ => ""

/-- The line of complaint, if there is one. -/
def complaint? (color : Bool) : Outcome → Option String
  | .printed _ => none
  | .failed message => some (Style.boldRed.paint color "error" ++ ": " ++ message)
  | .refused =>
    some (Style.red.paint color "✗" ++ " instruction was rejected, nothing to execute")
  | .misused => some usage

end Outcome

/-- The help that can be asked for. -/
def help : String :=
  "\n".intercalate
    [ "Compile an automation instruction into validated plan graphs",
      "",
      Outcome.usage,
      "",
      "Arguments:",
      "  <INSTRUCTION>...  Instruction to compile",
      "",
      "Options:",
      "  -c, --config <CONFIG>  TOML config file (defaults are used when omitted)",
      "      --deterministic    Skip the model and use the pattern planner",
      "      --json             Print graphs as JSON instead of a tree",
      "  -h, --help             Print help" ]

/-- What a run needs from outside. -/
structure Surroundings (m : Type → Type) where
  /-- The text of a file, or the reason why it cannot be read. -/
  fileText : String → m (Except String String)
  /-- The reply of the model that a configuration names. -/
  client : ModelConfig → Request → m Reply
  /-- What is on the disk. -/
  disk : Disk
  /-- The output takes colour. -/
  color : Bool

variable {m : Type → Type} [Monad m]

/-- The configuration in the file, if one is named. -/
def loadConfig (surroundings : Surroundings m) :
    Option String → m (Except String Config)
  | none => return .ok {}
  | some path => do
    match ← surroundings.fileText path with
    | .error reason => return .error ("cannot read config " ++ path ++ ": " ++ reason)
    | .ok text =>
      match Config.ofText text with
      | .error e => return .error e.message
      | .ok config => return .ok config

/-- The configuration with the model switched off, if that was asked for. -/
def Arguments.adjust (arguments : Arguments) (config : Config) : Config :=
  if arguments.deterministic then
    { config with planner := { config.planner with useModel := false } }
  else config

/-- The planner of a configuration, which has a model if it wants one. -/
def plannerOf (disk : Disk) (config : Config) : Planner where
  config := config
  hasClient := config.planner.useModel
  rule := (Sandbox.below disk config.root).validate

/-- The graphs as they are printed. -/
def present (arguments : Arguments) (color : Bool) (graphs : List Graph) : String :=
  if arguments.json then graphsToJson graphs else renderGraphs color graphs

/-- The instruction compiled. No graph at all is a refusal. -/
def compile (surroundings : Surroundings m) (arguments : Arguments) : m Outcome := do
  match ← loadConfig surroundings arguments.configPath with
  | .error message => return .failed message
  | .ok config =>
    let config := arguments.adjust config
    let planner := plannerOf surroundings.disk config
    let instruction := " ".intercalate arguments.words
    match ← planner.createGraphs (surroundings.client config.model) instruction [] with
    | .error e => return .failed e.message
    | .ok [] => return .refused
    | .ok graphs => return .printed (present arguments surroundings.color graphs)

/-- A run with a list of arguments. -/
def run (surroundings : Surroundings m) (arguments : List String) : m Outcome :=
  match Command.ofArguments? arguments with
  | none => return .misused
  | some .help => return .printed help
  | some (.compile arguments) => compile surroundings arguments

end Cli

end ActionPlan
