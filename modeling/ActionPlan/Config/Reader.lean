import ActionPlan.Config.Basic
import ActionPlan.Toml.Reader

/-!
# Reading the Configuration

Settings are read from a TOML document. Every section and every setting may be left out,
and what has no place in the configuration is skipped. A temperature may be written as an
integer; a count may not be written as a float.

A section is a table, or a list of settings without their names, in which each place
belongs to one setting.

## Main definitions

* `ConfigError`: Why there is no configuration.
* `Config.Section`: The settings of one part of the configuration.
* `Config.ofText`: The configuration in a text.
-/

namespace ActionPlan

/-- Why there is no configuration. -/
inductive ConfigError
  | malformed
  | outOfRange (setting : OutOfRange)

/-- The text of a configuration error. -/
def ConfigError.message : ConfigError → String
  | .malformed => "invalid config"
  | .outOfRange setting => setting.message

namespace Config

open Toml (Entries Value)

/-- The settings of one part of the configuration, by name or by place. -/
inductive Section
  | named (entries : Entries)
  | listed (values : List Value)

/-- The value of the setting with a name and a place. -/
def Section.value? (name : String) (place : Nat) : Section → Option Value
  | .named entries => entries.lookup name
  | .listed values => values[place]?

/-- A setting that may be left out, of a type that `read?` knows. -/
def setting? {α : Type} (read? : Value → Option α) (default : α) (name : String) (place : Nat)
    (part : Section) : Option α :=
  match part.value? name place with
  | some v => read? v
  | none => some default

/-- A truth value. -/
def boolean? : Value → Option Bool
  | .boolean b => some b
  | _ => none

/-- A count. -/
def count? : Value → Option Nat
  | .integer n => if 0 ≤ n then some n.toNat else none
  | _ => none

/-- A text. -/
def string? : Value → Option String
  | .string s => some s
  | _ => none

/-- A number, which may be an integer. -/
def number? : Value → Option Binary64
  | .float x => some x
  | .integer n => some (.ofNat (n < 0) n.natAbs)
  | _ => none

/-- The entries of a table in any of its forms. -/
def entries? : Value → Option Entries
  | .table _ es => some es
  | .inlineTable _ es => some es
  | _ => none

/-- A choice: its name, or a table with its name as the only key and nothing below. -/
def onFailure? (v : Value) : Option OnFailure :=
  match v, entries? v with
  | .string s, _ => OnFailure.ofName? s
  | _, some [(name, .array [])] => OnFailure.ofName? name
  | _, some [(name, inner)] =>
    if entries? inner matches some [] then OnFailure.ofName? name else none
  | _, _ => none

/-- The settings in a value. A moment has parts of its own, but none of them is a setting. -/
def section? : Value → Option Section
  | .array values => some (.listed values)
  | .tables all => some (.listed (all.map (.table .header)))
  | .moment _ => some (.named [])
  | v => (entries? v).map .named

/-- The section with a name. -/
def part? (name : String) (es : Entries) : Option Section :=
  match es.lookup name with
  | some v => section? v
  | none => some (.named [])

/-- The settings of planning. -/
def planner? (part : Section) : Option PlannerConfig := do
  let default : PlannerConfig := {}
  return {
    useModel := ← setting? boolean? default.useModel "use_llm" 0 part
    maxActions := ← setting? count? default.maxActions "max_actions_per_plan" 1 part
    maxDepth := ← setting? count? default.maxDepth "max_decomposition_depth" 2 part }

/-- The settings of the model. -/
def model? (part : Section) : Option ModelConfig := do
  let default : ModelConfig := {}
  return {
    address := ← setting? string? default.address "base_url" 0 part
    model := ← setting? string? default.model "model" 1 part
    temperature := ← setting? number? default.temperature "temperature" 2 part
    timeoutSeconds := ← setting? count? default.timeoutSeconds "timeout_secs" 3 part }

/-- The configuration in a document, whatever its ranges. -/
def ofEntries? (es : Entries) : Option Config := do
  let default : Config := {}
  return {
    planner := ← planner? (← part? "planner" es)
    onFailure := ← setting? onFailure? default.onFailure "on_llm_failure" 0 (← part? "fallback" es)
    model := ← model? (← part? "llm" es)
    root := ← setting? string? default.root "root" 0 (← part? "workspace" es) }

/-- The configuration in a text. -/
def ofText (text : String) : Except ConfigError Config :=
  match Toml.Document.ofText? text >>= ofEntries? with
  | none => .error .malformed
  | some config =>
    match config.validate with
    | .ok () => .ok config
    | .error setting => .error (.outOfRange setting)

end Config

end ActionPlan
