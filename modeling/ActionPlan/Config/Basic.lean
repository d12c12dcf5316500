import ActionPlan.Decimal.Layout

/-!
# Configuration

The settings of the planner, each with a default, and the ranges that some of them have
to lie in.

## Main definitions

* `Config`: All settings, by section.
* `Config.validate`: The first setting that is out of its range.
-/

namespace ActionPlan

/-- What to do when the model fails to produce a usable plan. -/
inductive OnFailure
  | abort
  | deterministic
  deriving DecidableEq

namespace OnFailure

/-- The name of a choice. -/
def name : OnFailure → String
  | .abort => "abort"
  | .deterministic => "deterministic"

/-- The choice with a name. -/
def ofName? (s : String) : Option OnFailure :=
  [abort, deterministic].find? (·.name == s)

end OnFailure

/-- The settings of planning. -/
structure PlannerConfig where
  useModel : Bool := true
  maxActions : Nat := 15
  maxDepth : Nat := 8
  deriving DecidableEq

/-- The settings of the model. -/
structure ModelConfig where
  address : String := "http://localhost:11434"
  model : String := "llama3.2"
  temperature : Binary64 := .ofDecimal false 1 (-1)
  timeoutSeconds : Nat := 30
  deriving DecidableEq

/-- All settings. -/
structure Config where
  planner : PlannerConfig := {}
  onFailure : OnFailure := .abort
  model : ModelConfig := {}
  root : String := "./workspace"
  deriving DecidableEq

/-- A setting that is out of its range. -/
structure OutOfRange where
  field : String
  value : String
  range : String
  deriving DecidableEq

/-- The text of a setting that is out of its range. -/
def OutOfRange.message (e : OutOfRange) : String :=
  e.field ++ " = " ++ e.value ++ " is out of range (" ++ e.range ++ ")"

namespace Config

/-- Settings are written without exponent and without a fraction of zero. -/
def settingLayout : Decimal.Layout where
  positional := none
  pointZero := false
  plusSign := false
  tie := .upward

/-- A number between two bounds. -/
def checkNat (field : String) (value low high : Nat) : Except OutOfRange Unit :=
  if low ≤ value && value ≤ high then .ok ()
  else .error ⟨field, toString value, toString low ++ "..=" ++ toString high⟩

/-- A temperature between zero and two. -/
def checkTemperature (value : Binary64) : Except OutOfRange Unit :=
  if value.isAtMost 2 then .ok ()
  else .error ⟨"llm.temperature", settingLayout.text value, "0.0..=2.0"⟩

/-- The first setting that is out of its range, if there is one. -/
def validate (config : Config) : Except OutOfRange Unit := do
  checkNat "planner.max_actions_per_plan" config.planner.maxActions 1 100
  checkNat "planner.max_decomposition_depth" config.planner.maxDepth 1 64
  checkTemperature config.model.temperature
  checkNat "llm.timeout_secs" config.model.timeoutSeconds 5 300

end Config

end ActionPlan
