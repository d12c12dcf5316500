import ActionPlan.Instruction.Wording
import ActionPlan.Item.Basic

/-!
# Requested Actions

A model may add steps that nobody asked for. An action that changes something is kept
only if the instruction contains a word that grounds its type. Words are looked for as
parts of the text, so `press` grounds a click in an instruction about an express.

Writing a file needs no such word when the instruction speaks of creating one.
Observations and helpers change nothing and are always kept.

## Main definitions

* `ActionKind.groundingWords`: The words that ground a type.
* `ActionKind.isGrounded`: The instruction contains one of them.
* `Action.isRequested`: The instruction asks for the action.
* `Plan.keepRequested`: The plan without what nobody asked for.
-/

namespace ActionPlan

namespace ActionKind

/-- The words that ground a type of action in an instruction. -/
def groundingWords : ActionKind → List String
  | .launchApp => ["open", "launch", "start", "run", "navigate", "go to"]
  | .closeApp => ["close", "exit", "quit", "terminate"]
  | .typeText => ["type", "write", "enter", "input", "save", "press"]
  | .clickControl => ["click", "press", "save", "select", "check", "uncheck"]
  | .wait => []
  | .focusWindow => []

/-- The instruction contains a word that grounds the type; helpers need none. -/
def isGrounded (kind : ActionKind) (instruction : String) : Bool :=
  !kind.isCausal || Text.mentionsAny (Instruction.lowered instruction) kind.groundingWords

end ActionKind

/-- The instruction asks for the action. -/
def Action.isRequested (action : Action) (instruction : String) : Bool :=
  (action.kind == .typeText && action.context == .file &&
    Instruction.wantsFileCreated instruction) ||
  action.kind.isGrounded instruction

/-- The instruction asks for the item; an observation is always welcome. -/
def Item.isRequested (item : Item) (instruction : String) : Bool :=
  match item with
  | .action a => a.isRequested instruction
  | .observation _ => true

/-- The plan without the actions that nobody asked for. -/
def Plan.keepRequested (plan : Plan) (instruction : String) : Plan :=
  plan.filter (·.isRequested instruction)

end ActionPlan
