import ActionPlan.Item.Error
import ActionPlan.Text.Blank

/-!
# Plan Items

An item is an action, which causes something, or an observation, which only looks. A
plan is a list of items in the order of their execution.

Which fields an action has to fill depends on its type and its context, and so does
whether the context supports the type at all; `Action.check` is that table. A field
that holds nothing but blanks counts as absent, so `Action.make` and
`Observation.make` never put one into an item. Closing an app on the desktop or on
the web may leave its target open: a plan is written in that state, and repair has to
resolve it before the plan is used.

There is no field for coordinates. Pointing at coordinates is a capability the
executor does not have.

## Main definitions

* `Verification`: What is to be checked after an action.
* `Action`, `Observation`, `Item`, `Plan`: The units of execution.
* `Action.check`: The fields that a type demands in a context.
* `Action.make`, `Observation.make`: Items from their fields.
* `Action.waitFor`, `Action.keystrokes`: Desktop actions built by the library.
-/

namespace ActionPlan

/-- The text, if there is one and it holds more than blanks. -/
def nonBlank : Option String → Option String
  | none => none
  | some s => if Text.isBlankText s.toList then none else some s

/-- What is to be checked after an action. -/
structure Verification where
  kind : Option String := none
  value : Option String := none
  requiresApproval : Bool := false
  reason : Option String := none
  deriving DecidableEq

/-- The check that a text can be seen. -/
def Verification.textVisible (text : String) : Verification :=
  { kind := some "text_visible", value := some text }

/-- A unit that causes something. -/
structure Action where
  kind : ActionKind
  context : Context
  target : Option String := none
  text : Option String := none
  verification : Option Verification := none
  deriving DecidableEq

namespace Action

/-- The fields that each type demands in each context. The web cannot focus a window or
    wait; a file can only be launched, written or clicked. -/
def check (action : Action) : Except ItemError Unit :=
  let demand (present : Bool) (field : String) : Except ItemError Unit :=
    if present then .ok ()
    else .error (.missingField (action.kind.name ++ " (" ++ action.context.name ++ ")") field)
  let hasTarget := action.target.isSome
  let hasText := action.text.isSome
  match action.context, action.kind with
  | .desktop, .typeText => demand hasText "text"
  | .desktop, .closeApp => .ok ()
  | .desktop, _ => demand hasTarget "target"
  | .web, .focusWindow | .web, .wait => .error (.notInContext action.kind .web)
  | .web, .closeApp => .ok ()
  | .web, .typeText => do
    demand hasTarget "target"
    demand hasText "text"
  | .web, _ => demand hasTarget "target"
  | .file, .closeApp | .file, .focusWindow | .file, .wait =>
    .error (.notInContext action.kind .file)
  | .file, .typeText => do
    demand hasTarget "target"
    demand hasText "text"
  | .file, _ => demand hasTarget "target"

/-- The action with these fields, where blank ones count as absent. -/
def make (kind : ActionKind) (context : Context) (target text : Option String) :
    Except ItemError Action := do
  let action : Action := { kind, context, target := nonBlank target, text := nonBlank text }
  action.check
  return action

/-- Starting an app, a page or a file. -/
def launch (context : Context) (target : String) : Except ItemError Action :=
  make .launchApp context (some target) none

/-- Typing a text, into a target outside the desktop. -/
def typing (context : Context) (target : Option String) (text : String) :
    Except ItemError Action :=
  make .typeText context target (some text)

/-- Waiting on the desktop. The target is the number of seconds. -/
def waitFor (seconds : String) : Action :=
  { kind := .wait, context := .desktop, target := some seconds }

/-- Keys typed into the window that has the focus. -/
def keystrokes (text : String) : Action :=
  { kind := .typeText, context := .desktop, text := some text }

/-- The action with its target filled in, unless the new target is blank. -/
def withTarget (action : Action) (target : String) : Action :=
  { action with target := (nonBlank (some target)).or action.target }

/-- A human has to approve the action. -/
def requiresApproval (action : Action) : Bool :=
  action.verification.any (·.requiresApproval)

end Action

/-- A unit that only looks. -/
structure Observation where
  kind : ObservationKind
  context : Context
  target : String
  deriving DecidableEq

namespace Observation

/-- The observation of a target, which may not be blank. -/
def make (kind : ObservationKind) (context : Context) (target : String) :
    Except ItemError Observation :=
  match nonBlank (some target) with
  | some target => .ok ⟨kind, context, target⟩
  | none => .error (.missingField kind.name "target")

/-- Reading the text of a file. -/
def readFile (path : String) : Except ItemError Observation :=
  make .readText .file path

end Observation

/-- A unit of execution. -/
inductive Item
  | action (a : Action)
  | observation (o : Observation)
  deriving DecidableEq

/-- Items in the order of their execution. -/
abbrev Plan := List Item

namespace Item

/-- Where the item takes effect. -/
def context : Item → Context
  | .action a => a.context
  | .observation o => o.context

/-- The item as an action. -/
def action? : Item → Option Action
  | .action a => some a
  | .observation _ => none

/-- The item as an observation. -/
def observation? : Item → Option Observation
  | .action _ => none
  | .observation o => some o

/-- The item causes something. -/
def isAction (item : Item) : Bool :=
  item.action?.isSome

/-- The item only looks. -/
def isObservation (item : Item) : Bool :=
  item.observation?.isSome

/-- The item is an action of the kind. -/
def isKind (item : Item) (kind : ActionKind) : Bool :=
  item.action?.any (·.kind == kind)

/-- The name of the item's type. -/
def typeName : Item → String
  | .action a => a.kind.name
  | .observation o => o.kind.name

/-- The item's target. -/
def target? : Item → Option String
  | .action a => a.target
  | .observation o => some o.target

/-- The text that the item types. -/
def text? (item : Item) : Option String :=
  item.action?.bind (·.text)

/-- The item's verification. -/
def verification? (item : Item) : Option Verification :=
  item.action?.bind (·.verification)

end Item

end ActionPlan
