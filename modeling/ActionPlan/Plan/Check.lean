import ActionPlan.Error
import ActionPlan.Instruction.Wording
import ActionPlan.Item.Basic

/-!
# Checks on Plans

A repaired plan has to pass a suite of checks: it is not empty and not too long, it
respects the wording of its instruction about files, it does not repeat one action over
and over, and it treats files sparingly. Reading a file goes without any file action,
and creating one is a single action that writes it.

A plan that launches a file and writes it once is a creation with a detour; its file
launches are dropped before the last two checks.

## Main definitions

* `PlanFault`: Why a plan does not pass.
* `Plan.checkNotEmpty`, `Plan.checkCount`, `Plan.checkWording`, `Plan.checkRepetition`,
  `Plan.checkFileUse`: The checks.
* `Plan.dropFileLaunches`: The detour taken out.
* `Plan.validate`: The suite in order.
-/

namespace ActionPlan

/-- Why a plan does not pass. -/
inductive PlanFault
  | empty
  | tooManyItems (count max : Nat)
  | repetition (signature : String) (count : Nat)
  /-- Creating a file is asked for, and these contexts act too. -/
  | foreignContexts (contexts : String)
  /-- Reading a file is asked for, and the plan acts. -/
  | readWithActions (count : Nat)
  /-- Reading a file is asked for, and no file is looked at. -/
  | readWithoutObservation
  /-- The plan looks at a file and acts on files. -/
  | fileReadWithActions (count : Nat)
  /-- A file is written beside other file actions. -/
  | fileCreationNotAtomic (count : Nat)
  /-- A file is created by something else than writing. -/
  | fileCreationWrongKind (kind : ActionKind)
  deriving DecidableEq

namespace PlanFault

/-- The text of a fault. -/
def message : PlanFault → String
  | .empty => "plan is empty"
  | .tooManyItems count max =>
    "plan has " ++ toString count ++ " items (max: " ++ toString max ++ ")"
  | .repetition signature count =>
    "suspicious repetition: " ++ toString count ++ " identical actions '" ++ signature ++ "'"
  | .foreignContexts contexts => "file intent cannot generate " ++ contexts ++ " actions"
  | .readWithActions count =>
    "file read intent must generate only observations, got " ++ toString count ++ " action(s)"
  | .readWithoutObservation => "file read intent must generate at least one file observation"
  | .fileReadWithActions count =>
    "file read plans must be observation-only, got " ++ toString count ++ " file action(s)"
  | .fileCreationNotAtomic count =>
    "file creation must be a single type_text action, got " ++ toString count ++ " file action(s)"
  | .fileCreationWrongKind kind =>
    "file creation requires a type_text action, got " ++ kind.name

/-- The planning error that a fault amounts to. -/
def toPlanError (fault : PlanFault) : PlanError :=
  match fault with
  | .empty => .ambiguousInstruction "no usable items left in plan"
  | .tooManyItems _ _ => .tooComplex fault.message
  | _ => .coherenceViolation fault.message

end PlanFault

namespace Item

/-- The item acts on a file. -/
def isFileAction (item : Item) : Bool :=
  item.isAction && item.context == .file

/-- The item looks at a file. -/
def isFileObservation (item : Item) : Bool :=
  item.isObservation && item.context == .file

/-- The item launches a file. -/
def isFileLaunch (item : Item) : Bool :=
  item.isKind .launchApp && item.context == .file

/-- The item writes a file. -/
def isFileWrite (item : Item) : Bool :=
  item.isKind .typeText && item.context == .file

end Item

/-- What makes two actions count as the same: type, target and text, set side by side
    with a word in place of what is absent. -/
def Action.signature (action : Action) : String :=
  action.kind.name ++ ":" ++ action.target.getD "None" ++ ":" ++ action.text.getD "None"

namespace Plan

/-- The actions of the plan. -/
def actions (plan : Plan) : List Action :=
  plan.filterMap Item.action?

/-- There is something to do. -/
def checkNotEmpty (plan : Plan) : Except PlanFault Unit :=
  if plan.isEmpty then .error .empty else .ok ()

/-- There are at most so many items. -/
def checkCount (plan : Plan) (max : Nat) : Except PlanFault Unit :=
  if max < plan.length then .error (.tooManyItems plan.length max) else .ok ()

/-- The contexts other than that of files in which the plan acts, in the order of their
    names. -/
def foreignContexts (plan : Plan) : List Context :=
  [.desktop, .web].filter fun context =>
    plan.any fun item => item.isAction && item.context == context

/-- Creating a file asks for file actions only. -/
def checkCreationWording (plan : Plan) (instruction : String) : Except PlanFault Unit :=
  let foreign := foreignContexts plan
  if Instruction.wantsFileCreated instruction && !foreign.isEmpty then
    .error (.foreignContexts (", ".intercalate (foreign.map Context.name)))
  else .ok ()

/-- Reading a file asks for no action and for at least one look at a file. -/
def checkReadingWording (plan : Plan) (instruction : String) : Except PlanFault Unit :=
  if !Instruction.wantsFileRead instruction then .ok ()
  else
    let count := plan.countP (·.isAction)
    if 0 < count then .error (.readWithActions count)
    else if plan.any (·.isFileObservation) then .ok ()
    else .error .readWithoutObservation

/-- The plan respects the wording of its instruction about files. -/
def checkWording (plan : Plan) (instruction : String) : Except PlanFault Unit := do
  plan.checkCreationWording instruction
  plan.checkReadingWording instruction

/-- The plan without its file launches, if it writes exactly one file. -/
def dropFileLaunches (plan : Plan) : Plan :=
  if plan.countP (·.isFileWrite) = 1 then plan.filter (!·.isFileLaunch) else plan

/-- How often an action may be repeated. -/
def maxIdentical : Nat := 3

/-- The entry with the greatest count. If there are several, it is left open which of them is
    meant, and this takes the first one. -/
def mostFrequent? : List (String × Nat) → Option (String × Nat)
  | [] => none
  | entry :: entries =>
    match mostFrequent? entries with
    | some other => if entry.2 < other.2 then some other else some entry
    | none => some entry

/-- The signatures of the actions, each with the number of actions that have it. -/
def signatureCounts (plan : Plan) : List (String × Nat) :=
  let signatures := plan.actions.map Action.signature
  signatures.map fun signature => (signature, signatures.count signature)

/-- No action occurs more than three times. -/
def checkRepetition (plan : Plan) : Except PlanFault Unit := do
  plan.checkNotEmpty
  match mostFrequent? plan.signatureCounts with
  | some (signature, count) =>
    if maxIdentical < count then .error (.repetition signature count) else .ok ()
  | none => .ok ()

/-- Reading goes without file actions, and writing is the only file action. -/
def checkFileUse (plan : Plan) : Except PlanFault Unit :=
  let fileActions := plan.filter (·.isFileAction)
  if plan.any (·.isFileObservation) then
    if fileActions.isEmpty then .ok () else .error (.fileReadWithActions fileActions.length)
  else if !fileActions.any (·.isKind .typeText) then .ok ()
  else
    match fileActions with
    | [only] =>
      if only.isKind .typeText then .ok ()
      else .error (.fileCreationWrongKind ((only.action?.map (·.kind)).getD .typeText))
    | several => .error (.fileCreationNotAtomic several.length)

/-- The whole suite. The plan that passes is the one without a detour. -/
def validate (plan : Plan) (instruction : String) (max : Nat) : Except PlanFault Plan := do
  plan.checkNotEmpty
  plan.checkCount max
  plan.checkWording instruction
  let plan := plan.dropFileLaunches
  plan.checkRepetition
  plan.checkFileUse
  return plan

end Plan

end ActionPlan
