import ActionPlan.Graph.Basic
import ActionPlan.Item.Draft
import ActionPlan.Item.Printer

/-!
# Graphs as JSON

A graph is stored in indented JSON, with all fields of its steps. Reading it back
checks every item anew, by the same rules as an item that a model wrote; the
dependencies and the approval of a step may be left out.

## Main definitions

* `Graph.toJson`: The text of a graph.
* `Graph.ofText`: The graph in a text.
-/

namespace ActionPlan

open Json (Reading Record Tree Value)

/-- A number that counts something, as a JSON value. -/
def natValue (n : Nat) : Value :=
  .number (.natural n)

/-- The step as a JSON value. -/
def Step.jsonValue (step : Step) : Value :=
  .object
    [ ("step_id", natValue step.id),
      ("item", step.item.jsonValue),
      ("intent", .string step.intent),
      ("expected_outcome", .string step.expectedOutcome),
      ("dependencies", .array (step.dependencies.map natValue)),
      ("requires_approval", .bool step.requiresApproval) ]

/-- What is known of a step while it is read. -/
structure StepDraft where
  id : Option Nat := none
  item : Option Item := none
  intent : Option String := none
  expectedOutcome : Option String := none
  dependencies : List Nat := []
  requiresApproval : Bool := false

/-- The fields of a step. -/
def StepDraft.record : Record ItemError StepDraft where
  name := "struct PlanStep"
  slots :=
    [ ⟨"step_id", true, fun _ tree d => return { d with id := some (← Json.readNat tree) }⟩,
      ⟨"item", true, fun depth tree d => return { d with item := some (← Item.ofTree depth tree) }⟩,
      ⟨"intent", true, fun _ tree d => return { d with intent := some (← Json.readString tree) }⟩,
      ⟨"expected_outcome", true, fun _ tree d =>
        return { d with expectedOutcome := some (← Json.readString tree) }⟩,
      ⟨"dependencies", false, fun depth tree d =>
        return { d with dependencies := ← Json.readList (fun _ => Json.readNat) depth tree }⟩,
      ⟨"requires_approval", false, fun _ tree d =>
        return { d with requiresApproval := ← Json.readBool tree }⟩ ]
  blank := {}

/-- The step in a tree. -/
def Step.ofTree (depth : Nat) (tree : Tree) : Reading ItemError Step := do
  let d ← StepDraft.record.read depth tree
  return {
    id := ← Json.demand "step_id" d.id
    item := ← Json.demand "item" d.item
    intent := ← Json.demand "intent" d.intent
    expectedOutcome := ← Json.demand "expected_outcome" d.expectedOutcome
    dependencies := d.dependencies
    requiresApproval := d.requiresApproval }

/-- What is known of a graph while it is read. -/
structure GraphDraft where
  instruction : Option String := none
  steps : Option (List Step) := none

/-- The fields of a graph. -/
def GraphDraft.record : Record ItemError GraphDraft where
  name := "struct PlanGraph"
  slots :=
    [ ⟨"instruction", true, fun _ tree d =>
        return { d with instruction := some (← Json.readString tree) }⟩,
      ⟨"steps", true, fun depth tree d =>
        return { d with steps := some (← Json.readList Step.ofTree depth tree) }⟩ ]
  blank := {}

namespace Graph

/-- The graph as a JSON value. -/
def jsonValue (graph : Graph) : Value :=
  .object
    [ ("instruction", .string graph.instruction),
      ("steps", .array (graph.steps.map Step.jsonValue)) ]

/-- The text of a graph. -/
def toJson (graph : Graph) : String :=
  graph.jsonValue.pretty

/-- The graph in a tree. -/
def ofTree (depth : Nat) (tree : Tree) : Reading ItemError Graph := do
  let d ← GraphDraft.record.read depth tree
  return {
    instruction := ← Json.demand "instruction" d.instruction
    steps := ← Json.demand "steps" d.steps }

/-- The graph in a text that holds nothing else. -/
def ofText (text : String) : Reading ItemError Graph := do
  let (tree, ends) := Tree.ofText text
  let graph ← ofTree Json.depthLimit tree
  if ends then .ok graph else .error .malformed

end Graph

/-- The texts of several graphs in one array. -/
def graphsToJson (graphs : List Graph) : String :=
  (Value.array (graphs.map Graph.jsonValue)).pretty

end ActionPlan
