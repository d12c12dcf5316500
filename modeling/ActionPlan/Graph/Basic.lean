import ActionPlan.Item.Basic

/-!
# Plan Graphs

A graph is what the executor is handed: a run of steps that all take effect in one
context, each with what the executor shows and has approved. Steps are numbered from
one within their graph, and a step names the steps that have to be complete before it.

## Main definitions

* `Step`: An item with what is shown about it.
* `Graph`: The steps of one run, under the label of their instruction.
* `Graph.context?`: The context that the steps share.
-/

namespace ActionPlan

/-- An item with what is shown about it and what it waits for. -/
structure Step where
  id : Nat
  item : Item
  intent : String
  expectedOutcome : String
  dependencies : List Nat := []
  requiresApproval : Bool := false
  deriving DecidableEq

/-- The steps of one run, under the label of their instruction. -/
structure Graph where
  instruction : String
  steps : List Step
  deriving DecidableEq

namespace Graph

/-- The context that the steps share, which is that of the first; none without steps. -/
def context? (graph : Graph) : Option Context :=
  graph.steps.head?.map (·.item.context)

/-- How many steps cause something. -/
def totalActions (graph : Graph) : Nat :=
  graph.steps.countP (·.item.isAction)

/-- How many steps only look. -/
def totalObservations (graph : Graph) : Nat :=
  graph.steps.countP (·.item.isObservation)

/-- Some step has to be approved. -/
def approvalRequired (graph : Graph) : Bool :=
  graph.steps.any (·.requiresApproval)

/-- The steps that have to be approved. -/
def approvalSteps (graph : Graph) : List Step :=
  graph.steps.filter (·.requiresApproval)

end Graph

end ActionPlan
