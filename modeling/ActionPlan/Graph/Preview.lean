import ActionPlan.Graph.Basic
import ActionPlan.Text.Excerpt

/-!
# Previews

A preview is a tree of plain lines for logs and for a first look: a head with the
instruction and the totals, a block for each step, and a closing rule.

## Main definitions

* `Graph.preview`: The preview of a graph.
-/

namespace ActionPlan

namespace Graph

/-- A horizontal rule of a length. -/
def rule (length : Nat) : String :=
  String.ofList (List.replicate length '─')

/-- The steps that a step waits for. -/
def dependencyText (dependencies : List Nat) : String :=
  if dependencies.isEmpty then "None"
  else ", ".intercalate (dependencies.map fun id => "Step " ++ toString id)

/-- The lines of one step. -/
def previewStep (step : Step) : List String :=
  let marker := if step.requiresApproval then " [REQUIRES APPROVAL]" else ""
  [ "│ Step " ++ toString step.id ++ ": " ++ step.item.typeName ++ marker,
    "│   Intent: " ++ step.intent,
    "│   Expected: " ++ step.expectedOutcome ] ++
  (match step.item.target? with
    | some target => ["│   Target: " ++ target]
    | none => []) ++
  (match step.item.text? with
    | some text => ["│   Text: '" ++ Text.excerpt 50 text ++ "'"]
    | none => []) ++
  [ "│   Dependencies: " ++ dependencyText step.dependencies,
    "│" ]

/-- The preview of a graph. -/
def preview (graph : Graph) : String :=
  let head :=
    [ "┌─ Plan Preview " ++ rule 54,
      "│ Instruction: " ++ graph.instruction,
      "│ Total Steps: " ++ toString graph.steps.length ++ " (" ++
        toString graph.totalActions ++ " actions, " ++
        toString graph.totalObservations ++ " observations)" ]
  let approval :=
    if graph.approvalRequired then
      ["│ Approval Required: " ++ toString graph.approvalSteps.length ++ " step(s) marked"]
    else []
  "\n".intercalate (head ++ approval ++ ["│"] ++ graph.steps.flatMap previewStep ++
    ["└" ++ rule 70])

end Graph

end ActionPlan
