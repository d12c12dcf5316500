import ActionPlan.Graph.Basic
import ActionPlan.Graph.Wording

/-!
# Segments

The plan of a task is cut wherever the context changes, into maximal runs of items
with one context, and each run becomes a graph. Runs that are apart stay apart even if
their contexts agree, because the order of the items is the order of execution.

A graph is labelled by its instruction. The label tells which task and which segment
it is, if there are several of either.

## Main definitions

* `Plan.runs`: The maximal runs of items with one context.
* `Step.ofItem`: An item at its place in a run.
* `Graph.segments`: The graphs of a plan.
-/

namespace ActionPlan

/-- The maximal runs of items with one context, in order. -/
def Plan.runs (plan : Plan) : List (List Item) :=
  plan.splitBy fun a b => a.context == b.context

/-- The remark that a verification gives a reason for, unless that is empty. -/
def Verification.note (v : Verification) : String :=
  match v.reason with
  | some reason => if reason.isEmpty then "" else " (Note: " ++ reason ++ ")"
  | none => ""

/-- The item at a position of its run, counted from zero. It waits for the one before. -/
def Step.ofItem (index : Nat) (item : Item) : Step where
  id := index + 1
  item := item
  intent := item.intent ++ (item.verification?.map Verification.note).getD ""
  expectedOutcome := item.outcome
  dependencies := if index = 0 then [] else [index]
  requiresApproval := item.verification?.any (·.requiresApproval)

namespace Graph

/-- The label of a segment. Tasks and segments are numbered from zero here, and shown
    from one. -/
def label (instruction : String) (task tasks segment segments : Nat) : String :=
  let part (name : String) (index total : Nat) : List String :=
    if 1 < total then [name ++ " " ++ toString (index + 1) ++ "/" ++ toString total] else []
  let parts := part "Task" task tasks ++ part "Seg" segment segments
  if parts.isEmpty then instruction
  else instruction ++ " (" ++ ", ".intercalate parts ++ ")"

/-- The graphs of the plan of one task. -/
def segments (instruction : String) (plan : Plan) (task tasks : Nat) : List Graph :=
  let runs := plan.runs
  runs.mapIdx fun index items =>
    { instruction := label instruction task tasks index runs.length
      steps := items.mapIdx Step.ofItem }

end Graph

end ActionPlan
