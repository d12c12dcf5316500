import ActionPlan.Plan.Closing
import ActionPlan.Plan.Saving

/-!
# Repair

A model's plan is repaired by passes in a fixed order. The apps that a close can mean
depend on the order of launches and closes that the model wrote, so closes are resolved
first; waits belong between what the model put next to each other, so closes are moved
only after the waits are in place.

## Main definitions

* `Plan.repair`: All passes in order.
-/

namespace ActionPlan

/-- All repairs of a model's plan, in order. -/
def Plan.repair (plan : Plan) (instruction : String) : Except PlanError Plan := do
  let resolved ← plan.resolveCloses
  let saved := Plan.completeSaves resolved instruction
  Plan.requireCloseTargets (Plan.closesLast (Plan.pauseBeforeCloses saved))

end ActionPlan
