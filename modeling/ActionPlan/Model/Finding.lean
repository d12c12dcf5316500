import ActionPlan.Decimal.Binary64
import ActionPlan.Item.Basic

/-!
# Findings

What an earlier observation found, to be told to a model together with an instruction.

## Main definitions

* `Finding`: An observation and its outcome.
-/

namespace ActionPlan

/-- How an observation went. -/
inductive FindingStatus
  | success
  | notFound
  | failed
  deriving DecidableEq

/-- An observation and its outcome. A confidence is given where the result comes from
    looking at the screen. -/
structure Finding where
  observation : Observation
  status : FindingStatus
  result : Option String := none
  error : Option String := none
  confidence : Option Binary64 := none

end ActionPlan
