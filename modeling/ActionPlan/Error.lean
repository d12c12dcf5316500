import ActionPlan.Item.Error
import ActionPlan.Text.Quoted

/-!
# Planning Errors

Planning fails in one of a few ways, and a caller treats them differently: a model
that could not be reached or that answered with something unusable is a failure of the
generator, for which another generator may stand in; a plan that was produced and then
found wanting is not.

A refusal on grounds of policy is no error at all. It yields an empty plan.

## Main definitions

* `ModelError`: Why a model gave no text.
* `PlanError`: Why there is no plan.
* `PlanError.isGeneratorFailure`: The model failed to produce a usable plan.
-/

namespace ActionPlan

/-- Why a model gave no text. -/
inductive ModelError
  | connection (detail : String)
  | timeout
  | status (code : Nat)
  | invalidResponse (detail : String)
  deriving DecidableEq

/-- The text of a model error. -/
def ModelError.message : ModelError → String
  | .connection detail => "model request failed: " ++ detail
  | .timeout => "model request timed out"
  | .status code => "model returned HTTP " ++ toString code
  | .invalidResponse detail => "model response is unusable: " ++ detail

/-- Why there is no plan. -/
inductive PlanError
  /-- The model's text holds no plan. -/
  | malformedOutput (detail : String)
  /-- An element, shown as `item`, is no item. Positions are counted from one. -/
  | schemaViolation (position : Nat) (item : String) (source : ItemError)
  /-- It is not clear what to do. -/
  | ambiguousInstruction (detail : String)
  /-- It is not clear what to close. -/
  | needsClarification (candidates : List String)
  /-- The plan or the instruction is too large. -/
  | tooComplex (detail : String)
  /-- The plan contradicts itself or its instruction. -/
  | coherenceViolation (detail : String)
  /-- The model gave no text. -/
  | model (error : ModelError)
  deriving DecidableEq

namespace PlanError

/-- The text of a planning error. -/
def message : PlanError → String
  | .malformedOutput detail => "model output is malformed: " ++ detail
  | .schemaViolation position item source =>
    "invalid item at position " ++ toString position ++ ": " ++ source.message ++
      " (item: " ++ item ++ ")"
  | .ambiguousInstruction detail => "ambiguous instruction: " ++ detail
  | .needsClarification candidates =>
    "close target needs clarification (candidates: " ++ Text.quoteList candidates ++ ")"
  | .tooComplex detail => "plan too complex: " ++ detail
  | .coherenceViolation detail => "incoherent plan: " ++ detail
  | .model error => error.message

/-- The model failed to produce a usable plan, as opposed to a plan that was produced and
    then rejected. -/
def isGeneratorFailure : PlanError → Bool
  | .model _ => true
  | .malformedOutput _ => true
  | .schemaViolation _ _ _ => true
  | .ambiguousInstruction _ => true
  | _ => false

end PlanError

end ActionPlan
