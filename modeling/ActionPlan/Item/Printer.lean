import ActionPlan.Item.Basic
import ActionPlan.Json.Printer

/-!
# Items as JSON

Items are printed with their fields in a fixed order. A field that is absent is left
out, and so is an approval that is not required.

## Main definitions

* `Item.jsonValue`: The item as a JSON value.
-/

namespace ActionPlan

open Json (Value)

/-- A field with a text, if there is one. -/
def textField (key : String) : Option String → List (String × Value)
  | some s => [(key, .string s)]
  | none => []

/-- The verification as a JSON value. -/
def Verification.jsonValue (v : Verification) : Value :=
  .object (textField "type" v.kind ++ textField "value" v.value ++
    (if v.requiresApproval then [("requires_approval", .bool true)] else []) ++
    textField "reason" v.reason)

/-- The action as a JSON value. -/
def Action.jsonValue (a : Action) : Value :=
  .object ([("action_type", .string a.kind.name), ("context", .string a.context.name)] ++
    textField "target" a.target ++ textField "text" a.text ++
    (match a.verification with
      | some v => [("verify", v.jsonValue)]
      | none => []))

/-- The observation as a JSON value. -/
def Observation.jsonValue (o : Observation) : Value :=
  .object [("observation_type", .string o.kind.name), ("context", .string o.context.name),
    ("target", .string o.target)]

/-- The item as a JSON value. -/
def Item.jsonValue : Item → Value
  | .action a => a.jsonValue
  | .observation o => o.jsonValue

end ActionPlan
