import ActionPlan.Item.Kind
import ActionPlan.Json.Fault

/-!
# Item Errors

The ways in which something fails to be an item: a field that its type and context
demand is missing, a type is not supported in a context, a name is not in the
vocabulary, or the data has the wrong form to begin with.

## Main definitions

* `ItemError`: Why something is no item.
* `ItemError.message`: Its text.
-/

namespace ActionPlan

/-- Why something is no item. -/
inductive ItemError
  /-- The item, named by its type, demands the field. -/
  | missingField (item : String) (field : String)
  /-- The context does not support the action. -/
  | notInContext (kind : ActionKind) (context : Context)
  /-- No type has this name. -/
  | illegalType (name : String)
  /-- No context has this name. -/
  | invalidContext (name : String)
  /-- There is no type at all. -/
  | missingKind
  /-- The item points at coordinates, which no item may. -/
  | coordinatesForbidden
  /-- The field is neither a string nor a number. -/
  | notAString (field : String)
  /-- The data is no object. -/
  | notAnObject
  /-- A field does not fit its type. -/
  | invalid (misfit : Json.Misfit)
  deriving DecidableEq

/-- The text of an item error. -/
def ItemError.message : ItemError → String
  | .missingField item field => item ++ " requires '" ++ field ++ "' field"
  | .notInContext kind context =>
    kind.name ++ " is not supported in " ++ context.name ++ " context"
  | .illegalType name => "illegal type '" ++ name ++ "'"
  | .invalidContext name =>
    "invalid context '" ++ name ++ "' (expected desktop, web or file)"
  | .missingKind => "item must have either 'action_type' or 'observation_type' field"
  | .coordinatesForbidden => "coordinate targeting is disabled"
  | .notAString field => "field '" ++ field ++ "' must be a string"
  | .notAnObject => "item is not a JSON object"
  | .invalid misfit => misfit.message

/-- The context with a name, or the error that there is none. -/
def Context.ofName (s : String) : Except ItemError Context :=
  match Context.ofName? s with
  | some context => .ok context
  | none => .error (.invalidContext s)

/-- The action with a name, or the error that there is none. -/
def ActionKind.ofName (s : String) : Except ItemError ActionKind :=
  match ActionKind.ofName? s with
  | some kind => .ok kind
  | none => .error (.illegalType s)

/-- The observation with a name, or the error that there is none. -/
def ObservationKind.ofName (s : String) : Except ItemError ObservationKind :=
  match ObservationKind.ofName? s with
  | some kind => .ok kind
  | none => .error (.illegalType s)

end ActionPlan
