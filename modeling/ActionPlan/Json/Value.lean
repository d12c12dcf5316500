import ActionPlan.Json.Number

/-!
# JSON Values

A value keeps the fields of an object as a list, because what the library writes
has its fields in an order of its own. A value that was read has each key once and
its keys in ascending order, which is what `insertField` maintains: of two fields
with one key the later one stays.

## Main definitions

* `Value`: A JSON value.
* `insertField`: An object's fields with one more, or one replaced.
* `Value.field?`: The field of an object.
-/

namespace ActionPlan

namespace Json

/-- A JSON value. -/
inductive Value
  | null
  | bool (b : Bool)
  | number (n : Number)
  | string (s : String)
  | array (items : List Value)
  | object (fields : List (String × Value))

/-- The fields with the given one among them, in ascending order of their keys; a field
    with the same key is replaced. -/
def insertField (key : String) (value : Value) :
    List (String × Value) → List (String × Value)
  | [] => [(key, value)]
  | (k, v) :: fields =>
    if key = k then (key, value) :: fields
    else if key < k then (key, value) :: (k, v) :: fields
    else (k, v) :: insertField key value fields

/-- The field of an object with the given key; none if there is no such field or the
    value is no object. -/
def Value.field? (key : String) : Value → Option Value
  | .object fields => fields.lookup key
  | _ => none

/-- The text, if the value is one. -/
def Value.string? : Value → Option String
  | .string s => some s
  | _ => none

end Json

end ActionPlan
