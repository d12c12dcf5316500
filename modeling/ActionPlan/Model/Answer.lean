import ActionPlan.Error
import ActionPlan.Item.Draft
import ActionPlan.Json.Printer
import ActionPlan.Text.Blank

/-!
# Answers of a Model

A model is told to answer with a JSON array and nothing else, and often adds a code fence
or some chatter. So the plan is looked for in the span from the first opening bracket to
the last closing one, after a fence was taken off. The array must have at least one
element and at most as many as allowed, and every element must be an item.

An empty array is how a model says that it does not know what to do.

## Main definitions

* `Answer.unfence`: The answer without a code fence.
* `Answer.span?`: The part that may be an array.
* `Answer.plan`: The plan in an answer.
-/

namespace ActionPlan

namespace Answer

open Json (Value)

/-- The text without the given start, if it has that. -/
def withoutStart (start : String) (text : List Char) : List Char :=
  if start.toList.isPrefixOf text then text.drop start.toList.length else text

/-- The text without the given end, if it has that. -/
def withoutEnd (finish : String) (text : List Char) : List Char :=
  if finish.toList.isSuffixOf text then text.take (text.length - finish.toList.length) else text

/-- The mark of a code fence. -/
def fence : String := "```"

/-- The answer without a code fence and without blanks around it. -/
def unfence (answer : List Char) : List Char :=
  Text.trim (withoutEnd fence (withoutStart fence (withoutStart (fence ++ "json")
    (Text.trim answer))))

/-- The text from the first opening bracket to the last closing one, if they are in this
    order. -/
def span? (text : List Char) : Option (List Char) :=
  let fromOpen := text.dropWhile (· != '[')
  let upToClose := Text.dropEnd (· != ']') fromOpen
  if upToClose.isEmpty then none else some upToClose

/-- The items of an array, or the first element that is none. -/
def items : Nat → List Value → Except PlanError Plan
  | _, [] => .ok []
  | position, v :: vs =>
    match Item.ofValue v with
    | .error e => .error (.schemaViolation position v.compact e)
    | .ok item => do
      let rest ← items (position + 1) vs
      return item :: rest

/-- The plan in an array that has been read. -/
def ofArray (values : List Value) (maxItems : Nat) : Except PlanError Plan :=
  if values.isEmpty then
    .error (.ambiguousInstruction "model returned an empty plan (ambiguous or unsafe instruction)")
  else if maxItems < values.length then
    .error (.tooComplex (toString values.length ++ " items (max: " ++ toString maxItems ++
      "), break the task into smaller steps"))
  else items 1 values

/-- The plan in an answer. The message for a span that is no JSON stops short of what is wrong
    with it: the reader of JSON gives no reasons. -/
def plan (answer : String) (maxItems : Nat) : Except PlanError Plan :=
  match span? (unfence answer.toList) with
  | none => .error (.malformedOutput "no JSON array found in model response")
  | some text =>
    match Value.ofText? (String.ofList text) with
    | none => .error (.malformedOutput "invalid JSON")
    | some (.array values) => ofArray values maxItems
    | some _ => .error (.malformedOutput "model output must be a JSON array")

end Answer

end ActionPlan
