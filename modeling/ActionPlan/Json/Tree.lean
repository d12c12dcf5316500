import ActionPlan.Json.Token
import ActionPlan.Json.Value

/-!
# Reading Trees

A reader that knows which fields it expects meets its first problem at some place in
the text, and that may be a field of the wrong type in front of a missing bracket. So
the structure of a text is laid out as far as it is sound, and the place where it
stops being sound is part of the result: a `broken` leaf, inside arrays and objects
that are marked as not closed. Reading such a tree in order meets the problems of the
text in order.

The tree is put together by a machine that takes one token at a time and keeps the
arrays and objects that are still open, innermost first. The tree is never deeper than
the text, but a reader that wants a value has a limit on how deep it may be.

## Main definitions

* `Tree`: The structure of a text, as far as it is sound.
* `Tree.ofText`: The tree of a text and whether anything follows it.
* `Tree.isComplete`: No part of the tree is broken.
* `Tree.value?`: The value of a complete tree within a depth.
* `Value.ofText?`: The value of a text.
-/

namespace ActionPlan

namespace Json

/-- The structure of a text. The keys and strings are without content where a surrogate
    stands alone, the numbers where they are out of range. -/
inductive Tree
  | null
  | bool (b : Bool)
  | number (n : Option Number)
  | string (s : Option String)
  | array (items : List Tree) (closed : Bool)
  | object (fields : List (Option String × Tree)) (closed : Bool)
  | broken

/-- An array or object that is still open, with its parts so far, last first. -/
inductive Frame
  | items (done : List Tree)
  | fields (done : List (Option String × Tree))
  | field (done : List (Option String × Tree)) (key : Option String)

/-- What the next token has to be. -/
inductive Phase
  | value
  | firstItem
  | firstKey
  | nextKey
  | colon
  | separator

/-- What a token leads to. -/
inductive Step
  | more (phase : Phase) (frames : List Frame)
  | finished (tree : Tree)
  | malformed

/-- A tree takes its place in the innermost open array or object. -/
def Step.place (tree : Tree) : List Frame → Step
  | [] => .finished tree
  | .items done :: frames => .more .separator (.items (tree :: done) :: frames)
  | .field done key :: frames => .more .separator (.fields ((key, tree) :: done) :: frames)
  | .fields _ :: _ => .malformed

/-- A token where a value has to start. -/
def Step.startValue (frames : List Frame) : Token → Step
  | .openArray => .more .firstItem (.items [] :: frames)
  | .openObject => .more .firstKey (.fields [] :: frames)
  | .null => place .null frames
  | .bool b => place (.bool b) frames
  | .number n => place (.number n) frames
  | .string s => place (.string s) frames
  | _ => .malformed

/-- What a token leads to in each phase. -/
def Step.take : Phase → List Frame → Token → Step
  | .value, frames, token => startValue frames token
  | .firstItem, .items done :: frames, .closeArray => place (.array done.reverse true) frames
  | .firstItem, frames, token => startValue frames token
  | .firstKey, .fields done :: frames, .closeObject => place (.object done.reverse true) frames
  | .firstKey, .fields done :: frames, .string key => .more .colon (.field done key :: frames)
  | .nextKey, .fields done :: frames, .string key => .more .colon (.field done key :: frames)
  | .colon, frames, .colon => .more .value frames
  | .separator, .items done :: frames, .comma => .more .value (.items done :: frames)
  | .separator, .items done :: frames, .closeArray => place (.array done.reverse true) frames
  | .separator, .fields done :: frames, .comma => .more .nextKey (.fields done :: frames)
  | .separator, .fields done :: frames, .closeObject => place (.object done.reverse true) frames
  | _, _, _ => .malformed

/-- The tree of what is open when no further token fits. -/
def Tree.abandon (tree : Tree) : List Frame → Tree
  | [] => tree
  | .items done :: frames => abandon (.array (tree :: done).reverse false) frames
  | .fields done :: frames => abandon (.object done.reverse false) frames
  | .field done key :: frames => abandon (.object ((key, tree) :: done).reverse false) frames

/-- The tree that the tokens lay out, and the tokens behind it. -/
def Tree.assemble (phase : Phase) (frames : List Frame) : List Token → Tree × List Token
  | [] => (abandon .broken frames, [])
  | token :: rest =>
    match Step.take phase frames token with
    | .more phase frames => assemble phase frames rest
    | .finished tree => (tree, rest)
    | .malformed => (abandon .broken frames, token :: rest)

/-- The tree of a text, and whether the text ends with it. -/
def Tree.ofText (text : String) : Tree × Bool :=
  let (tree, rest) := assemble .value [] (tokens text.toList)
  (tree, rest.isEmpty)

mutual

/-- No part of the tree is broken or left open. -/
def Tree.isComplete : Tree → Bool
  | .array items closed => allComplete items && closed
  | .object fields closed => allFieldsComplete fields && closed
  | .broken => false
  | _ => true

/-- No item is broken or left open. -/
def allComplete : List Tree → Bool
  | [] => true
  | tree :: trees => tree.isComplete && allComplete trees

/-- No field is broken or left open. -/
def allFieldsComplete : List (Option String × Tree) → Bool
  | [] => true
  | (_, tree) :: fields => tree.isComplete && allFieldsComplete fields

end

mutual

/-- The value of a tree with at most `depth` arrays and objects inside one another. -/
def Tree.value? (depth : Nat) : Tree → Option Value
  | .null => some .null
  | .bool b => some (.bool b)
  | .number n => n.map .number
  | .string s => s.map .string
  | .array items closed =>
    match depth with
    | 0 => none
    | depth + 1 => if closed then (values? depth items).map .array else none
  | .object fields closed =>
    match depth with
    | 0 => none
    | depth + 1 => if closed then (fieldValues? depth [] fields).map .object else none
  | .broken => none

/-- The values of all items. -/
def values? (depth : Nat) : List Tree → Option (List Value)
  | [] => some []
  | tree :: trees => do
    let v ← tree.value? depth
    let vs ← values? depth trees
    some (v :: vs)

/-- The fields of an object added to those before them, a later one replacing an earlier
    one with the same key. -/
def fieldValues? (depth : Nat) (done : List (String × Value)) :
    List (Option String × Tree) → Option (List (String × Value))
  | [] => some done
  | (key, tree) :: fields => do
    let key ← key
    let v ← tree.value? depth
    fieldValues? depth (insertField key v done) fields

end

/-- The number of arrays and objects that may stand inside one another in a text. -/
def depthLimit : Nat := 127

/-- The value of a text that holds one value and nothing else. -/
def Value.ofText? (text : String) : Option Value :=
  let (tree, ends) := Tree.ofText text
  if ends then tree.value? depthLimit else none

end Json

end ActionPlan
