import ActionPlan.Item.Basic
import ActionPlan.Json.Record

/-!
# Item Drafts

Items come from a language model or from a file, so they are first read as a draft:
a record whose types are loose enough to say precisely what is wrong with it. A draft
becomes an item in one step or not at all.

A draft names its type under `action_type` or under `observation_type`. Models often
put an observation under the former, so the name of an observation is one wherever it
stands; the name of an action is one only under `action_type`. A target or a text may
be a number, which is then taken as it is printed.

## Main definitions

* `Draft`: The fields of an item, as read.
* `Draft.item`: The item that a draft describes.
* `Draft.ofFields`: The draft in the fields of a JSON object.
* `Draft.ofTree`: The draft in a text that is read in one pass.
* `Item.ofValue`: The item in a JSON value.
* `Item.ofText`: The item in a text.
-/

namespace ActionPlan

open Json (Fault Misfit Reading Record Slot Tree Value)

/-- The fields of an item, as read. -/
structure Draft where
  actionType : Option String := none
  observationType : Option String := none
  context : Option String := none
  target : Option Value := none
  text : Option Value := none
  verification : Option Verification := none
  coordinates : Option Value := none

namespace Draft

/-- A text or a number, as text. -/
def scalar (field : String) : Option Value → Except ItemError (Option String)
  | none => .ok none
  | some .null => .ok none
  | some (.string s) => .ok (some s)
  | some (.number n) => .ok (some n.text)
  | some _ => .error (.notAString field)

/-- The context that the type needs. -/
def needContext (typeName : String) : Option String → Except ItemError Context
  | none => .error (.missingField typeName "context")
  | some name => Context.ofName name

/-- The name of the type, and whether it stands under `action_type`. -/
def typeName (draft : Draft) : Except ItemError (String × Bool) :=
  match draft.actionType, draft.observationType with
  | some name, _ => .ok (name, true)
  | none, some name => .ok (name, false)
  | none, none => .error .missingKind

/-- The item that a draft describes. -/
def item (draft : Draft) : Except ItemError Item := do
  if draft.coordinates.isSome then throw .coordinatesForbidden
  let target ← scalar "target" draft.target
  let text ← scalar "text" draft.text
  let (name, asAction) ← draft.typeName
  match ObservationKind.ofName? name with
  | some kind =>
    let context ← needContext name draft.context
    let observation ← Observation.make kind context (target.getD "")
    return .observation observation
  | none =>
    if !asAction then throw (.illegalType name)
    let kind ← ActionKind.ofName name
    let context ← needContext name draft.context
    let action ← Action.make kind context target text
    return .action { action with verification := draft.verification }

end Draft

/-! ### From a value -/

namespace Draft

/-- A text or nothing. -/
def optionalString : Value → Except Misfit (Option String)
  | .null => .ok none
  | .string s => .ok (some s)
  | v => .error (.wrongType v.shape "a string")

/-- A truth value. -/
def truth : Value → Except Misfit Bool
  | .bool b => .ok b
  | v => .error (.wrongType v.shape "a boolean")

/-- Any value but null. -/
def optionalValue : Value → Option Value
  | .null => none
  | v => some v

/-- A verification with one of its fields filled in. Other fields are skipped. -/
def setVerification (v : Verification) : String × Value → Except Misfit Verification
  | ("type", value) => return { v with kind := ← optionalString value }
  | ("value", value) => return { v with value := ← optionalString value }
  | ("requires_approval", value) => return { v with requiresApproval := ← truth value }
  | ("reason", value) => return { v with reason := ← optionalString value }
  | _ => .ok v

/-- The keys of a verification, in the order of its array form. -/
def verificationKeys : List String :=
  ["type", "value", "requires_approval", "reason"]

/-- A verification, as an object or as an array of its first fields. -/
def verificationOf : Value → Except Misfit Verification
  | .object fields => fields.foldlM setVerification {}
  | .array items => do
    let v ← (verificationKeys.zip items).foldlM setVerification {}
    if verificationKeys.length < items.length then
      throw (.wrongLength items.length "fewer elements in array")
    return v
  | v => .error (.wrongType v.shape "struct Verify")

/-- A verification or nothing. -/
def optionalVerification : Value → Except Misfit (Option Verification)
  | .null => .ok none
  | v => (verificationOf v).map some

/-- A draft with one of its fields filled in. Other fields are skipped. -/
def set (draft : Draft) : String × Value → Except Misfit Draft
  | ("action_type", value) => return { draft with actionType := ← optionalString value }
  | ("observation_type", value) => return { draft with observationType := ← optionalString value }
  | ("context", value) => return { draft with context := ← optionalString value }
  | ("target", value) => .ok { draft with target := optionalValue value }
  | ("text", value) => .ok { draft with text := optionalValue value }
  | ("verify", value) => return { draft with verification := ← optionalVerification value }
  | ("coordinates", value) => .ok { draft with coordinates := optionalValue value }
  | _ => .ok draft

/-- The draft in the fields of an object. The first field that does not fit decides. -/
def ofFields (fields : List (String × Value)) : Except Misfit Draft :=
  fields.foldlM set {}

end Draft

/-- The item in a JSON value. -/
def Item.ofValue : Value → Except ItemError Item
  | .object fields =>
    match Draft.ofFields fields with
    | .ok draft => draft.item
    | .error misfit => .error (.invalid misfit)
  | _ => .error .notAnObject

/-! ### From a text -/

namespace Draft

/-- The fields of a verification. None of them has to be there. -/
def verificationRecord : Record ItemError Verification where
  name := "struct Verify"
  slots :=
    [ ⟨"type", false, fun _ tree v =>
        return { v with kind := ← Json.readOptional Json.readString tree }⟩,
      ⟨"value", false, fun _ tree v =>
        return { v with value := ← Json.readOptional Json.readString tree }⟩,
      ⟨"requires_approval", false, fun _ tree v =>
        return { v with requiresApproval := ← Json.readBool tree }⟩,
      ⟨"reason", false, fun _ tree v =>
        return { v with reason := ← Json.readOptional Json.readString tree }⟩ ]
  blank := {}

/-- The fields of a draft. All of them have to be there in the array form. -/
def record : Record ItemError Draft where
  name := "struct RawPlanItem"
  slots :=
    [ ⟨"action_type", true, fun _ tree d =>
        return { d with actionType := ← Json.readOptional Json.readString tree }⟩,
      ⟨"observation_type", true, fun _ tree d =>
        return { d with observationType := ← Json.readOptional Json.readString tree }⟩,
      ⟨"context", true, fun _ tree d =>
        return { d with context := ← Json.readOptional Json.readString tree }⟩,
      ⟨"target", true, fun depth tree d =>
        return { d with target := ← Json.readOptional (Json.readValue depth) tree }⟩,
      ⟨"text", true, fun depth tree d =>
        return { d with text := ← Json.readOptional (Json.readValue depth) tree }⟩,
      ⟨"verify", true, fun depth tree d =>
        return { d with verification := ← Json.readOptional (verificationRecord.read depth) tree }⟩,
      ⟨"coordinates", true, fun depth tree d =>
        return { d with coordinates := ← Json.readOptional (Json.readValue depth) tree }⟩ ]
  blank := {}

/-- The draft in a tree. -/
def ofTree (depth : Nat) (tree : Tree) : Reading ItemError Draft :=
  record.read depth tree

end Draft

/-- The item in a tree. The rules for items apply once the tree was read to its end. -/
def Item.ofTree (depth : Nat) (tree : Tree) : Reading ItemError Item := do
  let draft ← Draft.ofTree depth tree
  match draft.item with
  | .ok item => .ok item
  | .error e => .error (.rejected e)

/-- The item in a text that holds nothing else. -/
def Item.ofText (text : String) : Reading ItemError Item := do
  let (tree, ends) := Tree.ofText text
  let item ← Item.ofTree Json.depthLimit tree
  if ends then .ok item else .error .malformed

end ActionPlan
