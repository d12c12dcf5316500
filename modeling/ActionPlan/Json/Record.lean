import ActionPlan.Json.Fault

/-!
# Reading Records

A record is read from a tree in one pass, in the order of the text. As an object its
fields may come in any order, fields without a place in it are skipped, and a second
field with the same key is refused before its value is looked at. As an array its
fields come in the order of the record, without keys.

What is read is collected in a builder, one slot after the other; whether a slot was
left empty is for the type that is built from it to judge.

## Main definitions

* `Reading`: The outcome of reading.
* `Slot`: A field of a record.
* `Record`: The fields of a record, and the builder to start from.
* `Record.read`: A record in one of its two forms.
* `readString`, `readBool`, `readNat`, `readOptional`, `readList`: The types of fields.
-/

namespace ActionPlan

namespace Json

/-- The outcome of reading. -/
abbrev Reading (ρ α : Type) := Except (Fault ρ) α

/-- A field of a record with builder `σ`. -/
structure Slot (ρ σ : Type) where
  key : String
  /-- The array form of the record may not end in front of this field. -/
  demanded : Bool
  read : Nat → Tree → σ → Reading ρ σ

/-- The fields of a record, in order. -/
structure Record (ρ σ : Type) where
  name : String
  slots : List (Slot ρ σ)
  blank : σ

namespace Record

variable {ρ σ : Type}

/-- The fields of the object form, with the keys that were met already. -/
def readFields (record : Record ρ σ) (depth : Nat) (seen : List String) (built : σ) :
    List (Option String × Tree) → Reading ρ σ
  | [] => .ok built
  | (none, _) :: _ => .error .malformed
  | (some key, tree) :: fields =>
    match record.slots.find? (·.key == key) with
    | some slot =>
      if key ∈ seen then .error (.misfit (.duplicate key))
      else do
        let built ← slot.read depth tree built
        record.readFields depth (key :: seen) built fields
    | none =>
      if tree.isComplete then record.readFields depth seen built fields
      else .error .malformed

/-- The array form, for the slots from the given one on. The array may not have more
    items than there are slots. -/
def readItems (record : Record ρ σ) (depth : Nat) (closed : Bool) (count : Nat) (built : σ) :
    List (Slot ρ σ) → List Tree → Reading ρ σ
  | [], items => if items.isEmpty && closed then .ok built else .error .malformed
  | slot :: slots, tree :: items => do
    let built ← slot.read depth tree built
    record.readItems depth closed (count + 1) built slots items
  | slot :: slots, [] =>
    if !closed then .error .malformed
    else if slot.demanded then
      .error (.misfit (.wrongLength count
        (record.name ++ " with " ++ toString record.slots.length ++ " elements")))
    else record.readItems depth closed (count + 1) built slots []

/-- The record in one of its two forms; either is one level of depth. -/
def read (record : Record ρ σ) (depth : Nat) : Tree → Reading ρ σ
  | .object fields closed =>
    match depth with
    | 0 => .error .malformed
    | depth + 1 => do
      let built ← record.readFields depth [] record.blank fields
      if closed then .ok built else .error .malformed
  | .array items closed =>
    match depth with
    | 0 => .error .malformed
    | depth + 1 => record.readItems depth closed 0 record.blank record.slots items
  | tree => .error (tree.mismatch record.name)

end Record

variable {ρ α : Type}

/-- A text. -/
def readString : Tree → Reading ρ String
  | .string (some s) => .ok s
  | tree => .error (tree.mismatch "a string")

/-- A truth value. -/
def readBool : Tree → Reading ρ Bool
  | .bool b => .ok b
  | tree => .error (tree.mismatch "a boolean")

/-- A number that counts something. -/
def readNat : Tree → Reading ρ Nat
  | .number (some (.natural n)) => .ok n
  | .number (some (.negative n)) =>
    .error (.misfit (.wrongValue (.number (.negative n)) "usize"))
  | tree => .error (tree.mismatch "usize")

/-- A value that may be null. -/
def readOptional (read : Tree → Reading ρ α) : Tree → Reading ρ (Option α)
  | .null => .ok none
  | tree => (read tree).map some

/-- A list of values, which is one level of depth. -/
def readList (read : Nat → Tree → Reading ρ α) (depth : Nat) : Tree → Reading ρ (List α)
  | .array items closed =>
    match depth with
    | 0 => .error .malformed
    | depth + 1 => do
      let values ← items.mapM (read depth)
      if closed then .ok values else .error .malformed
  | tree => .error (tree.mismatch "a sequence")

/-- A value of any type; one that is broken or too deep is malformed. -/
def readValue (depth : Nat) (tree : Tree) : Reading ρ Value :=
  match tree.value? depth with
  | some v => .ok v
  | none => .error .malformed

/-- What a field was read as, if it was met. -/
def demand (field : String) : Option α → Reading ρ α
  | some a => .ok a
  | none => .error (.misfit (.missing field))

end Json

end ActionPlan
