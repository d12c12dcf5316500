import ActionPlan.Json.Record
import ActionPlan.Proofs.Item.Fields
import ActionPlan.Proofs.Json.Trees

/-!
# Records Read from Trees

A record is read from an object with one eye on the keys that were met already, because a second
field with one key is refused. Where no key comes twice this memory never matters, and reading
is what it looks like: the fields are taken in order, and each puts its part into what was built
so far. `Record.put` is that one step, and `readFields_eq_foldlM` the reading as a fold of it.
A fold may be cut between any two fields, which a reader with a memory may not.

## Main definitions

* `Record.put`: What a single field does to what was built so far.

## Theorems

* `isComplete_tree`: Nothing in the tree of a value is broken.
* `readFields_eq_foldlM`: Fields with distinct keys are read one after the other.
* `read_object`: A record in the tree of an object.
* `readList_array`: A list in the tree of an array.
-/

namespace ActionPlan

namespace Json

mutual

/-- Nothing in the tree of a value is broken. -/
theorem isComplete_tree : ∀ v : Value, v.tree.isComplete = true
  | .null | .bool _ | .number _ | .string _ => rfl
  | .array items => by
      rw [Value.tree, Tree.isComplete, allComplete_itemTrees items, Bool.true_and]
  | .object fields => by
      rw [Value.tree, Tree.isComplete, allFieldsComplete_fieldTrees fields, Bool.true_and]

theorem allComplete_itemTrees : ∀ items : List Value, allComplete (itemTrees items) = true
  | [] => rfl
  | v :: items => by
      rw [itemTrees, allComplete, isComplete_tree v, allComplete_itemTrees items, Bool.true_and]

theorem allFieldsComplete_fieldTrees : ∀ fields : List (String × Value),
    allFieldsComplete (fieldTrees fields) = true
  | [] => rfl
  | (_, v) :: fields => by
      rw [fieldTrees, allFieldsComplete, isComplete_tree v, allFieldsComplete_fieldTrees fields,
        Bool.true_and]

end

theorem itemTrees_eq_map (items : List Value) : itemTrees items = items.map Value.tree := by
  induction items with
  | nil => rfl
  | cons v items ih => rw [itemTrees, ih, List.map_cons]

theorem fieldTrees_eq_map (fields : List (String × Value)) :
    fieldTrees fields = fields.map fun field => (some field.1, field.2.tree) := by
  induction fields with
  | nil => rfl
  | cons field fields ih => rw [fieldTrees, ih, List.map_cons]

variable {ρ σ : Type}

/-- What a single field does to what was built so far. A field without a place in the record
    does nothing, but it has to be sound. -/
def Record.put (record : Record ρ σ) (depth : Nat) (built : σ) (field : String × Tree) :
    Reading ρ σ :=
  match record.slots.find? (·.key == field.1) with
  | some slot => slot.read depth field.2 built
  | none => if field.2.isComplete then .ok built else .error .malformed

/-- Fields with distinct keys are read one after the other. -/
theorem readFields_eq_foldlM (record : Record ρ σ) (depth : Nat) {fields : List (String × Tree)}
    (hkeys : (fields.map Prod.fst).Nodup) {seen : List String}
    (hseen : ∀ field ∈ fields, field.1 ∉ seen) (built : σ) :
    record.readFields depth seen built (fields.map fun field => (some field.1, field.2)) =
      fields.foldlM (record.put depth) built := by
  induction fields generalizing seen built with
  | nil => rfl
  | cons field fields ih =>
      rw [List.map_cons, List.nodup_cons] at hkeys
      have hlater : ∀ other ∈ fields, other.1 ∉ seen := fun other hother =>
        hseen other (List.mem_cons_of_mem field hother)
      rw [List.map_cons, List.foldlM_cons, Record.readFields, Record.put]
      rcases hslot : record.slots.find? (·.key == field.1) with _ | slot
      · simp only [hslot]
        split
        · exact ih hkeys.2 hlater built
        · rfl
      · simp only [hslot]
        rw [if_neg (hseen field List.mem_cons_self)]
        -- The key is remembered from here on, and no later field has it.
        have hseen' : ∀ other ∈ fields, other.1 ∉ field.1 :: seen := by
          intro other hother hmem
          rcases List.mem_cons.mp hmem with heq | hmem
          · exact hkeys.1 (heq ▸ List.mem_map_of_mem hother)
          · exact hlater other hother hmem
        exact congrArg _ (funext fun built' => ih hkeys.2 hseen' built')

/-- A record is read from the tree of an object, field by field. -/
theorem read_object (record : Record ρ σ) (depth : Nat) {fields : List (String × Value)}
    (hkeys : (fields.map Prod.fst).Nodup) :
    record.read (depth + 1) (Value.object fields).tree =
      fields.foldlM (fun built field => record.put depth built (field.1, field.2.tree))
        record.blank := by
  -- No key comes twice, so none is refused.
  have hkeys' : ((fields.map fun field => (field.1, field.2.tree)).map Prod.fst).Nodup := by
    rw [List.map_map]
    exact hkeys
  have hfields := readFields_eq_foldlM record depth hkeys' (fun _ _ => List.not_mem_nil)
    record.blank
  rw [List.map_map, List.foldlM_map] at hfields
  rw [Value.tree, fieldTrees_eq_map, Record.read]
  refine (congrArg (· >>= fun built => .ok built) hfields).trans ?_
  exact bind_pure _

theorem mapM_map_eq_ok {ε α β : Type} {f : β → Except ε α} {g : α → β} {xs : List α}
    (h : ∀ x ∈ xs, f (g x) = .ok x) : (xs.map g).mapM f = .ok xs := by
  induction xs with
  | nil => rfl
  | cons x xs ih =>
      exact mapM_cons_eq_ok_iff.mpr ⟨x, xs, h x List.mem_cons_self,
        ih fun y hy => h y (List.mem_cons_of_mem x hy), rfl⟩

/-- A list is read from the tree of an array if each of its items is. -/
theorem readList_array {α : Type} {read : Nat → Tree → Reading ρ α} {print : α → Value}
    {depth : Nat} {xs : List α} (h : ∀ x ∈ xs, read depth (print x).tree = .ok x) :
    readList read (depth + 1) (Value.array (xs.map print)).tree = .ok xs := by
  have hitems : (xs.map fun x => (print x).tree).mapM (read depth) = .ok xs := mapM_map_eq_ok h
  rw [Value.tree, itemTrees_eq_map, List.map_map]
  exact congrArg (· >>= fun values => .ok values) hitems

end Json

end ActionPlan
