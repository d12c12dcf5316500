import ActionPlan.Proofs.Json.Keys
import ActionPlan.Proofs.Json.Records
import Mathlib.Data.List.Nodup

/-!
# Records Read from Trees and from Values

A record can be read from a text in two ways. One pass over the tree reads each field where it
stands, and fails at the first place that is unsound or does not fit. Or the whole text becomes a
value first, with the keys of its objects in ascending order and the later of two fields with one
key in place of the earlier, and the record is then filled in from the fields of the value, one
step for each. The reasons for a failure differ, as they depend on the order of reading. So what
is compared is the result without its reasons, `Except.toOption`.

Where the text has a value at all, nothing in it is broken, and a single field is the same to
both readers as soon as each slot agrees with the step for its key (`Record.Follows`). What is
left is the order of the fields. `exists_fields_of_fieldValues?` takes the fields of an object in
the order of the text, each with its tree and its value, and the fields of the value are these,
inserted one after the other. With distinct keys that changes nothing about what is found under
a key (`lookup_insertFields`), and the two folds run over one list.

## Main definitions

* `Tree.HasDistinctKeys`: No object within the tree has a key twice.
* `Tree.Holds`: The value of a tree, by the kind of its root.
* `insertFields`: An object's fields with several more.
* `Record.Follows`: The slots of a record agree with a step on the fields of a value.

## Theorems

* `isComplete_of_value?`: Nothing is broken in a tree with a value.
* `exists_fields_of_fieldValues?`: The fields of an object in the order of the text.
* `lookup_insertFields`: What is found under a key among distinct ones.
* `Follows.read_object`: The object form of a record, read in both ways.
* `Follows.read_array`: The array form of a record, read in both ways.
-/

namespace ActionPlan

namespace Json

/-! ### Results without reasons -/

section Results

variable {ε ε' α β σ : Type}

theorem toOption_eq_some_iff {x : Except ε α} {a : α} : x.toOption = some a ↔ x = .ok a := by
  cases x with
  | error e => exact ⟨nofun, nofun⟩
  | ok b => exact ⟨fun h => congrArg _ (Option.some.inj h), fun h => congrArg _ (Except.ok.inj h)⟩

theorem toOption_bind (x : Except ε α) (f : α → Except ε β) :
    (x >>= f).toOption = x.toOption.bind fun a => (f a).toOption := by
  cases x <;> rfl

theorem toOption_map (x : Except ε α) (f : α → β) : (x.map f).toOption = x.toOption.map f := by
  cases x <;> rfl

/-- Two folds have the same result if their steps do. -/
theorem toOption_foldlM_congr {step : σ → α → Except ε σ} {step' : σ → α → Except ε' σ}
    {xs : List α} (h : ∀ x ∈ xs, ∀ s, (step s x).toOption = (step' s x).toOption) (s : σ) :
    (xs.foldlM step s).toOption = (xs.foldlM step' s).toOption := by
  induction xs generalizing s with
  | nil => rfl
  | cons x xs ih =>
      rw [List.foldlM_cons, List.foldlM_cons, toOption_bind, toOption_bind,
        h x List.mem_cons_self s]
      congr 1
      funext s'
      exact ih (fun y hy => h y (List.mem_cons_of_mem x hy)) s'

end Results

/-! ### Fields in the order of the text -/

/-- No object within the tree has a key twice. -/
inductive Tree.HasDistinctKeys : Tree → Prop
  | null : HasDistinctKeys .null
  | bool (b : Bool) : HasDistinctKeys (.bool b)
  | number (n : Option Number) : HasDistinctKeys (.number n)
  | string (s : Option String) : HasDistinctKeys (.string s)
  | array {items : List Tree} {closed : Bool} (h : ∀ tree ∈ items, HasDistinctKeys tree) :
      HasDistinctKeys (.array items closed)
  | object {fields : List (Option String × Tree)} {closed : Bool}
      (hkeys : (fields.map Prod.fst).Nodup) (h : ∀ field ∈ fields, HasDistinctKeys field.2) :
      HasDistinctKeys (.object fields closed)
  | broken : HasDistinctKeys .broken

/-- The tree has the value, and their roots are of one kind. -/
inductive Tree.Holds (depth : Nat) : Tree → Value → Prop
  | null : Holds depth .null .null
  | bool (b : Bool) : Holds depth (.bool b) (.bool b)
  | number (n : Number) : Holds depth (.number (some n)) (.number n)
  | string (s : String) : Holds depth (.string (some s)) (.string s)
  | array {trees : List Tree} {items : List Value}
      (h : (Tree.array trees true).value? depth = some (.array items)) :
      Holds depth (.array trees true) (.array items)
  | object {trees : List (Option String × Tree)} {fields : List (String × Value)}
      (h : (Tree.object trees true).value? depth = some (.object fields)) :
      Holds depth (.object trees true) (.object fields)

theorem holds_of_value? {depth : Nat} {tree : Tree} {v : Value}
    (h : tree.value? depth = some v) : tree.Holds depth v := by
  cases tree with
  | null => exact Option.some.inj h ▸ .null
  | bool b => exact Option.some.inj h ▸ .bool b
  | number n =>
      rcases Option.map_eq_some_iff.mp h with ⟨n, rfl, rfl⟩
      exact .number n
  | string s =>
      rcases Option.map_eq_some_iff.mp h with ⟨s, rfl, rfl⟩
      exact .string s
  | array trees closed =>
      -- The whole hypothesis is kept, as it is what the constructor asks for.
      have hopen := h
      rcases depth with _ | depth
      · exact absurd h.symm (Option.some_ne_none v)
      · rw [Tree.value?] at h
        split at h
        · next hclosed =>
          subst hclosed
          rcases Option.map_eq_some_iff.mp h with ⟨items, _, rfl⟩
          exact .array hopen
        · -- An array that is never closed has no value.
          exact absurd h.symm (Option.some_ne_none v)
  | object trees closed =>
      have hopen := h
      rcases depth with _ | depth
      · exact absurd h.symm (Option.some_ne_none v)
      · rw [Tree.value?] at h
        split at h
        · next hclosed =>
          subst hclosed
          rcases Option.map_eq_some_iff.mp h with ⟨fields, _, rfl⟩
          exact .object hopen
        · exact absurd h.symm (Option.some_ne_none v)
  | broken => exact absurd h.symm (Option.some_ne_none v)

/-- The value of a text that holds nothing else is that of its tree. -/
theorem ofText?_eq {text : String} {tree : Tree} (h : Tree.ofText text = (tree, true)) :
    Value.ofText? text = tree.value? depthLimit := by
  unfold Value.ofText?
  rw [h]
  rfl

mutual

/-- Nothing is broken in a tree with a value. -/
theorem isComplete_of_value? {depth : Nat} : ∀ {tree : Tree} {v : Value},
    tree.value? depth = some v → tree.isComplete = true
  | .null, _, _ | .bool _, _, _ | .number _, _, _ | .string _, _, _ => rfl
  | .array trees closed, v, h => by
      rcases depth with _ | depth
      · exact absurd h nofun
      · rw [Tree.value?] at h
        split at h
        · next hclosed =>
          -- Every element has a value, so none of them is broken.
          rcases Option.map_eq_some_iff.mp h with ⟨_, hitems, _⟩
          rw [Tree.isComplete, allComplete_of_values? hitems, hclosed, Bool.and_self]
        · exact absurd h nofun
  | .object trees closed, v, h => by
      rcases depth with _ | depth
      · exact absurd h nofun
      · rw [Tree.value?] at h
        split at h
        · next hclosed =>
          rcases Option.map_eq_some_iff.mp h with ⟨_, hfields, _⟩
          rw [Tree.isComplete, allFieldsComplete_of_fieldValues? hfields, hclosed, Bool.and_self]
        · exact absurd h nofun
  | .broken, _, h => absurd h nofun

theorem allComplete_of_values? {depth : Nat} : ∀ {trees : List Tree} {items : List Value},
    values? depth trees = some items → allComplete trees = true
  | [], _, _ => rfl
  | tree :: trees, _, h => by
      rcases Option.bind_eq_some_iff.mp h with ⟨_, hfirst, h⟩
      rcases Option.bind_eq_some_iff.mp h with ⟨_, hrest, _⟩
      rw [allComplete, isComplete_of_value? hfirst, allComplete_of_values? hrest, Bool.and_self]

theorem allFieldsComplete_of_fieldValues? {depth : Nat} :
    ∀ {trees : List (Option String × Tree)} {done fields : List (String × Value)},
      fieldValues? depth done trees = some fields → allFieldsComplete trees = true
  | [], _, _, _ => rfl
  | (_, tree) :: trees, _, _, h => by
      rcases Option.bind_eq_some_iff.mp h with ⟨_, _, h⟩
      rcases Option.bind_eq_some_iff.mp h with ⟨_, hv, h⟩
      rw [allFieldsComplete, isComplete_of_value? hv, allFieldsComplete_of_fieldValues? h,
        Bool.and_self]

end

/-- The fields with several more among them, the later ones last. -/
def insertFields (more done : List (String × Value)) : List (String × Value) :=
  more.foldl (fun done field => insertField field.1 field.2 done) done

/-- With distinct keys among the new fields, what is found under a key is the new one, if there
    is one, and what was there otherwise. -/
theorem lookup_insertFields {more : List (String × Value)} (hkeys : (more.map Prod.fst).Nodup)
    (done : List (String × Value)) (key : String) :
    (insertFields more done).lookup key = (more.lookup key).or (done.lookup key) := by
  induction more generalizing done with
  | nil => rfl
  | cons field more ih =>
      rcases field with ⟨first, v⟩
      rw [List.map_cons, List.nodup_cons] at hkeys
      change (insertFields more (insertField first v done)).lookup key = _
      rw [ih hkeys.2, lookup_insertField]
      by_cases hkey : key = first
      · -- No later field has the same key.
        subst hkey
        have hnone : more.lookup key = none := by
          rcases hmore : more.lookup key with _ | w
          · rfl
          · exact absurd (List.mem_map_of_mem (mem_of_lookup hmore)) hkeys.1
        rw [if_pos rfl, lookup_cons_self, hnone, Option.none_or, Option.some_or]
      · -- The key that is looked for is another one, and the insertion does not show.
        rw [if_neg hkey, lookup_cons_of_ne hkey]

/-- An object's fields in the order of the text, each with its key, its tree and its value. The
    fields of the value are these, inserted one after the other. -/
theorem exists_fields_of_fieldValues? {depth : Nat} {trees : List (Option String × Tree)}
    {done fields : List (String × Value)} (h : fieldValues? depth done trees = some fields) :
    ∃ inOrder : List (String × Tree × Value),
      trees = inOrder.map (fun field => (some field.1, field.2.1)) ∧
        (∀ field ∈ inOrder, field.2.1.value? depth = some field.2.2) ∧
        fields = insertFields (inOrder.map fun field => (field.1, field.2.2)) done := by
  induction trees generalizing done with
  | nil => exact ⟨[], rfl, fun _ h => absurd h List.not_mem_nil, (Option.some.inj h).symm⟩
  | cons first trees ih =>
      rcases first with ⟨key?, tree⟩
      -- A field with a value has a key that is a string, and a tree with a value.
      rcases Option.bind_eq_some_iff.mp h with ⟨key, rfl, h⟩
      rcases Option.bind_eq_some_iff.mp h with ⟨v, hv, h⟩
      rcases ih h with ⟨inOrder, rfl, hvalues, rfl⟩
      refine ⟨(key, tree, v) :: inOrder, rfl, fun field hfield => ?_, rfl⟩
      rcases List.mem_cons.mp hfield with rfl | hlater
      · exact hv
      · exact hvalues field hlater

/-! ### Records -/

variable {ρ σ ε : Type} {record : Record ρ σ} {step : σ → String × Value → Except ε σ}

/-- Each slot of the record does to a tree what the step does to the tree's value under the
    slot's key, and the step skips all other fields. -/
structure Record.Follows (record : Record ρ σ) (step : σ → String × Value → Except ε σ) :
    Prop where
  slot : ∀ slot ∈ record.slots, ∀ {depth : Nat} {tree : Tree} {v : Value},
    tree.value? depth = some v → tree.HasDistinctKeys → ∀ built : σ,
      (slot.read depth tree built).toOption = (step built (slot.key, v)).toOption
  other : ∀ {key : String}, (∀ slot ∈ record.slots, slot.key ≠ key) → ∀ (built : σ) (v : Value),
    step built (key, v) = .ok built

namespace Record.Follows

theorem put (h : record.Follows step) {depth : Nat} {tree : Tree} {v : Value}
    (hv : tree.value? depth = some v) (hdistinct : tree.HasDistinctKeys) (key : String)
    (built : σ) :
    (record.put depth built (key, tree)).toOption = (step built (key, v)).toOption := by
  unfold Record.put
  split
  · next slot hslot =>
    -- The slot is found by its key, so it reads what the step reads.
    have hkey := List.find?_some hslot
    change (slot.key == key) = true at hkey
    rw [← beq_iff_eq.mp hkey]
    exact h.slot slot (List.mem_of_find?_eq_some hslot) hv hdistinct built
  · next hnone =>
    -- No slot has the key. The tree is checked and dropped, and the step drops the value.
    have hother : ∀ slot ∈ record.slots, slot.key ≠ key := by
      intro slot hslot
      have hne := List.find?_eq_none.mp hnone slot hslot
      rwa [beq_iff_eq] at hne
    rw [if_pos (isComplete_of_value? hv), h.other hother]
    rfl

/-- The object form of a record is read in one pass as it is read from the fields of its value,
    brought into the order of the text. -/
theorem read_object (h : record.Follows step) {depth : Nat}
    {trees : List (Option String × Tree)} {closed : Bool} {fields : List (String × Value)}
    (hvalue : (Tree.object trees closed).value? depth = some (.object fields))
    (hdistinct : (Tree.object trees closed).HasDistinctKeys) :
    ∃ inOrder : List (String × Value), (Value.object inOrder).HasDistinctKeys ∧
      (∀ key, inOrder.lookup key = fields.lookup key) ∧
      (record.read depth (.object trees closed)).toOption =
        (inOrder.foldlM step record.blank).toOption := by
  rcases depth with _ | depth
  · exact absurd hvalue.symm (Option.some_ne_none _)
  rw [Tree.value?] at hvalue
  split at hvalue
  · next hclosed =>
    rcases Option.map_eq_some_iff.mp hvalue with ⟨fields', hfields, heq⟩
    rw [Value.object.inj heq] at hfields
    rcases exists_fields_of_fieldValues? hfields with ⟨inOrder, rfl, hvalues, rfl⟩
    cases hdistinct with
    | object hkeys htrees =>
        -- The keys of the trees are those of the values.
        have hkeys' : (inOrder.map Prod.fst).Nodup := by
          rw [List.map_map] at hkeys
          exact List.Nodup.of_map some (by rwa [List.map_map])
        have hvaluekeys : ((inOrder.map fun field => (field.1, field.2.2)).map Prod.fst).Nodup := by
          rw [List.map_map]
          exact hkeys'
        have htreekeys : ((inOrder.map fun field => (field.1, field.2.1)).map Prod.fst).Nodup := by
          rw [List.map_map]
          exact hkeys'
        refine ⟨inOrder.map fun field => (field.1, field.2.2), .object hvaluekeys ?_, ?_, ?_⟩
        · intro field hfield
          rcases List.mem_map.mp hfield with ⟨whole, hwhole, rfl⟩
          exact value?_hasDistinctKeys depth _ (hvalues whole hwhole)
        · intro key
          rw [lookup_insertFields hvaluekeys, List.lookup_nil, Option.or_none]
        · have hread := readFields_eq_foldlM record depth htreekeys
            (fun _ _ => List.not_mem_nil) record.blank
          rw [List.map_map, List.foldlM_map] at hread
          rw [Record.read, hclosed, List.foldlM_map]
          refine (congrArg Except.toOption ((bind_pure _).trans hread)).trans ?_
          refine toOption_foldlM_congr (fun field hfield built => ?_) record.blank
          exact h.put (hvalues field hfield)
            (htrees _ (List.mem_map_of_mem hfield)) field.1 built
  · exact absurd hvalue.symm (Option.some_ne_none _)

/-- The slots of a record, read from an array that may end before any of them, and from the
    values under the keys of the slots in their order. -/
theorem readItems_eq (h : record.Follows step) {depth : Nat} {trees : List Tree}
    {items : List Value} (hvalues : values? depth trees = some items)
    (hdistinct : ∀ tree ∈ trees, tree.HasDistinctKeys) {slots : List (Slot ρ σ)}
    (hslots : ∀ slot ∈ slots, slot ∈ record.slots ∧ slot.demanded = false) (count : Nat)
    (built : σ) (e : ε) :
    (record.readItems depth true count built slots trees).toOption =
      (((slots.map Slot.key).zip items).foldlM step built >>= fun built =>
        if slots.length < items.length then .error e else .ok built).toOption := by
  induction slots generalizing trees items count built with
  | nil =>
      cases trees with
      | nil =>
          rw [← Option.some.inj hvalues]
          rfl
      | cons tree trees =>
          -- What is left over is refused by both.
          rcases Option.bind_eq_some_iff.mp hvalues with ⟨v, _, hrest⟩
          rcases Option.bind_eq_some_iff.mp hrest with ⟨vs, _, hcons⟩
          rw [← Option.some.inj hcons]
          rfl
  | cons slot slots ih =>
      have hlater : ∀ other ∈ slots, other ∈ record.slots ∧ other.demanded = false :=
        fun other hother => hslots other (List.mem_cons_of_mem slot hother)
      rcases hslots slot List.mem_cons_self with ⟨hslot, hoptional⟩
      cases trees with
      | nil =>
          have hnil : items = [] := (Option.some.inj hvalues).symm
          subst hnil
          rw [Record.readItems, if_neg (by decide), hoptional, if_neg (by decide),
            ih hvalues hdistinct hlater, List.zip_nil_right, List.zip_nil_right]
          rfl
      | cons tree trees =>
          rcases Option.bind_eq_some_iff.mp hvalues with ⟨v, hv, hrest⟩
          rcases Option.bind_eq_some_iff.mp hrest with ⟨vs, hvs, hcons⟩
          rw [← Option.some.inj hcons, List.map_cons, List.zip_cons_cons, List.foldlM_cons,
            bind_assoc, Record.readItems, toOption_bind, toOption_bind,
            h.slot slot hslot hv (hdistinct tree List.mem_cons_self) built]
          congr 1
          funext built'
          rw [ih hvs (fun other hother => hdistinct other (List.mem_cons_of_mem tree hother)) hlater,
            List.length_cons, List.length_cons]
          simp only [Nat.add_lt_add_iff_right]

/-- The array form of a record none of whose fields has to be there is read in one pass as it is
    read from the items of its value, under the keys of the record. -/
theorem read_array (h : record.Follows step) (hoptional : ∀ slot ∈ record.slots,
    slot.demanded = false) {depth : Nat} {trees : List Tree} {closed : Bool} {items : List Value}
    (hvalue : (Tree.array trees closed).value? depth = some (.array items))
    (hdistinct : (Tree.array trees closed).HasDistinctKeys) (e : ε) :
    (record.read depth (.array trees closed)).toOption =
      (((record.slots.map Slot.key).zip items).foldlM step record.blank >>= fun built =>
        if record.slots.length < items.length then .error e else .ok built).toOption := by
  rcases depth with _ | depth
  · exact absurd hvalue.symm (Option.some_ne_none _)
  rw [Tree.value?] at hvalue
  split at hvalue
  · next hclosed =>
    rcases Option.map_eq_some_iff.mp hvalue with ⟨items', hitems, heq⟩
    rw [Value.array.inj heq] at hitems
    cases hdistinct with
    | array htrees =>
        -- A closed array is read item by item, and it may stop anywhere.
        rw [Record.read, hclosed]
        exact h.readItems_eq hitems htrees (fun slot hslot => ⟨hslot, hoptional slot hslot⟩) 0
          record.blank e
  · exact absurd hvalue.symm (Option.some_ne_none _)

end Record.Follows

end Json

end ActionPlan
