import ActionPlan.Json.Tree
import ActionPlan.Proofs.Item.Fields
import Mathlib.Data.String.Basic

/-!
# Keys of Objects

An object keeps its fields as a list, which could hold a key twice. What was read never does
(`ofText?_hasDistinctKeys`), and about such objects two questions have the same answer: which
value is found under a key, and which fields there are. A reader that goes through the fields
one after the other may then be described by what it finds under each key, and the order of the
fields is of no account.

Such a reader fills in a record, one step for each field. `IsPart` is what it takes to follow a
single part of the record through all the steps: the field with the part's key determines it,
and every other field leaves it alone.

## Main definitions

* `Value.HasDistinctKeys`: No object within the value has a key twice.
* `Value.ordered`: The value with the keys of its objects in ascending order.
* `IsAscending`: Fields in ascending order of their keys.
* `readOr`: What is read under a key, or what stands for an absent field.
* `IsPart`: A part of a record that one key determines.

## Theorems

* `mem_iff_lookup`: With distinct keys, fields are what is found under their keys.
* `lookup_orderedFields`: Bringing keys into order moves no value to another key.
* `ordered_hasDistinctKeys`: Keys in ascending order are distinct.
* `value?_hasDistinctKeys`, `ofText?_hasDistinctKeys`: A value that is read has distinct keys.
* `IsPart.readOr_of_foldlM`: A part of a record is what its key says.
* `exists_foldlM_eq_ok`: Reading field by field succeeds if every step does.
-/

namespace ActionPlan

namespace Json

variable {fields : List (String × Value)} {key : String} {v : Value}

/-! ### Distinct keys -/

/-- No object within the value has a key twice. -/
inductive Value.HasDistinctKeys : Value → Prop
  | null : HasDistinctKeys .null
  | bool (b : Bool) : HasDistinctKeys (.bool b)
  | number (n : Number) : HasDistinctKeys (.number n)
  | string (s : String) : HasDistinctKeys (.string s)
  | array {items : List Value} (h : ∀ v ∈ items, HasDistinctKeys v) : HasDistinctKeys (.array items)
  | object {fields : List (String × Value)} (hkeys : (fields.map Prod.fst).Nodup)
      (h : ∀ field ∈ fields, HasDistinctKeys field.2) : HasDistinctKeys (.object fields)

theorem Value.HasDistinctKeys.nodup (h : (Value.object fields).HasDistinctKeys) :
    (fields.map Prod.fst).Nodup := by
  cases h with
  | object hkeys _ => exact hkeys

theorem mem_of_lookup (h : fields.lookup key = some v) : (key, v) ∈ fields := by
  rcases List.lookup_eq_some_iff.mp h with ⟨before, after, rfl, _⟩
  exact List.mem_append_right before List.mem_cons_self

theorem Value.HasDistinctKeys.of_lookup (h : (Value.object fields).HasDistinctKeys)
    (hv : fields.lookup key = some v) : v.HasDistinctKeys := by
  cases h with
  | object _ hvalues => exact hvalues _ (mem_of_lookup hv)

/-- With distinct keys, fields are what is found under their keys. -/
theorem mem_iff_lookup (hkeys : (fields.map Prod.fst).Nodup) :
    (key, v) ∈ fields ↔ fields.lookup key = some v := by
  refine ⟨fun h => ?_, mem_of_lookup⟩
  rcases List.append_of_mem h with ⟨before, after, rfl⟩
  refine List.lookup_eq_some_iff.mpr ⟨before, after, rfl, fun field hfield => ?_⟩
  rw [List.map_append, List.nodup_append] at hkeys
  rw [bne_iff_ne]
  exact (hkeys.2.2 field.1 (List.mem_map_of_mem hfield) key List.mem_cons_self).symm

theorem lookup_cons_self : ((key, v) :: fields).lookup key = some v := by
  rw [List.lookup_cons, beq_self_eq_true]

theorem lookup_cons_of_ne {other : String} (h : key ≠ other) :
    ((other, v) :: fields).lookup key = fields.lookup key := by
  rw [List.lookup_cons, beq_false_of_ne h]

/-! ### Ascending keys -/

theorem lookup_insertField (other : String) :
    (insertField other v fields).lookup key =
      if key = other then some v else fields.lookup key := by
  induction fields with
  | nil =>
      rw [insertField]
      split
      · next h => rw [h, lookup_cons_self]
      · next h => exact lookup_cons_of_ne h
  | cons field fields ih =>
      rcases field with ⟨first, w⟩
      rw [insertField]
      by_cases hkey : key = other
      · -- The field that was added is found, wherever it went.
        subst hkey
        rw [if_pos rfl]
        split
        · exact lookup_cons_self
        · next hfirst =>
          split
          · exact lookup_cons_self
          · rw [lookup_cons_of_ne hfirst, ih, if_pos rfl]
      · -- Any other key finds what it has found before.
        rw [if_neg hkey]
        split
        · next hfirst =>
          rw [lookup_cons_of_ne hkey, lookup_cons_of_ne (hfirst ▸ hkey)]
        · split
          · exact lookup_cons_of_ne hkey
          · rw [List.lookup_cons, List.lookup_cons, ih, if_neg hkey]

theorem mem_insertField {field : String × Value} (h : field ∈ insertField key v fields) :
    field = (key, v) ∨ field ∈ fields := by
  induction fields with
  | nil => exact .inl (List.mem_singleton.mp h)
  | cons first fields ih =>
      rw [insertField] at h
      split at h
      · -- The field replaces the first one.
        exact (List.mem_cons.mp h).imp_right (List.mem_cons_of_mem first)
      · split at h
        · -- It goes in front of the first one.
          exact List.mem_cons.mp h
        · -- It goes somewhere behind the first one.
          rcases List.mem_cons.mp h with rfl | hlater
          · exact .inr List.mem_cons_self
          · exact (ih hlater).imp_right (List.mem_cons_of_mem first)

/-- A field takes its place among fields in ascending order. -/
theorem pairwise_insertField (h : fields.Pairwise (·.1 < ·.1)) :
    (insertField key v fields).Pairwise (·.1 < ·.1) := by
  induction fields with
  | nil => exact List.pairwise_singleton _ _
  | cons first fields ih =>
      have hrest := List.pairwise_cons.mp h
      rw [insertField]
      split
      · -- The keys stay as they are when a field is replaced.
        next heq => exact List.pairwise_cons.mpr ⟨fun field hfield => heq ▸ hrest.1 field hfield,
          hrest.2⟩
      · next hne =>
        split
        · -- What is before the first key is before all of them.
          next hlt =>
          refine List.pairwise_cons.mpr ⟨fun field hfield => ?_, h⟩
          rcases List.mem_cons.mp hfield with rfl | hlater
          · exact hlt
          · exact hlt.trans (hrest.1 field hlater)
        · -- The rest takes the field, and its key comes behind the first one.
          next hge =>
          refine List.pairwise_cons.mpr ⟨fun field hfield => ?_, ih hrest.2⟩
          rcases mem_insertField hfield with rfl | hlater
          · exact (lt_or_gt_of_ne hne).resolve_left hge
          · exact hrest.1 field hlater

mutual

/-- The value with the keys of its objects in ascending order. -/
def Value.ordered : Value → Value
  | .array items => .array (orderedItems items)
  | .object fields => .object (orderedFields fields)
  | .null => .null
  | .bool b => .bool b
  | .number n => .number n
  | .string s => .string s

/-- The items of an array, with keys in ascending order. -/
def orderedItems : List Value → List Value
  | [] => []
  | v :: vs => v.ordered :: orderedItems vs

/-- The fields of an object, with keys in ascending order. -/
def orderedFields : List (String × Value) → List (String × Value)
  | [] => []
  | (key, v) :: fields => insertField key v.ordered (orderedFields fields)

end

/-- Bringing keys into order moves no value to another key. -/
theorem lookup_orderedFields (fields : List (String × Value)) (key : String) :
    (orderedFields fields).lookup key = (fields.lookup key).map Value.ordered := by
  induction fields with
  | nil => rfl
  | cons field fields ih =>
      rcases field with ⟨other, v⟩
      rw [orderedFields, lookup_insertField]
      split
      · next h => rw [h, lookup_cons_self, Option.map_some]
      · next h => rw [lookup_cons_of_ne h, ih]

/-- The keys are in ascending order, and no value has a key twice. -/
structure IsAscending (fields : List (String × Value)) : Prop where
  keys : fields.Pairwise (·.1 < ·.1)
  values : ∀ field ∈ fields, field.2.HasDistinctKeys

theorem IsAscending.insertField (h : IsAscending fields) (hv : v.HasDistinctKeys) :
    IsAscending (insertField key v fields) := by
  refine ⟨pairwise_insertField h.keys, fun field hfield => ?_⟩
  rcases mem_insertField hfield with rfl | hold
  · exact hv
  · exact h.values field hold

theorem IsAscending.object (h : IsAscending fields) : (Value.object fields).HasDistinctKeys :=
  .object (List.pairwise_map.mpr (h.keys.imp ne_of_lt)) h.values

mutual

/-- The value in order has no key twice. -/
theorem ordered_hasDistinctKeys : ∀ v : Value, v.ordered.HasDistinctKeys
  | .null => .null
  | .bool b => .bool b
  | .number n => .number n
  | .string s => .string s
  | .array items => .array (orderedItems_hasDistinctKeys items)
  | .object fields => (orderedFields_isAscending fields).object

theorem orderedItems_hasDistinctKeys : ∀ items : List Value, ∀ v ∈ orderedItems items,
    v.HasDistinctKeys
  | [], _, h => absurd h List.not_mem_nil
  | first :: items, _, h =>
      (List.mem_cons.mp h).elim (fun heq => heq ▸ ordered_hasDistinctKeys first)
        (orderedItems_hasDistinctKeys items _)

theorem orderedFields_isAscending : ∀ fields : List (String × Value),
    IsAscending (orderedFields fields)
  | [] => ⟨.nil, fun _ h => absurd h List.not_mem_nil⟩
  | (_, v) :: fields => (orderedFields_isAscending fields).insertField (ordered_hasDistinctKeys v)

end

mutual

/-- A value that is read from a text has no key twice. -/
theorem value?_hasDistinctKeys (depth : Nat) : ∀ (tree : Tree) {v : Value},
    tree.value? depth = some v → v.HasDistinctKeys
  | .null, _, h => Option.some.inj h ▸ .null
  | .bool b, _, h => Option.some.inj h ▸ .bool b
  | .number n, v, h => by
      rcases Option.map_eq_some_iff.mp h with ⟨n, _, rfl⟩
      exact .number n
  | .string s, v, h => by
      rcases Option.map_eq_some_iff.mp h with ⟨s, _, rfl⟩
      exact .string s
  | .array items closed, v, h => by
      rcases depth with _ | depth
      · exact absurd h nofun
      · rw [Tree.value?] at h
        split at h
        · rcases Option.map_eq_some_iff.mp h with ⟨items, hitems, rfl⟩
          exact .array (values?_hasDistinctKeys depth _ hitems)
        · exact absurd h nofun
  | .object fields closed, v, h => by
      rcases depth with _ | depth
      · exact absurd h nofun
      · rw [Tree.value?] at h
        split at h
        · rcases Option.map_eq_some_iff.mp h with ⟨fields, hfields, rfl⟩
          -- Fields are put in their place by their keys, and two with one key are one.
          exact (fieldValues?_isAscending depth _ ⟨.nil, fun _ h => absurd h List.not_mem_nil⟩
            hfields).object
        · exact absurd h nofun
  | .broken, _, h => absurd h nofun

theorem values?_hasDistinctKeys (depth : Nat) : ∀ (trees : List Tree) {items : List Value},
    values? depth trees = some items → ∀ v ∈ items, v.HasDistinctKeys
  | [], _, h, v, hv => by
      rw [← Option.some.inj h] at hv
      exact absurd hv List.not_mem_nil
  | tree :: trees, items, h, v, hv => by
      rcases Option.bind_eq_some_iff.mp h with ⟨first, hfirst, h⟩
      rcases Option.bind_eq_some_iff.mp h with ⟨rest, hrest, h⟩
      rw [← Option.some.inj h] at hv
      rcases List.mem_cons.mp hv with rfl | hlater
      · exact value?_hasDistinctKeys depth tree hfirst
      · exact values?_hasDistinctKeys depth trees hrest v hlater

theorem fieldValues?_isAscending (depth : Nat) : ∀ (trees : List (Option String × Tree))
    {done fields : List (String × Value)}, IsAscending done →
    fieldValues? depth done trees = some fields → IsAscending fields
  | [], _, _, hdone, h => Option.some.inj h ▸ hdone
  | (key, tree) :: trees, _, _, hdone, h => by
      rcases Option.bind_eq_some_iff.mp h with ⟨key, _, h⟩
      rcases Option.bind_eq_some_iff.mp h with ⟨v, hv, h⟩
      exact fieldValues?_isAscending depth trees
        (hdone.insertField (value?_hasDistinctKeys depth tree hv)) h

end

/-- The value that a text holds has no key twice. -/
theorem ofText?_hasDistinctKeys {text : String} (h : Value.ofText? text = some v) :
    v.HasDistinctKeys := by
  unfold Value.ofText? at h
  simp only at h
  split at h
  · exact value?_hasDistinctKeys depthLimit _ h
  · exact absurd h nofun

/-! ### Reading field by field -/

section Steps

variable {ε σ α : Type} {step : σ → String × Value → Except ε σ} {s s' : σ}

/-- What is read under a key, or what stands for an absent field. -/
def readOr (read : Value → Except ε α) (absent : α) : Option Value → Except ε α
  | none => .ok absent
  | some v => read v

/-- The field with the key determines this part of a record, and no other field does. -/
structure IsPart (step : σ → String × Value → Except ε σ) (key : String)
    (read : Value → Except ε α) (get : σ → α) : Prop where
  own : ∀ {s s' v}, step s (key, v) = .ok s' → read v = .ok (get s')
  other : ∀ {s s' field}, field.1 ≠ key → step s field = .ok s' → get s' = get s

/-- A step that reads the value of a field and puts it into a part of the record. -/
theorem isPart_of_put {read : Value → Except ε α} {get : σ → α} (put : σ → α → σ)
    (hown : ∀ s v, step s (key, v) = read v >>= fun a => .ok (put s a))
    (hput : ∀ s a, get (put s a) = a)
    (hother : ∀ {s s' field}, field.1 ≠ key → step s field = .ok s' → get s' = get s) :
    IsPart step key read get := by
  refine ⟨fun {s s' v} h => ?_, hother⟩
  rw [hown] at h
  rcases bind_eq_ok_iff.mp h with ⟨a, ha, hs⟩
  rw [ha, ← Except.ok.inj hs, hput]

theorem IsPart.get_eq {read : Value → Except ε α} {get : σ → α} (h : IsPart step key read get)
    (hkey : key ∉ fields.map Prod.fst) (hsteps : fields.foldlM step s = .ok s') :
    get s' = get s := by
  induction fields generalizing s with
  | nil => rw [← Except.ok.inj hsteps]
  | cons field fields ih =>
      rw [List.map_cons, List.mem_cons, not_or] at hkey
      rw [List.foldlM_cons] at hsteps
      rcases bind_eq_ok_iff.mp hsteps with ⟨s₁, hfirst, hrest⟩
      rw [ih hkey.2 hrest, h.other (Ne.symm hkey.1) hfirst]

/-- A part of a record is what its key says. -/
theorem IsPart.readOr_of_foldlM {read : Value → Except ε α} {get : σ → α}
    (h : IsPart step key read get) (hkeys : (fields.map Prod.fst).Nodup)
    (hsteps : fields.foldlM step s = .ok s') :
    readOr read (get s) (fields.lookup key) = .ok (get s') := by
  induction fields generalizing s with
  | nil =>
      rw [← Except.ok.inj hsteps]
      rfl
  | cons field fields ih =>
      rcases field with ⟨first, v⟩
      rw [List.map_cons, List.nodup_cons] at hkeys
      rw [List.foldlM_cons] at hsteps
      rcases bind_eq_ok_iff.mp hsteps with ⟨s₁, hfirst, hrest⟩
      by_cases hkey : key = first
      · -- No later field has the same key.
        subst hkey
        rw [lookup_cons_self, h.get_eq hkeys.1 hrest]
        exact h.own hfirst
      · -- Another field leaves the part as it is.
        rw [lookup_cons_of_ne hkey, ← h.other (Ne.symm hkey) hfirst]
        exact ih hkeys.2 hrest

/-- Reading field by field succeeds if every step does. -/
theorem exists_foldlM_eq_ok (h : ∀ field ∈ fields, ∀ s, ∃ s', step s field = .ok s') (s : σ) :
    ∃ s', fields.foldlM step s = .ok s' := by
  induction fields generalizing s with
  | nil => exact ⟨s, rfl⟩
  | cons field fields ih =>
      rcases h field List.mem_cons_self s with ⟨s₁, hfirst⟩
      rcases ih (fun other hother => h other (List.mem_cons_of_mem field hother)) s₁ with
        ⟨s', hrest⟩
      exact ⟨s', by rw [List.foldlM_cons, hfirst]; exact hrest⟩

end Steps

end Json

end ActionPlan
