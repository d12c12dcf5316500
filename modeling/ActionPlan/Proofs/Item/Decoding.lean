import ActionPlan.Proofs.Item.Encoding
import ActionPlan.Proofs.Json.Agreement

/-!
# One Item from Two Readers

What a model answers becomes a value first, and items are read from that. A stored graph is read
in one pass, its items from their place in the text. An item must not depend on which of the
two ways it came, or a plan could be stored and not be executed, or the other way round.

Both readers build a draft, and the rules that make it an item are one function. So it is
about drafts: `draft_ofTree_eq` says that a tree and its value hold the same draft or none at
all. Each slot of the draft is compared on its own, and the slot for the verification is a
record again, in its two forms. The order of the keys is another matter. The tree has them as
they were written and the value in ascending order, but which draft there is depends only on
what is found under each key (`ofFields_eq_ok_iff`).

It takes distinct keys. A second field with one key is refused in a tree, where the value only
keeps the later one.

## Theorems

* `record_follows`, `verificationRecord_follows`: The slots of a draft and of its verification
  read what the fields of a value hold.
* `readVerification_eq`: A verification in one pass.
* `draft_ofTree_eq`: The draft in a tree is that in its value.
* `Item.ofText_eq_ok_iff`: The item in a text is that in its value.
-/

namespace ActionPlan

open Json

variable {depth : Nat} {tree : Tree} {v : Value}

/-! ### Fields -/

theorem readText_eq {ρ : Type} (h : tree.value? depth = some v) :
    (readOptional readString tree : Reading ρ (Option String)).toOption =
      (Draft.optionalString v).toOption := by
  cases holds_of_value? h <;> rfl

theorem readTruth_eq {ρ : Type} (h : tree.value? depth = some v) :
    (readBool tree : Reading ρ Bool).toOption = (Draft.truth v).toOption := by
  cases holds_of_value? h <;> rfl

theorem readAny_eq {ρ : Type} (h : tree.value? depth = some v) :
    (readOptional (readValue depth) tree : Reading ρ (Option Value)).toOption =
      (.ok (Draft.optionalValue v) : Except Misfit (Option Value)).toOption := by
  have hvalue : (readValue depth tree : Reading ρ Value) = .ok v := by
    unfold readValue
    rw [h]
  cases holds_of_value? h with
  | null | bool | number | string => rfl
  | array | object =>
      change ((readValue depth _).map some).toOption = _
      rw [hvalue]
      rfl

/-- A slot that reads a value and puts it into a part of the record. -/
theorem put_eq {ε ε' α σ : Type} {x : Except ε α} {y : Except ε' α}
    (h : x.toOption = y.toOption) (put : α → σ) :
    (x >>= fun a => .ok (put a)).toOption = (y >>= fun a => .ok (put a)).toOption := by
  rw [toOption_bind, toOption_bind, h]
  rfl

/-! ### Verifications -/

theorem verificationRecord_follows : Draft.verificationRecord.Follows Draft.setVerification where
  slot := by
    intro slot hslot depth tree v hv _ built
    simp only [Draft.verificationRecord, List.mem_cons, List.not_mem_nil, or_false] at hslot
    -- Each slot sets the field that its key sets, with a reader that accepts the same.
    rcases hslot with rfl | rfl | rfl | rfl
    · exact put_eq (readText_eq hv) fun t => { built with kind := t }
    · exact put_eq (readText_eq hv) fun t => { built with value := t }
    · exact put_eq (readTruth_eq hv) fun b => { built with requiresApproval := b }
    · exact put_eq (readText_eq hv) fun t => { built with reason := t }
  other := by
    intro key hkey built v
    simp only [Draft.verificationRecord, List.forall_mem_cons] at hkey
    unfold Draft.setVerification
    split
    · -- A key that no slot has is passed over on the other side, too.
      next h => exact absurd (congrArg Prod.fst h).symm hkey.1
    · next h => exact absurd (congrArg Prod.fst h).symm hkey.2.1
    · next h => exact absurd (congrArg Prod.fst h).symm hkey.2.2.1
    · next h => exact absurd (congrArg Prod.fst h).symm hkey.2.2.2.1
    · rfl

/-- Fields under which the same is found are the same verification. -/
theorem foldlM_setVerification_eq {fields fields' : List (String × Value)}
    (hkeys : (fields.map Prod.fst).Nodup) (hkeys' : (fields'.map Prod.fst).Nodup)
    (hsame : ∀ key, fields'.lookup key = fields.lookup key) :
    (fields'.foldlM Draft.setVerification {}).toOption =
      (fields.foldlM Draft.setVerification {}).toOption := by
  -- Verifications read the shapes of their fields, and these are the same.
  have hshape : ∀ key, shapeAt fields' key = shapeAt fields key := fun key => by
    rw [shapeAt, hsame, shapeAt]
  ext verification
  rw [toOption_eq_some_iff, toOption_eq_some_iff, foldlM_setVerification_eq_ok_iff hkeys',
    foldlM_setVerification_eq_ok_iff hkeys]
  constructor
  · rintro ⟨h, rfl⟩
    rcases h.of_shapeAt fun key => (hshape key).symm with ⟨h', hsame'⟩
    exact ⟨h', hsame'.symm⟩
  · rintro ⟨h, rfl⟩
    rcases h.of_shapeAt hshape with ⟨h', hsame'⟩
    exact ⟨h', hsame'.symm⟩

/-- A verification in one pass is that of the value. -/
theorem readVerification_eq (h : tree.value? depth = some v) (hdistinct : tree.HasDistinctKeys) :
    (Draft.verificationRecord.read depth tree).toOption = (Draft.verificationOf v).toOption := by
  cases holds_of_value? h with
  | null | bool | number | string => rfl
  | @array trees items hvalue =>
      -- No slot has to be filled, so the array may stop anywhere.
      refine (verificationRecord_follows.read_array ?_ hvalue hdistinct
        (.wrongLength items.length "fewer elements in array")).trans rfl
      simp only [Draft.verificationRecord, List.forall_mem_cons, List.not_mem_nil,
        IsEmpty.forall_iff, implies_true, and_self]
  | object hvalue =>
      -- The fields that are read are those of the value in another order.
      rcases verificationRecord_follows.read_object hvalue hdistinct with
        ⟨inOrder, hinOrder, hsame, hread⟩
      exact hread.trans (foldlM_setVerification_eq (value?_hasDistinctKeys depth _ hvalue).nodup
        hinOrder.nodup hsame)

theorem readOptionalVerification_eq (h : tree.value? depth = some v)
    (hdistinct : tree.HasDistinctKeys) :
    (readOptional (Draft.verificationRecord.read depth) tree).toOption =
      (Draft.optionalVerification v).toOption := by
  have hread := readVerification_eq h hdistinct
  cases holds_of_value? h with
  | null | bool | number | string => rfl
  | array | object =>
      exact (toOption_map (Draft.verificationRecord.read depth _) some).trans
        ((congrArg (Option.map some) hread).trans (toOption_map (Draft.verificationOf _) some).symm)

/-! ### Drafts -/

theorem record_follows : Draft.record.Follows Draft.set where
  slot := by
    intro slot hslot depth tree v hv hdistinct built
    simp only [Draft.record, List.mem_cons, List.not_mem_nil, or_false] at hslot
    -- As for a verification, but here one slot holds a record of its own.
    rcases hslot with rfl | rfl | rfl | rfl | rfl | rfl | rfl
    · exact put_eq (readText_eq hv) fun t => { built with actionType := t }
    · exact put_eq (readText_eq hv) fun t => { built with observationType := t }
    · exact put_eq (readText_eq hv) fun t => { built with context := t }
    · exact put_eq (readAny_eq hv) fun w => { built with target := w }
    · exact put_eq (readAny_eq hv) fun w => { built with text := w }
    · exact put_eq (readOptionalVerification_eq hv hdistinct)
        fun w => { built with verification := w }
    · exact put_eq (readAny_eq hv) fun w => { built with coordinates := w }
  other := by
    intro key hkey built v
    simp only [Draft.record, List.forall_mem_cons] at hkey
    unfold Draft.set
    split
    · -- A key that is no slot is not looked at in either way.
      next h => exact absurd (congrArg Prod.fst h).symm hkey.1
    · next h => exact absurd (congrArg Prod.fst h).symm hkey.2.1
    · next h => exact absurd (congrArg Prod.fst h).symm hkey.2.2.1
    · next h => exact absurd (congrArg Prod.fst h).symm hkey.2.2.2.1
    · next h => exact absurd (congrArg Prod.fst h).symm hkey.2.2.2.2.1
    · next h => exact absurd (congrArg Prod.fst h).symm hkey.2.2.2.2.2.1
    · next h => exact absurd (congrArg Prod.fst h).symm hkey.2.2.2.2.2.2.1
    · rfl

/-- Fields under which the same is found are the same draft. -/
theorem ofFields_eq_of_lookup {fields fields' : List (String × Value)}
    (hdistinct : (Value.object fields).HasDistinctKeys)
    (hdistinct' : (Value.object fields').HasDistinctKeys)
    (hsame : ∀ key, fields'.lookup key = fields.lookup key) :
    (Draft.ofFields fields').toOption = (Draft.ofFields fields).toOption := by
  -- The draft depends on the fields only by what is found under its keys.
  have hshape : ∀ key, shapeAt fields' key = shapeAt fields key := fun key => by
    rw [shapeAt, hsame, shapeAt]
  have hdraft : ∀ verification, draftIn fields' verification = draftIn fields verification :=
    fun verification => by simp only [draftIn, hshape, hsame]
  ext draft
  rw [toOption_eq_some_iff, toOption_eq_some_iff, ofFields_eq_ok_iff hdistinct',
    ofFields_eq_ok_iff hdistinct, hdraft]
  refine and_congr_left' ⟨fun h => ?_, fun h => ?_⟩
  · rcases h with ⟨haction, hobservation, hcontext, hverify⟩
    rw [hshape] at haction hobservation hcontext
    rw [hsame] at hverify
    exact ⟨haction, hobservation, hcontext, hverify⟩
  · rcases h with ⟨haction, hobservation, hcontext, hverify⟩
    rw [← hshape] at haction hobservation hcontext
    rw [← hsame] at hverify
    exact ⟨haction, hobservation, hcontext, hverify⟩

/-- The draft in the tree of an object is that in its value. -/
theorem draft_ofTree_eq {fields : List (String × Value)}
    (h : tree.value? depth = some (.object fields)) (hdistinct : tree.HasDistinctKeys) :
    (Draft.ofTree depth tree).toOption = (Draft.ofFields fields).toOption := by
  cases holds_of_value? h with
  | object hvalue =>
      rcases record_follows.read_object hvalue hdistinct with ⟨inOrder, hinOrder, hsame, hread⟩
      exact hread.trans (ofFields_eq_of_lookup (value?_hasDistinctKeys depth _ hvalue) hinOrder
        hsame)

/-! ### Items -/

/-- The item in the tree of an object is that in its value, at whatever depth it stands. -/
theorem item_ofTree_eq {fields : List (String × Value)}
    (h : tree.value? depth = some (.object fields)) (hdistinct : tree.HasDistinctKeys) :
    (Item.ofTree depth tree).toOption = (Item.ofValue (.object fields)).toOption := by
  have hdraft := draft_ofTree_eq h hdistinct
  unfold Item.ofTree Item.ofValue
  simp only
  rw [toOption_bind, hdraft]
  rcases Draft.ofFields fields with misfit | draft
  · rfl
  · -- The same rules apply to the draft.
    simp only [Except.toOption, Option.bind_some]
    rcases draft.item with e | item <;> rfl

/-- In a text without a key that comes twice in an object, the item that is read in one pass is
    the item in the value of the text. Stored plans are read in the first way, and what a model
    answers in the second. -/
theorem Item.ofText_eq_ok_iff {text : String} {fields : List (String × Value)}
    (hvalue : Value.ofText? text = some (.object fields))
    (hdistinct : (Tree.ofText text).1.HasDistinctKeys) (item : Item) :
    ofText text = .ok item ↔ ofValue (.object fields) = .ok item := by
  unfold Value.ofText? at hvalue
  unfold ofText
  rcases htree : Tree.ofText text with ⟨tree, ends⟩
  rw [htree] at hvalue hdistinct
  simp only at hvalue hdistinct ⊢
  split at hvalue
  · next hends =>
    -- Only the messages of the errors differ, so it is enough to compare what is accepted.
    rw [← toOption_eq_some_iff, ← toOption_eq_some_iff (x := ofValue _),
      ← item_ofTree_eq hvalue hdistinct, hends]
    exact iff_of_eq (congrArg (fun x => Except.toOption x = some item) (bind_pure _))
  · exact absurd hvalue nofun

/-- An action with its keys in no order, a key that is no part of it, a number for a target, a
    null, and the array form of a verification. -/
theorem Item.ofText_eq_ok_iff_shuffled :
    let v : Value := .object
      [ ("verify", .array [.string "text_visible", .null, .bool true]),
        ("note", .object [("b", .null), ("a", .array [])]), ("target", .number (.natural 7)),
        ("coordinates", .null), ("text", .string "hi"), ("context", .string "web"),
        ("action_type", .string "type_text") ]
    let fields : List (String × Value) :=
      [ ("action_type", .string "type_text"), ("context", .string "web"), ("coordinates", .null),
        ("note", .object [("a", .array []), ("b", .null)]), ("target", .number (.natural 7)),
        ("text", .string "hi"), ("verify", .array [.string "text_visible", .null, .bool true]) ]
    let item : Item := .action ⟨.typeText, .web, some "7", some "hi",
      some { kind := some "text_visible", requiresApproval := true }⟩
    Value.ofText? v.pretty = some (.object fields) ∧
      (Tree.ofText v.pretty).1.HasDistinctKeys ∧ ofValue (.object fields) = .ok item ∧
      ofText v.pretty = .ok item := by
  intro v fields item
  -- A printed value is read as its tree, since its numbers fit.
  have htree : Tree.ofText v.pretty = (v.tree, true) := by
    refine ofText_pretty (.object fun field hfield => ?_)
    simp only [List.mem_cons, List.not_mem_nil, or_false] at hfield
    rcases hfield with rfl | rfl | rfl | rfl | rfl | rfl | rfl
    · refine .array fun w hw => ?_
      simp only [List.mem_cons, List.not_mem_nil, or_false] at hw
      rcases hw with rfl | rfl | rfl
      exacts [.string _, .null, .bool _]
    · refine .object fun other hother => ?_
      rcases List.mem_pair.mp hother with rfl | rfl
      exacts [.null, .array fun _ h => absurd h List.not_mem_nil]
    · exact .natural (by decide)
    · exact .null
    · exact .string _
    · exact .string _
    · exact .string _
  have hvalue : Value.ofText? v.pretty = some (.object fields) := by
    rw [ofText?_eq htree]
    cbv
  -- No object of the text has a key twice.
  have hdistinct : (Tree.ofText v.pretty).1.HasDistinctKeys := by
    rw [htree]
    refine .object (by decide) fun field hfield => ?_
    simp only [fieldTrees, itemTrees, Value.tree, List.mem_cons, List.not_mem_nil, or_false]
      at hfield
    rcases hfield with rfl | rfl | rfl | rfl | rfl | rfl | rfl
    · refine .array fun tree htree => ?_
      simp only [List.mem_cons, List.not_mem_nil, or_false] at htree
      rcases htree with rfl | rfl | rfl
      exacts [.string _, .null, .bool _]
    · refine .object (by decide) fun other hother => ?_
      rcases List.mem_pair.mp hother with rfl | rfl
      exacts [.null, .array fun _ h => absurd h List.not_mem_nil]
    · exact .number _
    · exact .null
    · exact .string _
    · exact .string _
    · exact .string _
  have hitem : ofValue (.object fields) = .ok item := rfl
  exact ⟨hvalue, hdistinct, hitem, (Item.ofText_eq_ok_iff hvalue hdistinct item).mpr hitem⟩

end ActionPlan
