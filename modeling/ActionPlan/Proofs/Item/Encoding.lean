import ActionPlan.Proofs.Item.Schema

/-!
# Items that Are Written Again

An item is printed in one form, though it may have been read from many: its type stands under
the key it belongs to, a number has become a text, blank and null fields are gone. So reading
is a normalization. Its results keep the rules for items, and each of them is read again, as it
is, from what it is printed as.

What is read on the way back is a draft, always the same one, however it came to the reader: as
fields in the order they are printed in, in the order of their keys, or as a tree. `Item.draft`
is this draft, and `item_draft` takes it back to the item once and for all.

## Main definitions

* `Item.draft`: The draft that an item is printed as.
* `FieldsAmong`: Fields with some of the keys, each at most once.

## Theorems

* `item_draft`: The draft of an item becomes that item again.
* `ofFields_jsonValue`: A printed item is read as its draft.
* `ofValue_jsonValue`: A printed item is read as itself.
* `jsonValue_induction`: A printed item is made up of texts and approvals, in objects with
  distinct keys.
* `jsonValue_hasDistinctKeys`: Items are printed with distinct keys.
* `Item.ofValue_eq_ok_iff`: Which values are items, which items they are, and that these are
  read again from what they are printed as.
-/

namespace ActionPlan

open Json

/-- The draft that an item is printed as. -/
def Item.draft : Item → Draft
  | .action a =>
    { actionType := some a.kind.name
      context := some a.context.name
      target := a.target.map .string
      text := a.text.map .string
      verification := a.verification }
  | .observation o =>
    { observationType := some o.kind.name
      context := some o.context.name
      target := some (.string o.target) }

theorem scalar_string (field : String) (t : Option String) :
    Draft.scalar field (t.map .string) = .ok t := by
  cases t <;> rfl

theorem contextOfName?_name (context : Context) : Context.ofName? context.name = some context := by
  cases context <;> decide

theorem observationKind_ofName?_self (kind : ObservationKind) :
    ObservationKind.ofName? kind.name = some kind := by
  cases kind <;> decide

theorem needContext_name (typeName : String) (context : Context) :
    Draft.needContext typeName (some context.name) = .ok context :=
  needContext_eq_ok_iff.mpr ⟨_, rfl, contextOfName?_name context⟩

/-- The draft of an item that keeps the rules becomes that item again. -/
theorem item_draft {item : Item} (h : item.IsValid) : item.draft.item = .ok item := by
  rcases item with a | o
  · have hkind := actionKind_ofName_eq_ok_iff.mpr (actionKind_ofName?_eq_some_iff.mpr
      (rfl : a.kind.name = a.kind.name))
    -- No field is blank, so none is dropped.
    have hmake : Action.make a.kind a.context a.target a.text =
        .ok { a with verification := none } := by
      refine Action.make_eq_ok_iff.mpr ⟨?_, h.check⟩
      rw [h.target, h.text]
    refine bind_eq_ok_iff.mpr ⟨_, scalar_string "target" a.target, bind_eq_ok_iff.mpr
      ⟨_, scalar_string "text" a.text, bind_eq_ok_iff.mpr ⟨(a.kind.name, true), rfl, ?_⟩⟩⟩
    -- The name under the first key is that of no observation, so it is read as an action's.
    simp only [observationKind_ofName?_name]
    exact bind_eq_ok_iff.mpr ⟨_, hkind, bind_eq_ok_iff.mpr ⟨_, needContext_name _ _,
      bind_eq_ok_iff.mpr ⟨_, hmake, rfl⟩⟩⟩
  · have hmake : Observation.make o.kind o.context o.target = .ok o :=
      observation_make_eq_ok_iff.mpr ⟨_, h, rfl⟩
    refine bind_eq_ok_iff.mpr ⟨some o.target, rfl, bind_eq_ok_iff.mpr ⟨none, rfl,
      bind_eq_ok_iff.mpr ⟨(o.kind.name, false), rfl, ?_⟩⟩⟩
    simp only [observationKind_ofName?_self]
    exact bind_eq_ok_iff.mpr ⟨_, needContext_name _ _, bind_eq_ok_iff.mpr ⟨_, hmake, rfl⟩⟩

theorem optionalVerification_jsonValue (v : Verification) :
    Draft.optionalVerification v.jsonValue = .ok (some v) := by
  rcases v with ⟨_ | _, _ | _, _ | _, _ | _⟩ <;> rfl

/-- The fields of a printed action up to its verification. -/
theorem foldlM_actionFields (a : Action) :
    ([("action_type", Value.string a.kind.name), ("context", .string a.context.name)] ++
      textField "target" a.target ++ textField "text" a.text).foldlM Draft.set {} =
        .ok { (Item.action a).draft with verification := none } := by
  rcases a with ⟨_, _, _ | _, _ | _, _⟩ <;> rfl

/-- What an item is printed as is read as its draft. -/
theorem ofFields_jsonValue (item : Item) :
    ∃ fields, item.jsonValue = .object fields ∧ Draft.ofFields fields = .ok item.draft := by
  rcases item with a | o
  · refine ⟨_, rfl, ?_⟩
    -- The verification is printed last, so all else is read as if there were none.
    rw [Draft.ofFields, List.foldlM_append, foldlM_actionFields]
    rcases a with ⟨kind, context, target, text, _ | v⟩
    · rfl
    · change [("verify", v.jsonValue)].foldlM Draft.set _ = _
      rw [List.foldlM_cons, Draft.set, optionalVerification_jsonValue]
      rfl
  · exact ⟨_, rfl, rfl⟩

/-- An item that keeps the rules is read from what it is printed as. -/
theorem ofValue_jsonValue {item : Item} (h : item.IsValid) :
    Item.ofValue item.jsonValue = .ok item := by
  rcases ofFields_jsonValue item with ⟨fields, hvalue, hfields⟩
  rw [hvalue, Item.ofValue, hfields]
  exact item_draft h

/-! ### The shape of a printed item -/

section Shape

variable {p : Value → Prop} {fields fields' : List (String × Value)} {keys keys' : List String}

/-- The fields have some of the keys, each at most once and in this order, and their values
    have the property. -/
structure FieldsAmong (p : Value → Prop) (keys : List String) (fields : List (String × Value)) :
    Prop where
  sublist : (fields.map Prod.fst).Sublist keys
  values : ∀ field ∈ fields, p field.2

namespace FieldsAmong

theorem nil : FieldsAmong p keys [] :=
  ⟨List.nil_sublist keys, fun _ h => absurd h List.not_mem_nil⟩

theorem singleton (key : String) {v : Value} (h : p v) : FieldsAmong p [key] [(key, v)] :=
  ⟨List.Sublist.refl _, fun _ hfield => List.mem_singleton.mp hfield ▸ h⟩

theorem append (h : FieldsAmong p keys fields) (h' : FieldsAmong p keys' fields') :
    FieldsAmong p (keys ++ keys') (fields ++ fields') := by
  refine ⟨?_, fun field hfield => ?_⟩
  · rw [List.map_append]
    exact h.sublist.append h'.sublist
  · rcases List.mem_append.mp hfield with hfirst | hlater
    · exact h.values field hfirst
    · exact h'.values field hlater

theorem textField (hstring : ∀ s, p (.string s)) (key : String) (t : Option String) :
    FieldsAmong p [key] (textField key t) := by
  rcases t with _ | s
  · exact nil
  · exact singleton key (hstring s)

end FieldsAmong

variable (hstring : ∀ s, p (.string s)) (htrue : p (.bool true))
  (hobject : ∀ fields : List (String × Value), (fields.map Prod.fst).Nodup →
    (∀ field ∈ fields, p field.2) → p (.object fields))

include hobject in
theorem FieldsAmong.object (h : FieldsAmong p keys fields) (hkeys : keys.Nodup) :
    p (.object fields) :=
  hobject fields (h.sublist.nodup hkeys) h.values

include hstring htrue hobject

theorem verification_jsonValue_induction (v : Verification) : p v.jsonValue := by
  have happroval : FieldsAmong p ["requires_approval"]
      (if v.requiresApproval then [("requires_approval", .bool true)] else []) := by
    split
    · exact .singleton _ htrue
    · exact .nil
  have hfields := (((FieldsAmong.textField hstring "type" v.kind).append
    (.textField hstring "value" v.value)).append happroval).append
      (.textField hstring "reason" v.reason)
  exact hfields.object hobject (by decide)

/-- A printed item is made up of texts and approvals, in objects with distinct keys. -/
theorem jsonValue_induction (item : Item) : p item.jsonValue := by
  rcases item with a | o
  · -- An action has its kind and its context, and the two texts if they are there.
    have hfields := (((FieldsAmong.singleton "action_type" (hstring a.kind.name)).append
      (.singleton "context" (hstring a.context.name))).append
        (.textField hstring "target" a.target)).append (.textField hstring "text" a.text)
    -- The verification comes last, and it may be missing.
    refine (hfields.append (?_ : FieldsAmong p ["verify"] _)).object hobject (by decide)
    split
    · next v _ => exact .singleton _ (verification_jsonValue_induction hstring htrue hobject v)
    · exact .nil
  · have hfields := ((FieldsAmong.singleton "observation_type" (hstring o.kind.name)).append
      (.singleton "context" (hstring o.context.name))).append
        (.singleton "target" (hstring o.target))
    exact hfields.object hobject (by decide)

end Shape

/-- Items are printed with distinct keys. -/
theorem jsonValue_hasDistinctKeys (item : Item) : item.jsonValue.HasDistinctKeys :=
  jsonValue_induction .string (.bool true) (fun _ => .object) item

theorem verification_jsonValue_hasDistinctKeys (v : Verification) :
    v.jsonValue.HasDistinctKeys :=
  verification_jsonValue_induction .string (.bool true) (fun _ => .object) v

/-- The items of a value are those that its fields describe, as long as the fields have the
    right types, and such an item keeps the rules and is read again from what it is printed as,
    in the order in which its keys are printed and in ascending order. No value that was read has
    a key twice (`ofText?_hasDistinctKeys`). -/
theorem Item.ofValue_eq_ok_iff {v : Value} (hdistinct : v.HasDistinctKeys) :
    (∀ item, ofValue v = .ok item ↔
      ∃ fields, v = .object fields ∧ HasItemFields fields ∧ Describes fields item) ∧
    ∀ item, ofValue v = .ok item →
      item.IsValid ∧ ofValue item.jsonValue = .ok item ∧
        ofValue item.jsonValue.ordered = .ok item := by
  refine ⟨fun item => ⟨fun h => ?_, ?_⟩, fun item h => ?_⟩
  · cases v with
    | object fields => exact ⟨fields, rfl, (ofValue_object_eq_ok_iff hdistinct).mp h⟩
    | _ => exact absurd h nofun
  · rintro ⟨fields, rfl, h⟩
    exact (ofValue_object_eq_ok_iff hdistinct).mpr h
  · have hvalid := ofValue_isValid h
    have hagain := ofValue_jsonValue hvalid
    exact ⟨hvalid, hagain, ofValue_ordered (jsonValue_hasDistinctKeys item) hagain⟩

/-- An action that is far from its printed form: a number for a target, a verification as an
    array, and a key that is no part of an item. -/
theorem Item.ofValue_eq_ok_iff_loose :
    let v : Value := .object
      [ ("text", .string "hi"), ("target", .number (.natural 7)), ("note", .array [.null]),
        ("verify", .array [.string "text_visible", .string "hi"]), ("coordinates", .null),
        ("context", .string "web"), ("action_type", .string "type_text") ]
    let item : Item :=
      .action ⟨.typeText, .web, some "7", some "hi", some (.textVisible "hi")⟩
    v.HasDistinctKeys ∧ ofValue v = .ok item ∧ item.IsValid ∧
      ofValue item.jsonValue = .ok item ∧ ofValue item.jsonValue.ordered = .ok item := by
  intro v item
  -- Each of the seven values is checked for itself.
  have hdistinct : v.HasDistinctKeys := by
    refine .object (by decide) fun field hfield => ?_
    simp only [List.mem_cons, List.not_mem_nil, or_false] at hfield
    rcases hfield with rfl | rfl | rfl | rfl | rfl | rfl | rfl
    · exact .string _
    · exact .number _
    · exact .array fun _ h => List.mem_singleton.mp h ▸ .null
    · refine .array fun v hv => ?_
      rcases List.mem_pair.mp hv with rfl | rfl <;> exact .string _
    · exact .null
    · exact .string _
    · exact .string _
  -- An array may stop after its second element, and the other fields are as if left out.
  have hverify : IsOptionalVerification
      (some (.array [.string "text_visible", .string "hi"])) (some (.textVisible "hi")) :=
    .given (.array (by decide) ⟨trivial, trivial, trivial, trivial⟩)
  have h := Item.ofValue_eq_ok_iff hdistinct
  have hitem : ofValue v = .ok item := (h.1 item).mpr
    ⟨_, rfl, ⟨trivial, trivial, trivial, trivial, trivial, ⟨_, hverify⟩, trivial⟩,
      .action rfl (by decide) rfl (by decide) ⟨by decide, fun _ => rfl, fun _ => rfl⟩ hverify⟩
  exact ⟨hdistinct, hitem, h.2 item hitem⟩

end ActionPlan
