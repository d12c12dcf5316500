import ActionPlan.Item.Printer
import ActionPlan.Proofs.Json.Keys

/-!
# The Schema of Items

Which JSON values are items, and which items they are. The reader of items answers this by what
it does, field by field and with the first problem deciding; here it is answered by what is
found under each key, so that neither the order of the fields nor that of the checks is left in
the answer.

Reading is in two steps, and so is the way to the answer. The fields become a draft if each has
the right type, which is one fact about the loop over the fields for every part of the draft
(`ofFields_eq_ok_iff`). The draft becomes an item by rules that look at several parts at once:
the type's name may stand under either key, but an action's only under the first, and which
fields an action needs depends on its kind and its context. `Describes` says this with one case
for each sort of item, and `KeepsRules` puts the table of demands into three sentences.

## Main definitions

* `shapeAt`: What is found under a key.
* `IsVerification`: The value is a verification, as an object or as an array.
* `HasDraftFields`, `draftIn`: The types that the fields of a draft need, and the draft in them.
* `KeepsRules`: What a kind of action asks of its fields in a context.
* `HasItemFields`, `Describes`: The types that the fields of an item need, and the item that
  they describe.

## Theorems

* `verificationOf_eq_ok_iff`: The values that are verifications.
* `ofFields_eq_ok_iff`: The fields that are a draft.
* `check_eq_ok_iff`: The table of demands, read as rules.
* `ofValue_object_eq_ok_iff`: The objects that are items, and the items that they are.
* `ofValue_ordered`: An item is the same in whatever order its keys come.
-/

namespace ActionPlan

open Json

/-! ### What is found under a key -/

namespace Json

/-- What is found under a key, whatever an array or an object holds. -/
def shapeAt (fields : List (String × Value)) (key : String) : Option Shape :=
  (fields.lookup key).map Value.shape

/-- Nothing is found, or null. -/
def IsAbsent : Option Shape → Prop
  | none | some .null => True
  | _ => False

/-- A text, unless it is absent. -/
def IsText : Option Shape → Prop
  | none | some .null | some (.string _) => True
  | _ => False

/-- A text or a number, unless it is absent. -/
def IsScalar : Option Shape → Prop
  | none | some .null | some (.string _) | some (.number _) => True
  | _ => False

/-- A truth value, if anything is found; null is none. -/
def IsTruth : Option Shape → Prop
  | none | some (.bool _) => True
  | _ => False

/-- The text that is found. -/
def text? : Option Shape → Option String
  | some (.string s) => some s
  | _ => none

/-- The text that is found, where a number stands for the text it is printed as. -/
def scalar? : Option Shape → Option String
  | some (.string s) => some s
  | some (.number n) => some n.text
  | _ => none

/-- The truth value that is found; false if there is none. -/
def truth : Option Shape → Bool
  | some (.bool b) => b
  | _ => false

end Json

variable {fields : List (String × Value)} {key : String} {found : Option Value}

theorem readText_eq_ok_iff {t : Option String} :
    readOr Draft.optionalString none (fields.lookup key) = .ok t ↔
      IsText (shapeAt fields key) ∧ t = text? (shapeAt fields key) := by
  unfold shapeAt
  rcases fields.lookup key with _ | _ | _ | _ | _ | _ | _ <;>
    simp [readOr, Draft.optionalString, IsText, text?, Value.shape, eq_comm]

theorem readTruth_eq_ok_iff {b : Bool} :
    readOr Draft.truth false (fields.lookup key) = .ok b ↔
      IsTruth (shapeAt fields key) ∧ b = truth (shapeAt fields key) := by
  unfold shapeAt
  rcases fields.lookup key with _ | _ | _ | _ | _ | _ | _ <;>
    simp [readOr, Draft.truth, IsTruth, truth, Value.shape, eq_comm]

theorem scalar_eq_ok_iff {field : String} {t : Option String} :
    Draft.scalar field ((fields.lookup key).bind Draft.optionalValue) = .ok t ↔
      IsScalar (shapeAt fields key) ∧ t = scalar? (shapeAt fields key) := by
  unfold shapeAt
  rcases fields.lookup key with _ | _ | _ | _ | _ | _ | _ <;>
    simp [Draft.scalar, Draft.optionalValue, IsScalar, scalar?, Value.shape, eq_comm]

theorem isSome_optionalValue_iff :
    ((fields.lookup key).bind Draft.optionalValue).isSome = false ↔
      IsAbsent (shapeAt fields key) := by
  unfold shapeAt
  rcases fields.lookup key with _ | _ | _ | _ | _ | _ | _ <;>
    simp [Draft.optionalValue, IsAbsent, Value.shape]

/-! ### Verifications -/

/-- The fields of a verification have the right types. -/
structure HasVerificationFields (fields : List (String × Value)) : Prop where
  kind : IsText (shapeAt fields "type")
  value : IsText (shapeAt fields "value")
  requiresApproval : IsTruth (shapeAt fields "requires_approval")
  reason : IsText (shapeAt fields "reason")

/-- The verification in the fields. -/
def verificationIn (fields : List (String × Value)) : Verification where
  kind := text? (shapeAt fields "type")
  value := text? (shapeAt fields "value")
  requiresApproval := truth (shapeAt fields "requires_approval")
  reason := text? (shapeAt fields "reason")

/-- The value is the verification: an object with fields of the right types, or an array of
    the first of them. -/
inductive IsVerification : Value → Verification → Prop
  | object {fields : List (String × Value)} (h : HasVerificationFields fields) :
      IsVerification (.object fields) (verificationIn fields)
  | array {items : List Value} (hlength : items.length ≤ 4)
      (h : HasVerificationFields (Draft.verificationKeys.zip items)) :
      IsVerification (.array items) (verificationIn (Draft.verificationKeys.zip items))

/-- A verification, unless it is absent. -/
inductive IsOptionalVerification : Option Value → Option Verification → Prop
  | absent {found : Option Value} (h : IsAbsent (found.map Value.shape)) :
      IsOptionalVerification found none
  | given {v : Value} {verification : Verification} (h : IsVerification v verification) :
      IsOptionalVerification (some v) (some verification)

/-- A field fills in one part of a verification at most, and leaves the others alone. -/
theorem setVerification_other {v v' : Verification} {field : String × Value}
    (h : Draft.setVerification v field = .ok v') :
    (field.1 ≠ "type" → v'.kind = v.kind) ∧ (field.1 ≠ "value" → v'.value = v.value) ∧
      (field.1 ≠ "requires_approval" → v'.requiresApproval = v.requiresApproval) ∧
      (field.1 ≠ "reason" → v'.reason = v.reason) := by
  unfold Draft.setVerification at h
  split at h
  all_goals
    first
    | rcases bind_eq_ok_iff.mp h with ⟨_, _, hv⟩
      rw [← Except.ok.inj hv]
      simp
    | rw [← Except.ok.inj h]
      simp

theorem hasVerificationFields_of_foldlM (hkeys : (fields.map Prod.fst).Nodup) {v : Verification}
    (h : fields.foldlM Draft.setVerification {} = .ok v) :
    HasVerificationFields fields ∧ v = verificationIn fields := by
  -- Each key determines one of the four parts, so the fields are left behind part by part.
  have kind : IsPart Draft.setVerification "type" Draft.optionalString Verification.kind :=
    isPart_of_put (fun v t => { v with kind := t }) (fun _ _ => rfl) (fun _ _ => rfl)
      fun hne h => (setVerification_other h).1 hne
  have value : IsPart Draft.setVerification "value" Draft.optionalString Verification.value :=
    isPart_of_put (fun v t => { v with value := t }) (fun _ _ => rfl) (fun _ _ => rfl)
      fun hne h => (setVerification_other h).2.1 hne
  have approval : IsPart Draft.setVerification "requires_approval" Draft.truth
      Verification.requiresApproval :=
    isPart_of_put (fun v b => { v with requiresApproval := b }) (fun _ _ => rfl) (fun _ _ => rfl)
      fun hne h => (setVerification_other h).2.2.1 hne
  have reason : IsPart Draft.setVerification "reason" Draft.optionalString Verification.reason :=
    isPart_of_put (fun v t => { v with reason := t }) (fun _ _ => rfl) (fun _ _ => rfl)
      fun hne h => (setVerification_other h).2.2.2 hne
  rcases readText_eq_ok_iff.mp (kind.readOr_of_foldlM hkeys h) with ⟨hkind, hkind'⟩
  rcases readText_eq_ok_iff.mp (value.readOr_of_foldlM hkeys h) with ⟨hvalue, hvalue'⟩
  rcases readTruth_eq_ok_iff.mp (approval.readOr_of_foldlM hkeys h) with ⟨happroval, happroval'⟩
  rcases readText_eq_ok_iff.mp (reason.readOr_of_foldlM hkeys h) with ⟨hreason, hreason'⟩
  refine ⟨⟨hkind, hvalue, happroval, hreason⟩, ?_⟩
  rw [verificationIn, ← hkind', ← hvalue', ← happroval', ← hreason']

theorem optionalString_eq_ok {v : Value} (h : IsText (shapeAt fields key))
    (hfield : fields.lookup key = some v) :
    Draft.optionalString v = .ok (text? (shapeAt fields key)) := by
  have hread := readText_eq_ok_iff.mpr ⟨h, rfl⟩
  rwa [hfield] at hread

theorem truth_eq_ok {v : Value} (h : IsTruth (shapeAt fields key))
    (hfield : fields.lookup key = some v) : Draft.truth v = .ok (truth (shapeAt fields key)) := by
  have hread := readTruth_eq_ok_iff.mpr ⟨h, rfl⟩
  rwa [hfield] at hread

/-- A step that reads a value and then cannot fail any more. -/
theorem exists_bind_eq_ok {ε α β : Type} {x : Except ε α} {a : α} {f : α → β} (h : x = .ok a) :
    ∃ b, (x >>= fun a => .ok (f a)) = .ok b := by
  rw [h]
  exact ⟨_, rfl⟩

theorem exists_setVerification_eq_ok (h : HasVerificationFields fields) {field : String × Value}
    (hfield : fields.lookup field.1 = some field.2) (v : Verification) :
    ∃ v', Draft.setVerification v field = .ok v' := by
  unfold Draft.setVerification
  split
  · exact exists_bind_eq_ok (optionalString_eq_ok h.kind hfield)
  · exact exists_bind_eq_ok (optionalString_eq_ok h.value hfield)
  · exact exists_bind_eq_ok (truth_eq_ok h.requiresApproval hfield)
  · exact exists_bind_eq_ok (optionalString_eq_ok h.reason hfield)
  · exact ⟨v, rfl⟩

/-- The fields of a verification are read exactly if they have the right types. -/
theorem foldlM_setVerification_eq_ok_iff (hkeys : (fields.map Prod.fst).Nodup) {v : Verification} :
    fields.foldlM Draft.setVerification {} = .ok v ↔
      HasVerificationFields fields ∧ v = verificationIn fields := by
  refine ⟨hasVerificationFields_of_foldlM hkeys, ?_⟩
  rintro ⟨h, rfl⟩
  rcases exists_foldlM_eq_ok (fun field hfield =>
    exists_setVerification_eq_ok h ((mem_iff_lookup hkeys).mp hfield)) {} with ⟨v, hv⟩
  rw [hv, (hasVerificationFields_of_foldlM hkeys hv).2]

/-- The keys of the array form are distinct, however many of them are used. -/
theorem nodup_zip_verificationKeys (items : List Value) :
    ((Draft.verificationKeys.zip items).map Prod.fst).Nodup := by
  -- Only as many keys are used as there are items, and these are some of four distinct ones.
  have hlength : ((Draft.verificationKeys.take (min 4 items.length)).length ≤
      (items.take (min 4 items.length)).length) := by
    rw [List.length_take, List.length_take]
    omega
  rw [List.zip_eq_zip_take_min]
  refine (List.map_fst_zip hlength).symm ▸ ?_
  exact (List.take_sublist _ _).nodup (by decide)

theorem verificationOf_eq_ok_iff {v : Value} (hdistinct : v.HasDistinctKeys)
    {verification : Verification} :
    Draft.verificationOf v = .ok verification ↔ IsVerification v verification := by
  cases hdistinct with
  | object hkeys _ =>
      rw [Draft.verificationOf, foldlM_setVerification_eq_ok_iff hkeys]
      constructor
      · rintro ⟨h, rfl⟩
        exact .object h
      · rintro ⟨h⟩
        exact ⟨h, rfl⟩
  | @array items _ =>
      -- The array form is the object form under the keys in their order, and not too long.
      rw [Draft.verificationOf, bind_eq_ok_iff]
      constructor
      · rintro ⟨v, hv, hlength⟩
        split at hlength
        · exact absurd hlength nofun
        · next hle =>
          rcases (foldlM_setVerification_eq_ok_iff (nodup_zip_verificationKeys items)).mp hv with
            ⟨h, rfl⟩
          rw [← Except.ok.inj hlength]
          exact .array (Nat.not_lt.mp hle) h
      · intro h
        cases h with
        | array hlength h =>
            refine ⟨_, (foldlM_setVerification_eq_ok_iff (nodup_zip_verificationKeys items)).mpr
              ⟨h, rfl⟩, ?_⟩
            exact if_neg (Nat.not_lt.mpr hlength)
  | _ => exact ⟨nofun, nofun⟩

theorem readVerification_eq_ok_iff (hdistinct : ∀ v, found = some v → v.HasDistinctKeys)
    {verification : Option Verification} :
    readOr Draft.optionalVerification none found = .ok verification ↔
      IsOptionalVerification found verification := by
  rcases found with _ | v
  · -- There is no such field.
    constructor
    · intro h
      rw [← Except.ok.inj h]
      exact .absent trivial
    · rintro ⟨_⟩
      rfl
  · have hv := hdistinct v rfl
    by_cases hnull : v = .null
    · -- A null stands for a field that is not there.
      subst hnull
      constructor
      · intro h
        rw [← Except.ok.inj h]
        exact .absent trivial
      · intro h
        cases h with
        | absent _ => rfl
        | given h => cases h
    · -- Any value but null has to be a verification.
      have hread : readOr Draft.optionalVerification none (some v) =
          (Draft.verificationOf v).map some := by
        cases v with
        | null => exact absurd rfl hnull
        | _ => rfl
      rw [hread, map_eq_ok_iff]
      constructor
      · rintro ⟨_, h, rfl⟩
        exact .given ((verificationOf_eq_ok_iff hv).mp h)
      · intro h
        cases h with
        | given h => exact ⟨_, (verificationOf_eq_ok_iff hv).mpr h, rfl⟩
        | absent h =>
            cases v with
            | null => exact absurd rfl hnull
            | _ => exact absurd h not_false

/-! ### Drafts -/

/-- A field fills in one part of a draft at most, and leaves the others alone. -/
theorem set_other {d d' : Draft} {field : String × Value} (h : Draft.set d field = .ok d') :
    (field.1 ≠ "action_type" → d'.actionType = d.actionType) ∧
      (field.1 ≠ "observation_type" → d'.observationType = d.observationType) ∧
      (field.1 ≠ "context" → d'.context = d.context) ∧
      (field.1 ≠ "target" → d'.target = d.target) ∧ (field.1 ≠ "text" → d'.text = d.text) ∧
      (field.1 ≠ "verify" → d'.verification = d.verification) ∧
      (field.1 ≠ "coordinates" → d'.coordinates = d.coordinates) := by
  unfold Draft.set at h
  split at h
  all_goals
    first
    | rcases bind_eq_ok_iff.mp h with ⟨_, _, hd⟩
      rw [← Except.ok.inj hd]
      simp
    | rw [← Except.ok.inj h]
      simp

/-- The draft in the fields, apart from its verification, which is found already. -/
def draftIn (fields : List (String × Value)) (verification : Option Verification) : Draft where
  actionType := text? (shapeAt fields "action_type")
  observationType := text? (shapeAt fields "observation_type")
  context := text? (shapeAt fields "context")
  target := (fields.lookup "target").bind Draft.optionalValue
  text := (fields.lookup "text").bind Draft.optionalValue
  verification
  coordinates := (fields.lookup "coordinates").bind Draft.optionalValue

/-- The fields of a draft have the right types. -/
structure HasDraftFields (fields : List (String × Value)) (verification : Option Verification) :
    Prop where
  actionType : IsText (shapeAt fields "action_type")
  observationType : IsText (shapeAt fields "observation_type")
  context : IsText (shapeAt fields "context")
  verification : IsOptionalVerification (fields.lookup "verify") verification

theorem readValue_eq_ok_iff {v : Option Value} :
    readOr (fun v => (.ok (Draft.optionalValue v) : Except Misfit (Option Value))) none found =
      .ok v ↔ v = found.bind Draft.optionalValue := by
  rcases found with _ | w
  · exact ⟨fun h => (Except.ok.inj h).symm, fun h => h ▸ rfl⟩
  · exact ⟨fun h => (Except.ok.inj h).symm, fun h => h ▸ rfl⟩

variable {verification : Option Verification}

theorem hasDraftFields_of_ofFields (hdistinct : (Value.object fields).HasDistinctKeys)
    {draft : Draft} (h : Draft.ofFields fields = .ok draft) :
    HasDraftFields fields draft.verification ∧ draft = draftIn fields draft.verification := by
  -- Each key sets a part of the draft of its own and leaves the other parts alone.
  have actionType : IsPart Draft.set "action_type" Draft.optionalString Draft.actionType :=
    isPart_of_put (fun d t => { d with actionType := t }) (fun _ _ => rfl) (fun _ _ => rfl)
      fun hne h => (set_other h).1 hne
  have observationType :
      IsPart Draft.set "observation_type" Draft.optionalString Draft.observationType :=
    isPart_of_put (fun d t => { d with observationType := t }) (fun _ _ => rfl) (fun _ _ => rfl)
      fun hne h => (set_other h).2.1 hne
  have context : IsPart Draft.set "context" Draft.optionalString Draft.context :=
    isPart_of_put (fun d t => { d with context := t }) (fun _ _ => rfl) (fun _ _ => rfl)
      fun hne h => (set_other h).2.2.1 hne
  have target : IsPart Draft.set "target" (fun v => .ok (Draft.optionalValue v)) Draft.target :=
    isPart_of_put (fun d v => { d with target := v }) (fun _ _ => rfl) (fun _ _ => rfl)
      fun hne h => (set_other h).2.2.2.1 hne
  have text : IsPart Draft.set "text" (fun v => .ok (Draft.optionalValue v)) Draft.text :=
    isPart_of_put (fun d v => { d with text := v }) (fun _ _ => rfl) (fun _ _ => rfl)
      fun hne h => (set_other h).2.2.2.2.1 hne
  have verify : IsPart Draft.set "verify" Draft.optionalVerification Draft.verification :=
    isPart_of_put (fun d v => { d with verification := v }) (fun _ _ => rfl) (fun _ _ => rfl)
      fun hne h => (set_other h).2.2.2.2.2.1 hne
  have coordinates :
      IsPart Draft.set "coordinates" (fun v => .ok (Draft.optionalValue v)) Draft.coordinates :=
    isPart_of_put (fun d v => { d with coordinates := v }) (fun _ _ => rfl) (fun _ _ => rfl)
      fun hne h => (set_other h).2.2.2.2.2.2 hne
  -- No key comes twice, so a part is what is found under its key, or what it was before.
  have hkeys := hdistinct.nodup
  unfold Draft.ofFields at h
  rcases readText_eq_ok_iff.mp (actionType.readOr_of_foldlM hkeys h) with ⟨haction, haction'⟩
  rcases readText_eq_ok_iff.mp (observationType.readOr_of_foldlM hkeys h) with
    ⟨hobservation, hobservation'⟩
  rcases readText_eq_ok_iff.mp (context.readOr_of_foldlM hkeys h) with ⟨hcontext, hcontext'⟩
  have htarget := readValue_eq_ok_iff.mp (target.readOr_of_foldlM hkeys h)
  have htext := readValue_eq_ok_iff.mp (text.readOr_of_foldlM hkeys h)
  have hverify := (readVerification_eq_ok_iff fun v hv => hdistinct.of_lookup hv).mp
    (verify.readOr_of_foldlM hkeys h)
  have hcoordinates := readValue_eq_ok_iff.mp (coordinates.readOr_of_foldlM hkeys h)
  refine ⟨⟨haction, hobservation, hcontext, hverify⟩, ?_⟩
  rw [draftIn, ← haction', ← hobservation', ← hcontext', ← htarget, ← htext, ← hcoordinates]

theorem exists_set_eq_ok (hdistinct : (Value.object fields).HasDistinctKeys)
    (h : HasDraftFields fields verification) {field : String × Value}
    (hfield : fields.lookup field.1 = some field.2) (d : Draft) :
    ∃ d', Draft.set d field = .ok d' := by
  unfold Draft.set
  split
  · -- Whatever the key is, the field under it has the shape that it needs.
    exact exists_bind_eq_ok (optionalString_eq_ok h.actionType hfield)
  · exact exists_bind_eq_ok (optionalString_eq_ok h.observationType hfield)
  · exact exists_bind_eq_ok (optionalString_eq_ok h.context hfield)
  · exact ⟨_, rfl⟩
  · exact ⟨_, rfl⟩
  · -- A verification needs more than a shape.
    next v =>
    have hverify := h.verification
    rw [hfield] at hverify
    have hv : ∀ w, some v = some w → w.HasDistinctKeys := fun w hw =>
      Option.some.inj hw ▸ hdistinct.of_lookup hfield
    exact exists_bind_eq_ok ((readVerification_eq_ok_iff hv).mpr hverify)
  · exact ⟨_, rfl⟩
  · exact ⟨d, rfl⟩

/-- A draft is read from the fields exactly if it is the one in them. -/
theorem ofFields_eq_ok_iff (hdistinct : (Value.object fields).HasDistinctKeys) {draft : Draft} :
    Draft.ofFields fields = .ok draft ↔
      HasDraftFields fields draft.verification ∧ draft = draftIn fields draft.verification := by
  refine ⟨hasDraftFields_of_ofFields hdistinct, ?_⟩
  rintro ⟨h, hdraft⟩
  rcases exists_foldlM_eq_ok (fun field hfield =>
    exists_set_eq_ok hdistinct h ((mem_iff_lookup hdistinct.nodup).mp hfield)) {} with
    ⟨draft', hread⟩
  rcases hasDraftFields_of_ofFields hdistinct hread with ⟨h', hdraft'⟩
  -- There is one verification that can be read, so there is one draft.
  have hverify : ∀ v, fields.lookup "verify" = some v → v.HasDistinctKeys :=
    fun v hv => hdistinct.of_lookup hv
  have hone := (readVerification_eq_ok_iff hverify).mpr h.verification
  rw [(readVerification_eq_ok_iff hverify).mpr h'.verification] at hone
  rw [hdraft, ← Except.ok.inj hone, ← hdraft']
  exact hread

/-! ### Rules for fields -/

/-- The context knows this kind of action. -/
def Context.knows : Context → ActionKind → Bool
  | .desktop, _ => true
  | .web, kind => kind != .focusWindow && kind != .wait
  | .file, kind => kind != .focusWindow && kind != .wait && kind != .closeApp

/-- The action needs a target there. Closing goes without one, and so does typing on the
    desktop. -/
def Context.needsTarget : Context → ActionKind → Bool
  | .desktop, kind => kind != .closeApp && kind != .typeText
  | _, kind => kind != .closeApp

/-- What the kind of action asks of its fields in this context. -/
@[mk_iff]
structure KeepsRules (kind : ActionKind) (context : Context) (target text : Option String) :
    Prop where
  known : context.knows kind = true
  target : context.needsTarget kind = true → target.isSome = true
  text : kind = .typeText → text.isSome = true

/-- The table of demands, read as rules. -/
theorem check_eq_ok_iff {action : Action} : action.check = .ok () ↔
    KeepsRules action.kind action.context action.target action.text := by
  rcases action with ⟨kind, context, target, text, _⟩
  have hdemand : ∀ (present : Bool) (e : ItemError),
      (if present then .ok () else .error e : Except ItemError Unit) = .ok () ↔
        present = true := by
    intro present e
    cases present <;> simp
  -- Eighteen cells, and in each the demands of the table are the rules that apply there.
  cases context <;> cases kind <;>
    simp [keepsRules_iff, Action.check, bind_eq_ok_iff, hdemand, Context.knows,
      Context.needsTarget]

/-! ### Items -/

/-- The fields of an item have the right types. Coordinates are no part of an item. -/
structure HasItemFields (fields : List (String × Value)) : Prop where
  actionType : IsText (shapeAt fields "action_type")
  observationType : IsText (shapeAt fields "observation_type")
  context : IsText (shapeAt fields "context")
  target : IsScalar (shapeAt fields "target")
  text : IsScalar (shapeAt fields "text")
  verify : ∃ verification, IsOptionalVerification (fields.lookup "verify") verification
  coordinates : IsAbsent (shapeAt fields "coordinates")

/-- The name of an item's type. An action's name counts under the first key only. -/
def typeName? (fields : List (String × Value)) : Option String :=
  (text? (shapeAt fields "action_type")).or (text? (shapeAt fields "observation_type"))

/-- The item that fields of the right types describe. Blank texts count as absent. -/
inductive Describes (fields : List (String × Value)) : Item → Prop
  | observation {name contextName target : String} {kind : ObservationKind} {context : Context}
      (hname : typeName? fields = some name) (hkind : ObservationKind.ofName? name = some kind)
      (hcontext : text? (shapeAt fields "context") = some contextName)
      (hknown : Context.ofName? contextName = some context)
      (htarget : nonBlank (scalar? (shapeAt fields "target")) = some target) :
      Describes fields (.observation ⟨kind, context, target⟩)
  | action {name contextName : String} {kind : ActionKind} {context : Context}
      {verification : Option Verification}
      (hname : text? (shapeAt fields "action_type") = some name)
      (hkind : ActionKind.ofName? name = some kind)
      (hcontext : text? (shapeAt fields "context") = some contextName)
      (hknown : Context.ofName? contextName = some context)
      (hrules : KeepsRules kind context (nonBlank (scalar? (shapeAt fields "target")))
        (nonBlank (scalar? (shapeAt fields "text"))))
      (hverify : IsOptionalVerification (fields.lookup "verify") verification) :
      Describes fields (.action ⟨kind, context, nonBlank (scalar? (shapeAt fields "target")),
        nonBlank (scalar? (shapeAt fields "text")), verification⟩)

theorem needContext_eq_ok_iff {name : String} {contextName : Option String} {context : Context} :
    Draft.needContext name contextName = .ok context ↔
      ∃ s, contextName = some s ∧ Context.ofName? s = some context := by
  rcases contextName with _ | s
  · exact ⟨nofun, fun ⟨_, h, _⟩ => nomatch h⟩
  · change Context.ofName s = .ok context ↔ _
    rw [Context.ofName]
    constructor
    · -- A context that is named has to be one of the known ones.
      intro h
      split at h
      · next hs => exact ⟨s, rfl, hs.trans (congrArg some (Except.ok.inj h))⟩
      · exact absurd h nofun
    · rintro ⟨_, hname, hs⟩
      rw [Option.some.inj hname, hs]

theorem typeName_eq_ok_iff {draft : Draft} {name : String} {asAction : Bool} :
    draft.typeName = .ok (name, asAction) ↔
      draft.actionType.or draft.observationType = some name ∧
        asAction = draft.actionType.isSome := by
  unfold Draft.typeName
  rcases draft.actionType with _ | a
  · rcases draft.observationType with _ | o
    · exact ⟨nofun, fun h => nomatch h.1⟩
    · simp [eq_comm]
  · simp [eq_comm]

theorem observation_make_eq_ok_iff {kind : ObservationKind} {context : Context} {target : String}
    {observation : Observation} : Observation.make kind context target = .ok observation ↔
      ∃ t, nonBlank (some target) = some t ∧ observation = ⟨kind, context, t⟩ := by
  unfold Observation.make
  constructor
  · intro h
    split at h
    · next t ht => exact ⟨t, ht, (Except.ok.inj h).symm⟩
    · exact absurd h nofun
  · rintro ⟨t, ht, rfl⟩
    rw [ht]

/-- A target that is left out is as good as an empty one. -/
theorem nonBlank_getD (target : Option String) :
    nonBlank (some (target.getD "")) = nonBlank target := by
  cases target <;> rfl

/-- No observation is named like an action. -/
theorem observationKind_ofName?_name (kind : ActionKind) :
    ObservationKind.ofName? kind.name = none := by
  cases kind <;> decide

theorem actionKind_ofName?_eq_some_iff {name : String} {kind : ActionKind} :
    ActionKind.ofName? name = some kind ↔ kind.name = name := by
  constructor
  · intro h
    simpa using List.find?_some h
  · rintro rfl
    cases kind <;> decide

theorem actionKind_ofName_eq_ok_iff {name : String} {kind : ActionKind} :
    ActionKind.ofName name = .ok kind ↔ ActionKind.ofName? name = some kind := by
  unfold ActionKind.ofName
  constructor
  · intro h
    split at h
    · next hkind => rw [hkind, Except.ok.inj h]
    · exact absurd h nofun
  · intro h
    rw [h]

/-- What a draft becomes is what the fields describe. -/
theorem describes_of_item {item : Item}
    (hverify : IsOptionalVerification (fields.lookup "verify") verification)
    (h : (draftIn fields verification).item = .ok item) :
    IsAbsent (shapeAt fields "coordinates") ∧ IsScalar (shapeAt fields "target") ∧
      IsScalar (shapeAt fields "text") ∧ Describes fields item := by
  unfold Draft.item at h
  simp only at h
  split at h
  · exact absurd h nofun
  · next hcoordinates =>
    rw [Bool.not_eq_true] at hcoordinates
    rcases bind_eq_ok_iff.mp h with ⟨target, htarget, h⟩
    rcases bind_eq_ok_iff.mp h with ⟨text, htext, h⟩
    rcases bind_eq_ok_iff.mp h with ⟨⟨name, asAction⟩, hname, h⟩
    rcases scalar_eq_ok_iff.mp htarget with ⟨htarget', rfl⟩
    rcases scalar_eq_ok_iff.mp htext with ⟨htext', rfl⟩
    rcases typeName_eq_ok_iff.mp hname with ⟨hname, hasAction⟩
    refine ⟨isSome_optionalValue_iff.mp hcoordinates, htarget', htext', ?_⟩
    simp only at h
    split at h
    · -- An observation, under whichever key its name stands.
      next kind hkind =>
      rcases bind_eq_ok_iff.mp h with ⟨context, hcontext, h⟩
      rcases bind_eq_ok_iff.mp h with ⟨observation, hmake, h⟩
      rcases needContext_eq_ok_iff.mp hcontext with ⟨contextName, hcontext, hknown⟩
      rcases observation_make_eq_ok_iff.mp hmake with ⟨t, ht, rfl⟩
      rw [nonBlank_getD] at ht
      rw [← Except.ok.inj h]
      exact .observation hname hkind hcontext hknown ht
    · split at h
      · exact absurd h nofun
      · next hunder =>
        rcases bind_eq_ok_iff.mp h with ⟨kind, hkind, h⟩
        rcases bind_eq_ok_iff.mp h with ⟨context, hcontext, h⟩
        rcases bind_eq_ok_iff.mp h with ⟨action, hmake, h⟩
        rcases needContext_eq_ok_iff.mp hcontext with ⟨contextName, hcontext, hknown⟩
        rcases Action.make_eq_ok_iff.mp hmake with ⟨rfl, hcheck⟩
        rw [← Except.ok.inj h]
        -- The name stands under the first key.
        have hfirst : text? (shapeAt fields "action_type") = some name := by
          change (text? (shapeAt fields "action_type")).or _ = some name at hname
          change asAction = (text? (shapeAt fields "action_type")).isSome at hasAction
          rcases htext : text? (shapeAt fields "action_type") with _ | a
          · rw [htext] at hasAction
            rw [hasAction] at hunder
            exact absurd rfl hunder
          · rw [htext] at hname
            exact hname
        exact .action hfirst (actionKind_ofName_eq_ok_iff.mp hkind) hcontext hknown
          (check_eq_ok_iff.mp hcheck) hverify

/-- What the fields describe is what a draft becomes. -/
theorem item_of_describes {item : Item} (h : HasItemFields fields)
    (hitem : Describes fields item) : ∃ verification,
      IsOptionalVerification (fields.lookup "verify") verification ∧
        (draftIn fields verification).item = .ok item := by
  -- None of the checks fails: no coordinates, and scalars for the two texts.
  have hcoordinates : ∀ verification, ¬ (draftIn fields verification).coordinates.isSome = true :=
    fun _ => (Bool.not_eq_true _).mpr (isSome_optionalValue_iff.mpr h.coordinates)
  have htarget : Draft.scalar "target" _ = _ := scalar_eq_ok_iff.mpr ⟨h.target, rfl⟩
  have htext : Draft.scalar "text" _ = _ := scalar_eq_ok_iff.mpr ⟨h.text, rfl⟩
  cases hitem with
  | @observation name _ target kind context hname hkind hcontext hknown hfull =>
      rcases h.verify with ⟨verification, hverify⟩
      -- The target is not blank, which is all that an observation asks for.
      have hmake : Observation.make kind context _ = .ok ⟨kind, context, target⟩ :=
        observation_make_eq_ok_iff.mpr ⟨target, (nonBlank_getD _).trans hfull, rfl⟩
      refine ⟨verification, hverify, (if_neg (hcoordinates verification)).trans ?_⟩
      refine bind_eq_ok_iff.mpr ⟨_, htarget, bind_eq_ok_iff.mpr ⟨_, htext, bind_eq_ok_iff.mpr
        ⟨_, typeName_eq_ok_iff.mpr ⟨hname, rfl⟩, ?_⟩⟩⟩
      simp only [hkind]
      exact bind_eq_ok_iff.mpr ⟨context, needContext_eq_ok_iff.mpr ⟨_, hcontext, hknown⟩,
        bind_eq_ok_iff.mpr ⟨_, hmake, rfl⟩⟩
  | @action name _ kind context verification hname hkind hcontext hknown hrules hverify =>
      -- The name is under the key of actions, and there it is the name of an action.
      have hunder : (draftIn fields verification).actionType = some name := hname
      have hname' : (draftIn fields verification).typeName = .ok (name, true) :=
        typeName_eq_ok_iff.mpr ⟨by rw [hunder]; rfl, by rw [hunder]; rfl⟩
      -- No action has the name of an observation, so it is not taken for one.
      have hnone : ObservationKind.ofName? name = none := by
        rw [← actionKind_ofName?_eq_some_iff.mp hkind]
        exact observationKind_ofName?_name kind
      refine ⟨verification, hverify, (if_neg (hcoordinates verification)).trans ?_⟩
      refine bind_eq_ok_iff.mpr ⟨_, htarget, bind_eq_ok_iff.mpr ⟨_, htext, bind_eq_ok_iff.mpr
        ⟨_, hname', ?_⟩⟩⟩
      simp only [hnone]
      exact bind_eq_ok_iff.mpr ⟨kind, actionKind_ofName_eq_ok_iff.mpr hkind, bind_eq_ok_iff.mpr
        ⟨context, needContext_eq_ok_iff.mpr ⟨_, hcontext, hknown⟩, bind_eq_ok_iff.mpr
          ⟨_, Action.make_eq_ok_iff.mpr ⟨rfl, check_eq_ok_iff.mpr hrules⟩, rfl⟩⟩⟩

/-- The objects that are items, and the items that they are. -/
theorem ofValue_object_eq_ok_iff (hdistinct : (Value.object fields).HasDistinctKeys)
    {item : Item} : Item.ofValue (.object fields) = .ok item ↔
      HasItemFields fields ∧ Describes fields item := by
  unfold Item.ofValue
  constructor
  · intro h
    simp only at h
    split at h
    · next draft hread =>
      -- What was read determines the draft, and the draft the item.
      rcases (ofFields_eq_ok_iff hdistinct).mp hread with ⟨hfields, hdraft⟩
      rw [hdraft] at h
      rcases describes_of_item hfields.verification h with ⟨hcoordinates, htarget, htext, hitem⟩
      exact ⟨⟨hfields.actionType, hfields.observationType, hfields.context, htarget, htext,
        ⟨_, hfields.verification⟩, hcoordinates⟩, hitem⟩
    · exact absurd h nofun
  · rintro ⟨hfields, hitem⟩
    rcases item_of_describes hfields hitem with ⟨verification, hverify, h⟩
    -- The other way round, the draft is read first, and the item is made of it.
    have hread : Draft.ofFields fields = .ok (draftIn fields verification) :=
      (ofFields_eq_ok_iff hdistinct).mpr
        ⟨⟨hfields.actionType, hfields.observationType, hfields.context, hverify⟩, rfl⟩
    simp only [hread]
    exact h

/-! ### Order of keys -/

theorem shape_ordered (v : Value) : v.ordered.shape = v.shape := by
  cases v <;> rfl

theorem shapeAt_orderedFields (fields : List (String × Value)) (key : String) :
    shapeAt (orderedFields fields) key = shapeAt fields key := by
  rw [shapeAt, lookup_orderedFields, Option.map_map]
  congr 1
  funext v
  exact shape_ordered v

theorem shapeAt_zip_orderedItems (keys : List String) (items : List Value) (key : String) :
    shapeAt (keys.zip (orderedItems items)) key = shapeAt (keys.zip items) key := by
  unfold shapeAt
  induction keys generalizing items with
  | nil => rfl
  | cons first keys ih =>
      cases items with
      | nil => rfl
      | cons v items =>
          rw [orderedItems, List.zip_cons_cons, List.zip_cons_cons, List.lookup_cons,
            List.lookup_cons]
          split
          · -- The first key is the one: ordering a value does not change its shape.
            exact congrArg some (shape_ordered v)
          · exact ih items

theorem length_orderedItems (items : List Value) : (orderedItems items).length = items.length := by
  induction items with
  | nil => rfl
  | cons v items ih => rw [orderedItems, List.length_cons, List.length_cons, ih]

theorem HasVerificationFields.of_shapeAt {fields' : List (String × Value)}
    (h : HasVerificationFields fields)
    (hsame : ∀ key, shapeAt fields' key = shapeAt fields key) :
    HasVerificationFields fields' ∧ verificationIn fields' = verificationIn fields := by
  refine ⟨⟨?_, ?_, ?_, ?_⟩, by simp only [verificationIn, hsame]⟩
  · rw [hsame]
    exact h.kind
  · rw [hsame]
    exact h.value
  · rw [hsame]
    exact h.requiresApproval
  · rw [hsame]
    exact h.reason

theorem IsVerification.ordered {v : Value} {verification : Verification}
    (h : IsVerification v verification) : IsVerification v.ordered verification := by
  cases h with
  | @object fields h =>
      rcases h.of_shapeAt (shapeAt_orderedFields fields) with ⟨h', hsame⟩
      rw [← hsame]
      exact .object h'
  | @array items hlength h =>
      rcases h.of_shapeAt (shapeAt_zip_orderedItems Draft.verificationKeys items) with ⟨h', hsame⟩
      rw [← hsame]
      exact .array (by rwa [length_orderedItems]) h'

theorem IsOptionalVerification.ordered (h : IsOptionalVerification found verification) :
    IsOptionalVerification (found.map Value.ordered) verification := by
  cases h with
  | absent h =>
      refine .absent ?_
      rw [Option.map_map]
      rcases found with _ | v
      · exact h
      · rwa [Option.map_some, Function.comp_apply, shape_ordered]
  | given h => exact .given h.ordered

theorem HasItemFields.ordered (h : HasItemFields fields) :
    HasItemFields (orderedFields fields) := by
  have hsame := shapeAt_orderedFields fields
  rcases h with ⟨haction, hobservation, hcontext, htarget, htext, ⟨verification, hverify⟩,
    hcoordinates⟩
  refine ⟨by rwa [hsame], by rwa [hsame], by rwa [hsame], by rwa [hsame], by rwa [hsame],
    ⟨verification, ?_⟩, by rwa [hsame]⟩
  rw [lookup_orderedFields]
  exact hverify.ordered

theorem Describes.ordered {item : Item} (h : Describes fields item) :
    Describes (orderedFields fields) item := by
  -- An item depends on the shapes alone, apart from its verification.
  have hsame := shapeAt_orderedFields fields
  cases h with
  | observation hname hkind hcontext hknown hfull =>
      refine .observation ?_ hkind ?_ hknown ?_
      · rwa [typeName?, hsame, hsame]
      · rwa [hsame]
      · rwa [hsame]
  | action hname hkind hcontext hknown hrules hverify =>
      rw [← hsame "target", ← hsame "text"] at hrules ⊢
      refine .action ?_ hkind ?_ hknown hrules ?_
      · rwa [hsame]
      · rwa [hsame]
      · -- The verification looks into its own fields, which have been ordered as well.
        rw [lookup_orderedFields]
        exact hverify.ordered

/-- An item is the same in whatever order its keys come. -/
theorem ofValue_ordered {v : Value} (hdistinct : v.HasDistinctKeys) {item : Item}
    (h : Item.ofValue v = .ok item) : Item.ofValue v.ordered = .ok item := by
  cases v with
  | object fields =>
      rcases (ofValue_object_eq_ok_iff hdistinct).mp h with ⟨hfields, hitem⟩
      exact (ofValue_object_eq_ok_iff (ordered_hasDistinctKeys (.object fields))).mpr
        ⟨hfields.ordered, hitem.ordered⟩
  | _ => exact absurd h nofun

end ActionPlan
