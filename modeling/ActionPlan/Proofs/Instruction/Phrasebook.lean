import ActionPlan.Proofs.Instruction.Sayings
import ActionPlan.Proofs.Plan.FileUse
import ActionPlan.Proofs.Plan.Order

/-!
# Plans of the Phrasebook

The plans of the phrasebook go past the repair and most of the checks, so what those would
establish has to be known from what the phrasebook can say. It is little: a rule that decides for
a plan makes it of one item, or of the launch of the editor and some keystrokes
(`Decides.shape`). `Phrasebook.IsPhrase` keeps what follows from that for later.

What stands in the items is less clear, because it is cut out of the instruction where a phrase was
found in a copy of it. A field is a constant of the phrasebook or a part of the instruction in its
own casing, and in both cases more than blanks (`IsField`), so the items keep the rules for fields
without having been checked.

## Main definitions

* `Phrasebook.IsField`: A constant of the phrasebook, or a part of the text.
* `Phrasebook.IsQuote`: A valid item of such fields.
* `Phrasebook.IsPhrase`: A short and orderly plan of valid items.

## Theorems

* `isQuote_action`: An action of such fields is valid if it has those that are demanded.
* `Acts.isQuote`, `Decides.isQuote`: The plans consist of quotes.
* `plan_wellFormed`: The phrasebook refuses, or makes a short plan of quotes.
* `plan_isPhrase`: The plans of the phrasebook are short, orderly and valid.
-/

namespace ActionPlan

open Text

namespace Phrasebook

variable {text : List Char} {plan : Plan}

/-! ### The items of the plans -/

/-- A constant of the phrasebook, or a part of the text. -/
def IsField (text : List Char) (field : String) : Prop :=
  field = editor ∨ field = saveShortcut ∨ IsTaken field.toList text

theorem IsField.not_blank {field : String} (h : IsField text field) :
    isBlankText field.toList = false := by
  rcases h with rfl | rfl | htaken
  · decide
  · decide
  · exact htaken.filled

theorem isField_of_isTaken {part : List Char} (h : IsTaken part text) :
    IsField text (String.ofList part) := by
  refine .inr (.inr ?_)
  rw [String.toList_ofList]
  exact h

/-- A valid item made of fields that the phrasebook may use. -/
structure IsQuote (text : List Char) (item : Item) : Prop where
  valid : item.IsValid
  closes : item.isClose = true → ∃ app, item.target? = some app
  fields : ∀ field, item.target? = some field ∨ item.text? = some field → IsField text field

theorem isQuote_action {kind : ActionKind} {context : Context} {target typed : Option String}
    (hcheck : Action.check ⟨kind, context, target, typed, none⟩ = .ok ())
    (hclose : kind = .closeApp → ∃ app, target = some app)
    (htarget : ∀ field, target = some field → IsField text field)
    (htyped : ∀ field, typed = some field → IsField text field) :
    IsQuote text (.action ⟨kind, context, target, typed, none⟩) := by
  -- The fields are kept as they are, since none of them is blank.
  have hfilled : ∀ {value : Option String}, (∀ field, value = some field → IsField text field) →
      nonBlank value = value := by
    intro value hvalue
    rcases value with _ | field
    · rfl
    · exact nonBlank_eq_some_iff.mpr ⟨rfl, (hvalue field rfl).not_blank⟩
  refine ⟨⟨hcheck, hfilled htarget, hfilled htyped⟩, ?_, ?_⟩
  · exact fun hcloses => hclose (beq_iff_eq.mp hcloses)
  · rintro field (hfield | hfield)
    · exact htarget field hfield
    · exact htyped field hfield

theorem isField_of_some {field : String} (h : IsField text field) :
    ∀ other, some field = some other → IsField text other :=
  fun _ hsame => Option.some.inj hsame ▸ h

theorem isQuote_keystrokes {typed : String} (h : IsField text typed) :
    IsQuote text (.action (.keystrokes typed)) :=
  isQuote_action rfl nofun nofun (isField_of_some h)

theorem isQuote_onEditor {kind : ActionKind}
    (hcheck : Action.check ⟨kind, .desktop, some editor, none, none⟩ = .ok ()) :
    IsQuote text (.action ⟨kind, .desktop, some editor, none, none⟩) :=
  isQuote_action hcheck (fun _ => ⟨editor, rfl⟩) (isField_of_some (.inl rfl)) nofun

theorem Acts.isQuote (h : Acts text plan) : ∀ item ∈ plan, IsQuote text item := by
  cases h with
  | creating hname hbody =>
      rw [List.forall_mem_singleton]
      -- A file is named and written, and both come from the text.
      exact isQuote_action rfl nofun (isField_of_some (isField_of_isTaken hname))
        (isField_of_some (isField_of_isTaken hbody))
  | openingAndTyping htyped =>
      rw [dictation, List.forall_mem_cons, List.forall_mem_singleton]
      exact ⟨isQuote_onEditor rfl, isQuote_keystrokes (isField_of_isTaken htyped)⟩
  | typing htyped =>
      rw [List.forall_mem_singleton]
      exact isQuote_keystrokes (isField_of_isTaken htyped)
  | opening =>
      rw [List.forall_mem_singleton]
      exact isQuote_onEditor rfl
  | focusing hwindow =>
      rw [List.forall_mem_singleton]
      exact isQuote_action rfl nofun (isField_of_some (isField_of_isTaken hwindow)) nofun
  | closing =>
      rw [List.forall_mem_singleton]
      exact isQuote_onEditor rfl
  | saving =>
      rw [List.forall_mem_singleton]
      -- The keystrokes that save are the same in every text.
      exact isQuote_keystrokes (.inr (.inl rfl))
  | waiting hnumber =>
      rw [List.forall_mem_singleton]
      exact isQuote_action rfl nofun (isField_of_some (isField_of_isTaken hnumber)) nofun

theorem isQuote_observation {path : List Char} (h : IsTaken path text) :
    IsQuote text (.observation ⟨.readText, .file, String.ofList path⟩) where
  valid := h.nonBlank
  closes := nofun
  fields := by
    rintro field (hfield | hfield)
    · exact isField_of_some (isField_of_isTaken h) field hfield
    · exact absurd hfield nofun

theorem Decides.isQuote (h : Decides text (.ok plan)) : ∀ item ∈ plan, IsQuote text item := by
  cases h with
  | reads _ hpath =>
      rw [List.forall_mem_singleton]
      exact isQuote_observation hpath
  | acts _ hacts => exact hacts.isQuote

/-! ### The plans -/

theorem Decides.shape (h : Decides text (.ok plan)) :
    (∃ item, plan = [item]) ∨ ∃ typed, plan = dictation typed := by
  cases h with
  | reads _ _ => exact .inl ⟨_, rfl⟩
  | acts _ hacts =>
      cases hacts with
      | openingAndTyping _ => exact .inr ⟨_, rfl⟩
      | creating _ _ => exact .inl ⟨_, rfl⟩
      | typing _ => exact .inl ⟨_, rfl⟩
      | opening => exact .inl ⟨_, rfl⟩
      | focusing _ => exact .inl ⟨_, rfl⟩
      | closing => exact .inl ⟨_, rfl⟩
      | saving => exact .inl ⟨_, rfl⟩
      | waiting _ => exact .inl ⟨_, rfl⟩

/-- The phrasebook refuses, or it makes one item or two. An item keeps the rules for its fields, a
    close has a target, and every field is a constant or a part of the instruction as it is written.
    The parts are cut out where a phrase was found in the copy with small letters. There the phrase
    is in the text, in some casing, and both may be cut at the same positions. -/
theorem plan_wellFormed (instruction : String) :
    ((∃ message, Phrasebook.plan instruction = .error (.ambiguousInstruction message)) ∨
      ∃ items, Phrasebook.plan instruction = .ok items ∧
        (items.length = 1 ∨ items.length = 2) ∧
        ∀ item ∈ items, item.IsValid ∧
          (item.isClose = true → ∃ app, item.target? = some app) ∧
          ∀ field, item.target? = some field ∨ item.text? = some field →
            field = editor ∨ field = saveShortcut ∨ field.toList <:+: instruction.toList) ∧
    (∀ phrase rest, afterPhrase? phrase (trim instruction.toList) = some rest →
      ∃ front found, trim instruction.toList = front ++ (found ++ rest) ∧
        lowerAscii found = phrase.toList) ∧
    ∀ position : String.Pos.Raw,
      position.IsValid (String.ofList (lowerAscii (trim instruction.toList))) ↔
        position.IsValid (String.ofList (trim instruction.toList)) := by
  refine ⟨?_, fun _ _ => afterPhrase?_eq_some, fun _ => isValid_lowerAscii_iff⟩
  -- Whatever the outcome is, it was decided by a rule or by none, and that says what it is made of.
  have hdecides := plan_decides instruction
  rcases houtcome : Phrasebook.plan instruction with e | items
  · rw [houtcome] at hdecides
    cases hdecides with
    | refuses message => exact .inl ⟨message, rfl⟩
  · rw [houtcome] at hdecides
    refine .inr ⟨items, rfl, ?_, fun item hmem => ?_⟩
    · rcases hdecides.shape with ⟨item, rfl⟩ | ⟨typed, rfl⟩
      · exact .inl rfl
      · exact .inr rfl
    · have hquote := hdecides.isQuote item hmem
      refine ⟨hquote.valid, hquote.closes, fun field hfield => ?_⟩
      -- A field that is no constant is in the trimmed text, so it is in the instruction.
      refine (hquote.fields field hfield).imp_right (Or.imp_right fun htaken => ?_)
      exact htaken.isInfix.trans (trim_isInfix _)

/-- A short and orderly plan of valid items. -/
structure IsPhrase (plan : Plan) : Prop where
  nonempty : plan ≠ []
  valid : plan.IsValid
  /-- At most one item is of a file. -/
  oneOfFile : plan.countP (·.isOfFile) ≤ 1
  orderly : plan.IsOrderly

theorem isOrderly_dictation (typed : String) : (dictation typed).IsOrderly := by
  have htyping : Plan.IsOrderly [.action (.keystrokes typed)] := Plan.isOrderly_singleton nofun
  change Plan.IsOrderly ([_] ++ _)
  refine Plan.isOrderly_append ?_ htyping
  rw [List.forall_mem_singleton]
  rfl

/-- Whatever the phrasebook plans is short, orderly and valid. -/
theorem plan_isPhrase {instruction : String} (h : Phrasebook.plan instruction = .ok plan) :
    IsPhrase plan := by
  have hdecides := plan_decides instruction
  rw [h] at hdecides
  have hvalid : plan.IsValid := fun item hmem => (hdecides.isQuote item hmem).valid
  rcases hdecides.shape with ⟨item, rfl⟩ | ⟨typed, rfl⟩
  · -- A single item is in order unless it closes nothing that has a name.
    have hclose := (hdecides.isQuote item (List.mem_singleton_self item)).closes
    exact ⟨nofun, hvalid, List.countP_le_length, Plan.isOrderly_singleton hclose⟩
  · -- The editor runs on the desktop, and keystrokes go there anyway.
    have hnone : (dictation typed).countP (·.isOfFile) = 0 := rfl
    exact ⟨nofun, hvalid, hnone ▸ Nat.zero_le 1, isOrderly_dictation typed⟩

end Phrasebook

end ActionPlan
