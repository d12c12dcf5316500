import ActionPlan.Proofs.Plan.Interleaving

/-!
# Keystrokes and Content

Typing on the desktop goes to the window that has the focus, whatever it is, and keys such as the
save shortcut do something there. Typing into a file or into a field of a page is content: the
text is all that counts, and the same keys are characters in it. Completing saves is about the
first kind of typing and should leave the second alone, that is, keep it and put nothing in behind
it (`SparesContent`).

A save shortcut is recognised by its text, and its context is not looked at. So content that has
the shortcut in it is taken for a shortcut. If nobody speaks of saving it is dropped, and if the
instruction does, it is kept and completed on the desktop, unless something that looks like a name
is typed soon enough behind it. `completeSaves_sparesContent_iff` says that these two are the only
ways to lose content or to complete it, and that the first does not change the order of what
is left.

A plan is completed from its end, so what the pass makes of the items behind some place does not
depend on the items in front of it (`completeSaves_append`). Whether the pass spares an item is then
a matter of the item and of what comes behind it (`completeSaves_cons_of_named`,
`completeSaves_cons_of_bare`, `completeSaves_cons_of_unasked`).

## Main definitions

* `Item.isOffDesktop`: The item takes effect in a file or on the web.
* `Plan.SparesContent`: Completing the saves of the plan touches nothing off the desktop.

## Theorems

* `completeSaves_append`: The pass, cut.
* `filter_isOffDesktop_completeSaves`: What the pass leaves off the desktop.
* `passesOver_iff`: When the pass leaves an item off the desktop alone.
* `completeSaves_sparesContent_iff`: The plans in which it leaves them all alone.
-/

namespace ActionPlan

namespace Item

/-- The item takes effect in a file or on the web, where typing is no keystrokes. -/
def isOffDesktop (item : Item) : Bool :=
  item.context != .desktop

theorem IsPutIn.isOffDesktop_eq_false {instruction : String} {item : Item}
    (h : item.IsPutIn instruction) : item.isOffDesktop = false := by
  rcases h.cases with ⟨_, rfl⟩ | ⟨_, _, rfl⟩
  · rfl
  · rfl

end Item

namespace Plan

variable {plan : Plan} {instruction : String}

/-- What the pass makes of the items behind some place does not depend on those in front. -/
theorem completeSaves_append (before after : Plan) (instruction : String) :
    ∃ front, completeSaves (before ++ after) instruction =
        front ++ completeSaves after instruction ∧
      Interleaves (Item.IsPutIn instruction) (before.filter (·.outlivesSaving instruction))
        front := by
  by_cases hasked : Text.mentions (Instruction.lowered instruction) "save" = true
  · -- The completion of the first part looks at the second one, and changes nothing in it.
    have hadded : ∀ item ∈ saveCompletion (Instruction.savedName instruction),
        item.IsPutIn instruction := fun item hitem => .inr ⟨hasked, hitem⟩
    rw [completeSaves_of_asked hasked, completeSaves_of_asked hasked,
      filter_outlivesSaving_of_asked hasked]
    exact completeSavesWith_append hadded before after
  · -- Taking shortcuts out is done item by item.
    rw [Bool.not_eq_true] at hasked
    rw [completeSaves_of_unasked hasked, completeSaves_of_unasked hasked, List.filter_append,
      filter_outlivesSaving_of_unasked hasked]
    exact ⟨_, rfl, .refl _⟩

/-- The instruction speaks of saving, and a name is typed soon enough in these items. -/
def IsNamed (after : Plan) (instruction : String) : Prop :=
  Text.mentions (Instruction.lowered instruction) "save" = true ∧
    (after.take nameLookahead).any (·.namesFile) = true

instance (after : Plan) (instruction : String) : Decidable (after.IsNamed instruction) :=
  inferInstanceAs (Decidable (_ ∧ _))

/-! ### One item -/

/-- Only shortcuts that lack something are touched. -/
theorem completeSaves_cons_of_named {item : Item} {after : Plan}
    (h : item.isSaveShortcut = true → after.IsNamed instruction) :
    completeSaves (item :: after) instruction = item :: completeSaves after instruction := by
  by_cases hasked : Text.mentions (Instruction.lowered instruction) "save" = true
  · -- A shortcut that is asked for is left alone if there is a name behind it.
    rw [completeSaves_of_asked hasked, completeSaves_of_asked hasked, completeSavesWith, if_neg]
    rw [Bool.and_eq_true, Bool.not_eq_true', not_and, Bool.not_eq_false]
    exact fun hshortcut => (h hshortcut).2
  · -- Without a word of saving there is no shortcut that lacks nothing.
    have hother : item.isSaveShortcut = false :=
      Bool.eq_false_iff.mpr fun hshortcut => hasked (h hshortcut).1
    rw [Bool.not_eq_true] at hasked
    rw [completeSaves_of_unasked hasked, completeSaves_of_unasked hasked,
      List.filter_cons_of_pos (by rw [hother]; rfl)]

theorem completeSaves_cons_of_unasked {item : Item} (after : Plan)
    (hunasked : Text.mentions (Instruction.lowered instruction) "save" = false)
    (hshortcut : item.isSaveShortcut = true) :
    completeSaves (item :: after) instruction = completeSaves after instruction := by
  rw [completeSaves_of_unasked hunasked, completeSaves_of_unasked hunasked,
    List.filter_cons_of_neg (by rw [hshortcut]; exact nofun)]

theorem completeSaves_cons_of_bare {item : Item} {after : Plan}
    (hasked : Text.mentions (Instruction.lowered instruction) "save" = true)
    (hshortcut : item.isSaveShortcut = true)
    (hnone : (after.take nameLookahead).any (·.namesFile) = false) :
    completeSaves (item :: after) instruction =
      item :: (saveCompletion (Instruction.savedName instruction) ++
        completeSaves after instruction) := by
  rw [completeSaves_of_asked hasked, completeSaves_of_asked hasked,
    completeSavesWith_cons_shortcut hshortcut hnone]

/-! ### Items off the desktop -/

/-- Off the desktop nothing is put in, and what is lost has the shortcut in it. -/
theorem filter_isOffDesktop_completeSaves (plan : Plan) (instruction : String) :
    (completeSaves plan instruction).filter (·.isOffDesktop) =
      (plan.filter (·.isOffDesktop)).filter (·.outlivesSaving instruction) := by
  rw [(completeSaves_interleaves plan instruction).filter_eq fun _ hput =>
      hput.isOffDesktop_eq_false, List.filter_filter, List.filter_filter]
  exact List.filter_congr fun item _ => Bool.and_comm _ _

/-- The pass leaves the content where it is, between what it makes of the items in front and what
    it makes of those behind, with nothing put in on account of the content. -/
def PassesOver (instruction : String) (before : Plan) (content : Item) (after : Plan) : Prop :=
  ∃ front, completeSaves (before ++ content :: after) instruction =
      front ++ content :: completeSaves after instruction ∧
    Interleaves (Item.IsPutIn instruction) (before.filter (·.outlivesSaving instruction)) front

/-- An item off the desktop is left alone unless it is taken for a shortcut that lacks something. -/
theorem passesOver_iff {before after : Plan} {content : Item} (hoff : content.isOffDesktop = true) :
    PassesOver instruction before content after ↔
      (content.isSaveShortcut = true → after.IsNamed instruction) := by
  rcases completeSaves_append before (content :: after) instruction with ⟨front, hcut, hfront⟩
  unfold PassesOver
  rw [hcut]
  constructor
  · rintro ⟨front', hsame, hfront'⟩ hshortcut
    by_cases hasked : Text.mentions (Instruction.lowered instruction) "save" = true
    · refine ⟨hasked, ?_⟩
      by_contra hnone
      rw [Bool.not_eq_true] at hnone
      rw [completeSaves_cons_of_bare hasked hshortcut hnone, ← List.cons_append,
        ← List.append_assoc, List.append_cons front', List.append_cancel_right_eq] at hsame
      -- What is put in ends with a key on the desktop, and not with content.
      have hlast := congrArg List.getLast? hsame
      rw [List.getLast?_concat, saveCompletion,
        List.getLast?_append_of_ne_nil _ (List.cons_ne_nil _ _)] at hlast
      rw [← Option.some.inj hlast] at hoff
      exact absurd hoff nofun
    · rw [Bool.not_eq_true] at hasked
      rw [completeSaves_cons_of_unasked after hasked hshortcut, List.append_cons front',
        List.append_cancel_right_eq] at hsame
      -- So the content would be one of the items in front, and be kept.
      have hmem : content ∈ front := hsame ▸ List.mem_append_right _ List.mem_cons_self
      rcases hfront.mem hmem with hkept | hput
      · have houtlives := (List.mem_filter.mp hkept).2
        unfold Item.outlivesSaving at houtlives
        rw [hshortcut, hasked] at houtlives
        exact absurd houtlives nofun
      · rw [hput.isOffDesktop_eq_false] at hoff
        exact absurd hoff nofun
  · intro hnamed
    exact ⟨front, by rw [completeSaves_cons_of_named hnamed], hfront⟩

/-- Completing the saves of the plan touches nothing off the desktop. -/
structure SparesContent (plan : Plan) (instruction : String) : Prop where
  /-- What is off the desktop stays as it is, and in its order. -/
  kept : (completeSaves plan instruction).filter (·.isOffDesktop) = plan.filter (·.isOffDesktop)
  /-- Nothing is put in on account of any of it. -/
  quiet : ∀ (before : Plan) (content : Item) (after : Plan), plan = before ++ content :: after →
    content.isOffDesktop = true → PassesOver instruction before content after

/-- Whatever is left off the desktop is as it was, and in its order. All of it is left, and nothing
    is put in on its account, if and only if content with the shortcut in it has a name
    behind it, in an instruction that speaks of saving. -/
theorem completeSaves_sparesContent_iff (plan : Plan) (instruction : String) :
    (completeSaves plan instruction).filter (·.isOffDesktop) =
      (plan.filter (·.isOffDesktop)).filter (·.outlivesSaving instruction) ∧
    (plan.SparesContent instruction ↔
      ∀ (before : Plan) (content : Item) (after : Plan), plan = before ++ content :: after →
        content.isOffDesktop = true → content.isSaveShortcut = true →
        after.IsNamed instruction) := by
  have hleft := filter_isOffDesktop_completeSaves plan instruction
  refine ⟨hleft, fun h before content after hcut hoff => ?_, fun h => ⟨?_, ?_⟩⟩
  · -- Behind a shortcut nothing is put in only if there is a name already.
    exact (passesOver_iff hoff).mp (h.quiet before content after hcut hoff)
  · -- Content with a shortcut in it outlives saving, as the instruction speaks of it.
    rw [hleft, List.filter_eq_self]
    intro content hmem
    rcases List.mem_filter.mp hmem with ⟨hplan, hoff⟩
    rcases List.append_of_mem hplan with ⟨before, after, hcut⟩
    unfold Item.outlivesSaving
    cases hshortcut : content.isSaveShortcut with
    | false => rfl
    | true => exact (h before content after hcut hoff hshortcut).1
  · exact fun before content after hcut hoff =>
      (passesOver_iff hoff).mpr (h before content after hcut hoff)

/-- The text of a file is dropped for the keys it speaks of, and text that goes into a page is
    followed by keys that save something on the desktop. -/
theorem not_sparesContent :
    let write : Item :=
      .action ⟨.typeText, .file, some "keys.txt", some "press ^s to keep it", none⟩
    let field : Item := .action ⟨.typeText, .web, some "#note", some "press ^s", none⟩
    let creating := "create file keys.txt with text press ^s to keep it"
    let saving := "type press ^s into the note and save it"
    (completeSaves [write] creating = [] ∧ ¬ SparesContent [write] creating) ∧
      completeSaves [field] saving = field :: saveCompletion "untitled.txt" ∧
        ¬ SparesContent [field] saving := by
  intro write field creating saving
  have hdropped : completeSaves [write] creating = [] := by decide +kernel
  have hcompleted : completeSaves [field] saving = field :: saveCompletion "untitled.txt" := by
    decide +kernel
  refine ⟨⟨hdropped, fun h => ?_⟩, hcompleted, fun h => ?_⟩
  · -- Nothing is left of the plan, so the content has not been kept.
    have hkept := h.kept
    rw [hdropped] at hkept
    exact absurd hkept nofun
  · -- There is nothing behind the field that could be a name.
    have hnamed := (passesOver_iff rfl).mp (h.quiet [] field [] rfl rfl) (by decide +kernel)
    exact absurd hnamed.2 nofun

end Plan

end ActionPlan
