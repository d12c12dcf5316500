import ActionPlan.Proofs.Plan.Order
import Mathlib.Data.List.Forall2

/-!
# What Passes Put In Between

The membership lemmas about the passes say where an item of the result may come from. They do
not say that every item of the plan is still there, that it is there once, or that it kept its
place among the others. For that, a pass has to be described as a relation between plans:
`Interleaves added plan out` holds if `out` is `plan` with further items in between, all of
them `added`. The items of the plan are the ones that its constructor `keep` passes over, so
each has its own place in the result.

Two passes put items in, and `Item.IsPutIn` lists the items: the pause in front of a close, and
the three that complete a save. They are no closes and write no files, so a filter that looks
for either does not see them (`Interleaves.filter_eq`).

Completing saves looks ahead, so a plan cannot be completed piece by piece. It can be cut
anywhere all the same, if the first piece is completed in view of the second
(`completeSavesWith_append`). Pausing looks ahead by one item, and what it looks for is a
close, so it can be cut in front of anything else (`pauseBeforeCloses_append`).

The third pass changes items and nothing but items: it fills in the targets of closes one by
one, which `List.Forall₂` describes.

## Main definitions

* `Interleaves`: A list with further items in between.
* `Item.IsPutIn`: The items that repair puts in.
* `Item.IsFilledFrom`: An item whose absent target may have been filled in.

## Theorems

* `Interleaves.trans`, `Interleaves.append`, `Interleaves.filter`: Interleavings compose, and
  are kept by filters.
* `Interleaves.filter_eq`: A filter that rejects all added items does not see them.
* `completeSaves_interleaves`, `pauseBeforeCloses_interleaves`: The passes that put items in.
* `completeSavesWith_append`, `pauseBeforeCloses_append`: The same passes, cut.
* `resolveCloses_filled`: The pass that fills in targets.
* `IsFilledFrom.eq_of`: What does not look at the target does not see that it was filled in.
-/

namespace ActionPlan

/-- The second list is the first one with further items in between, all of them `added`. -/
inductive Interleaves {α : Type} (added : α → Prop) : List α → List α → Prop
  | nil : Interleaves added [] []
  | keep {x : α} {xs ys : List α} (h : Interleaves added xs ys) :
      Interleaves added (x :: xs) (x :: ys)
  | put {y : α} {xs ys : List α} (hy : added y) (h : Interleaves added xs ys) :
      Interleaves added xs (y :: ys)

namespace Interleaves

variable {α : Type} {added : α → Prop} {xs ys zs : List α}

theorem refl : ∀ xs : List α, Interleaves added xs xs
  | [] => .nil
  | _ :: xs => .keep (refl xs)

theorem trans (h : Interleaves added xs ys) (h' : Interleaves added ys zs) :
    Interleaves added xs zs := by
  -- The longer list is the one to go along: an item of it is new, or comes from the middle one.
  induction h' generalizing xs with
  | nil => exact h
  | put hz _ ih => exact .put hz (ih h)
  | keep _ ih =>
      cases h with
      | keep h => exact .keep (ih h)
      | put hy h => exact .put hy (ih h)

theorem append {xs' ys' : List α} (h : Interleaves added xs ys) (h' : Interleaves added xs' ys') :
    Interleaves added (xs ++ xs') (ys ++ ys') := by
  induction h with
  | nil => exact h'
  | keep _ ih => exact .keep ih
  | put hy _ ih => exact .put hy ih

theorem filter (p : α → Bool) (h : Interleaves added xs ys) :
    Interleaves added (xs.filter p) (ys.filter p) := by
  induction h with
  | nil => exact .nil
  | @keep x _ _ _ ih =>
      by_cases hx : p x = true
      · -- A kept element is in both lists or in none.
        rw [List.filter_cons_of_pos hx, List.filter_cons_of_pos hx]
        exact .keep ih
      · rw [List.filter_cons_of_neg hx, List.filter_cons_of_neg hx]
        exact ih
  | @put y _ _ hy _ ih =>
      by_cases hp : p y = true
      · -- One that was put in may be filtered out, and then nothing was put in.
        rw [List.filter_cons_of_pos hp]
        exact .put hy ih
      · rw [List.filter_cons_of_neg hp]
        exact ih

/-- A filter that rejects all added items does not see them. -/
theorem filter_eq {p : α → Bool} (hp : ∀ y, added y → p y = false) (h : Interleaves added xs ys) :
    ys.filter p = xs.filter p := by
  induction h with
  | nil => rfl
  | keep _ ih => rw [List.filter_cons, List.filter_cons, ih]
  | put hy _ ih =>
      rw [List.filter_cons_of_neg (Bool.eq_false_iff.mp (hp _ hy))]
      exact ih

theorem mem {y : α} (h : Interleaves added xs ys) (hy : y ∈ ys) : y ∈ xs ∨ added y := by
  induction h with
  | nil => exact .inl hy
  | keep _ ih =>
      rcases List.mem_cons.mp hy with rfl | hy
      · exact .inl List.mem_cons_self
      · exact (ih hy).imp (List.mem_cons_of_mem _) id
  | put hz _ ih =>
      rcases List.mem_cons.mp hy with rfl | hy
      · exact .inr hz
      · exact ih hy

end Interleaves

/-! ### The items put in -/

namespace Item

/-- Repair puts the item in: it is the pause in front of a close, or it completes a save and
    the instruction speaks of saving. -/
def IsPutIn (instruction : String) (item : Item) : Prop :=
  item = .action (.waitFor "2.0") ∨
    Text.mentions (Instruction.lowered instruction) "save" = true ∧
      item ∈ Plan.saveCompletion (Instruction.savedName instruction)

/-- Everything put in waits or types on the desktop. -/
theorem IsPutIn.cases {instruction : String} {item : Item} (h : item.IsPutIn instruction) :
    (∃ seconds, item = .action (.waitFor seconds)) ∨
      Text.mentions (Instruction.lowered instruction) "save" = true ∧
        ∃ text, item = .action (.keystrokes text) := by
  rcases h with rfl | ⟨hsave, hmem⟩
  · exact .inl ⟨_, rfl⟩
  · exact (Plan.cases_of_mem_saveCompletion hmem).imp id fun htext => ⟨hsave, htext⟩

theorem IsPutIn.isClose_eq_false {instruction : String} {item : Item}
    (h : item.IsPutIn instruction) : item.isClose = false := by
  rcases h.cases with ⟨_, rfl⟩ | ⟨_, _, rfl⟩
  · rfl
  · rfl

/-- The item is not dropped for being a save shortcut that nobody asked for. -/
def outlivesSaving (item : Item) (instruction : String) : Bool :=
  !item.isSaveShortcut || Text.mentions (Instruction.lowered instruction) "save"

theorem outlivesSaving_of_asked {item : Item} {instruction : String}
    (hasked : Text.mentions (Instruction.lowered instruction) "save" = true) :
    item.outlivesSaving instruction = true := by
  unfold outlivesSaving
  rw [hasked, Bool.or_true]

/-- The item is the other one, or a close without a target that was given one. -/
def IsFilledFrom (item original : Item) : Prop :=
  item = original ∨ ∃ (action : Action) (target : Option String), original = .action action ∧
    action.kind = .closeApp ∧ action.target = none ∧ item = .action { action with target }

theorem IsFilledFrom.eq_of {α : Type} {f : Item → α}
    (hf : ∀ (action : Action) (target : Option String),
      f (.action { action with target }) = f (.action action))
    {item original : Item} (h : item.IsFilledFrom original) : f item = f original := by
  rcases h with rfl | ⟨action, target, rfl, _, _, rfl⟩
  · rfl
  · exact hf action target

theorem IsFilledFrom.eq_of_isClose {item original : Item} (h : item.IsFilledFrom original)
    (hclose : original.isClose = false) : item = original := by
  rcases h with rfl | ⟨action, target, rfl, hkind, _, _⟩
  · rfl
  · have hcloses : (Item.action action).isClose = true := isKind_iff.mpr ⟨action, rfl, hkind⟩
    rw [hcloses] at hclose
    exact absurd hclose nofun

end Item

namespace Plan

/-- Both plans have the same items in the same order, up to targets that were filled in. -/
abbrev IsFilledFrom (plan original : Plan) : Prop :=
  List.Forall₂ (fun before after => Item.IsFilledFrom after before) original plan

/-- Filled items are sorted out alike, as long as nobody looks at targets. -/
theorem IsFilledFrom.filter {plan original : Plan} (h : plan.IsFilledFrom original)
    {p : Item → Bool} (hp : ∀ (action : Action) (target : Option String),
      p (.action { action with target }) = p (.action action)) :
    IsFilledFrom (plan.filter p) (original.filter p) := by
  refine List.rel_filter ?_ h
  intro before after hfilled
  change p before = true ↔ p after = true
  rw [Item.IsFilledFrom.eq_of hp hfilled]

/-- Only closes are filled. -/
theorem IsFilledFrom.eq_of_no_close {plan original : Plan} (h : plan.IsFilledFrom original)
    (hnone : ∀ item ∈ original, item.isClose = false) : plan = original := by
  induction h with
  | nil => rfl
  | cons hitem _ ih =>
      rw [hitem.eq_of_isClose (hnone _ List.mem_cons_self),
        ih fun item hmem => hnone item (List.mem_cons_of_mem _ hmem)]

theorem IsFilledFrom.exists_of_mem {plan original : Plan} (h : plan.IsFilledFrom original)
    {item : Item} (hmem : item ∈ plan) : ∃ before ∈ original, item.IsFilledFrom before := by
  induction h with
  | nil => exact absurd hmem List.not_mem_nil
  | cons hitem _ ih =>
      rcases List.mem_cons.mp hmem with rfl | hmem
      · exact ⟨_, List.mem_cons_self, hitem⟩
      · rcases ih hmem with ⟨before, hbefore, hfilled⟩
        exact ⟨before, List.mem_cons_of_mem _ hbefore, hfilled⟩

/-! ### Filling in targets -/

theorem resolveClosesFrom_filled {candidates : List String} {plan out : Plan}
    (h : resolveClosesFrom candidates plan = .ok out) : out.IsFilledFrom plan := by
  -- The candidates grow on the way, so the induction is for all of them.
  induction plan generalizing candidates out with
  | nil =>
      rw [← Except.ok.inj h]
      exact .nil
  | cons first rest ih =>
      unfold resolveClosesFrom at h
      split at h
      · next hopen =>
        split at h
        · next app =>
          rcases bind_eq_ok_iff.mp h with ⟨out', hout', hpure⟩
          rw [← Except.ok.inj hpure]
          refine .cons (.inr ?_) (ih hout')
          have hparts := Bool.and_eq_true_iff.mp hopen
          rcases Item.isKind_iff.mp hparts.1 with ⟨action, rfl, hkind⟩
          have hnone : action.target = none := Option.isNone_iff_eq_none.mp hparts.2
          exact ⟨action, _, rfl, hkind, hnone, rfl⟩
        · -- No candidate, or a choice, and the caller is asked instead.
          exact absurd h nofun
      · rcases bind_eq_ok_iff.mp h with ⟨out', hout', hpure⟩
        rw [← Except.ok.inj hpure]
        exact .cons (.inl rfl) (ih hout')

theorem resolveCloses_filled {plan out : Plan} (h : plan.resolveCloses = .ok out) :
    out.IsFilledFrom plan :=
  resolveClosesFrom_filled h

/-! ### Completing saves -/

/-- A plan is completed piece by piece, the first piece in view of the second. -/
theorem completeSavesWith_append {added : Item → Prop} {name : String}
    (hadded : ∀ item ∈ saveCompletion name, added item) (before after : Plan) :
    ∃ part, completeSavesWith name (before ++ after) = part ++ completeSavesWith name after ∧
      Interleaves added before part := by
  induction before with
  | nil => exact ⟨[], rfl, .nil⟩
  | cons item items ih =>
      -- What becomes of the rest of the first piece is known, with its view of the second piece.
      rcases ih with ⟨part, hpart, hinterleaves⟩
      rw [List.cons_append, completeSavesWith, hpart]
      split
      · refine ⟨item :: (saveCompletion name ++ part), ?_, .keep ?_⟩
        · rw [List.cons_append, List.append_assoc]
        · -- The completion consists of added items, and the rest goes on behind it.
          have hfirst : Interleaves added [] (saveCompletion name) :=
            .put (hadded _ List.mem_cons_self) (.put (hadded _ (.tail _ List.mem_cons_self))
              (.put (hadded _ (.tail _ (.tail _ List.mem_cons_self))) .nil))
          exact hfirst.append hinterleaves
      · exact ⟨item :: part, rfl, .keep hinterleaves⟩

/-- A shortcut without a name behind it is completed on the spot. -/
theorem completeSavesWith_cons_shortcut {name : String} {shortcut : Item} {after : Plan}
    (hshortcut : shortcut.isSaveShortcut = true)
    (hnone : (after.take nameLookahead).any (·.namesFile) = false) :
    completeSavesWith name (shortcut :: after) =
      shortcut :: (saveCompletion name ++ completeSavesWith name after) := by
  rw [completeSavesWith, hshortcut, hnone]
  rfl

theorem completeSaves_of_asked {plan : Plan} {instruction : String}
    (hasked : Text.mentions (Instruction.lowered instruction) "save" = true) :
    completeSaves plan instruction =
      completeSavesWith (Instruction.savedName instruction) plan := by
  unfold completeSaves
  rw [hasked]
  split
  · -- Without a shortcut there is nothing to complete either.
    next hnone =>
    rw [Bool.not_eq_true', List.any_eq_false] at hnone
    exact (completeSavesWith_eq_self fun item hmem => Bool.eq_false_iff.mpr (hnone item hmem)).symm
  · rfl

theorem completeSaves_of_unasked {plan : Plan} {instruction : String}
    (hunasked : Text.mentions (Instruction.lowered instruction) "save" = false) :
    completeSaves plan instruction = plan.filter (!·.isSaveShortcut) := by
  unfold completeSaves
  rw [hunasked]
  split
  · -- There is no shortcut to take out, and the plan is left alone.
    next hnone =>
    rw [Bool.not_eq_true', List.any_eq_false] at hnone
    symm
    rw [List.filter_eq_self]
    intro item hmem
    rw [Bool.eq_false_iff.mpr (hnone item hmem)]
    rfl
  · rfl

/-- If saving is asked for, everything outlives it. -/
theorem filter_outlivesSaving_of_asked {instruction : String}
    (hasked : Text.mentions (Instruction.lowered instruction) "save" = true) (plan : Plan) :
    plan.filter (·.outlivesSaving instruction) = plan := by
  rw [List.filter_eq_self]
  exact fun item _ => Item.outlivesSaving_of_asked hasked

theorem filter_outlivesSaving_of_unasked {instruction : String}
    (hunasked : Text.mentions (Instruction.lowered instruction) "save" = false) (plan : Plan) :
    plan.filter (·.outlivesSaving instruction) = plan.filter (!·.isSaveShortcut) := by
  refine List.filter_congr fun item _ => ?_
  unfold Item.outlivesSaving
  rw [hunasked, Bool.or_false]

/-- What outlives saving stays in its order, and completions come in between. -/
theorem completeSaves_interleaves (plan : Plan) (instruction : String) :
    Interleaves (Item.IsPutIn instruction) (plan.filter (·.outlivesSaving instruction))
      (completeSaves plan instruction) := by
  by_cases hasked : Text.mentions (Instruction.lowered instruction) "save" = true
  · have hadded : ∀ item ∈ saveCompletion (Instruction.savedName instruction),
        item.IsPutIn instruction := fun item hitem => .inr ⟨hasked, hitem⟩
    rcases completeSavesWith_append hadded plan [] with ⟨part, hpart, hinterleaves⟩
    rw [List.append_nil, completeSavesWith, List.append_nil] at hpart
    rw [filter_outlivesSaving_of_asked hasked, completeSaves_of_asked hasked, hpart]
    exact hinterleaves
  · -- Nobody speaks of saving, so nothing is completed and the shortcuts go.
    rw [Bool.not_eq_true] at hasked
    rw [filter_outlivesSaving_of_unasked hasked, completeSaves_of_unasked hasked]
    exact .refl _

/-! ### Pausing in front of closes -/

/-- The first item stays where it is, and pauses come between those behind it. -/
theorem pauseBeforeCloses_cons (instruction : String) (item : Item) (items : Plan) :
    ∃ rest, pauseBeforeCloses (item :: items) = item :: rest ∧
      Interleaves (Item.IsPutIn instruction) items rest := by
  induction items generalizing item with
  | nil => exact ⟨[], rfl, .nil⟩
  | cons next items ih =>
      rcases ih next with ⟨rest, hrest, hinterleaves⟩
      rw [pauseBeforeCloses, hrest]
      split
      · exact ⟨_, rfl, .put (.inl rfl) (.keep hinterleaves)⟩
      · exact ⟨_, rfl, .keep hinterleaves⟩

theorem pauseBeforeCloses_interleaves (instruction : String) (plan : Plan) :
    Interleaves (Item.IsPutIn instruction) plan (pauseBeforeCloses plan) := by
  cases plan with
  | nil => exact .nil
  | cons item items =>
      rcases pauseBeforeCloses_cons instruction item items with ⟨rest, hrest, hinterleaves⟩
      rw [hrest]
      exact .keep hinterleaves

theorem pauseBeforeCloses_eq_self {plan : Plan} (h : ∀ item ∈ plan, item.isClose = false) :
    pauseBeforeCloses plan = plan := by
  induction plan with
  | nil => rfl
  | cons item items ih =>
      -- A pause is only put in front of a close, and there is none.
      have hrest : pauseBeforeCloses items = items :=
        ih fun other hmem => h other (List.mem_cons_of_mem item hmem)
      cases items with
      | nil => rfl
      | cons next items =>
          have hnext : next.isClose = false := h next (.tail _ List.mem_cons_self)
          rw [pauseBeforeCloses, hnext, Bool.and_false, if_neg Bool.false_ne_true, hrest]

/-- There is no pause in front of an item that closes nothing, so the plan can be cut there. -/
theorem pauseBeforeCloses_append (before : Plan) {next : Item} (hnext : next.isClose = false)
    (after : Plan) : pauseBeforeCloses (before ++ next :: after) =
      pauseBeforeCloses before ++ pauseBeforeCloses (next :: after) := by
  induction before with
  | nil => rfl
  | cons item items ih =>
      cases items with
      | nil =>
          change pauseBeforeCloses (item :: next :: after) =
            item :: pauseBeforeCloses (next :: after)
          rw [pauseBeforeCloses, hnext, Bool.and_false, if_neg Bool.false_ne_true]
      | cons second items =>
          -- Whether a pause comes behind the first item depends on the second one alone.
          change pauseBeforeCloses (item :: second :: (items ++ next :: after)) =
            pauseBeforeCloses (item :: second :: items) ++ pauseBeforeCloses (next :: after)
          rw [List.cons_append] at ih
          rw [pauseBeforeCloses, pauseBeforeCloses, ih]
          split
          · rfl
          · rfl

end Plan

end ActionPlan
