import ActionPlan.Proofs.Plan.Passes

/-!
# Closes at the End

A plan closes apps when everything else is done, and it says which apps it closes. Repair
establishes both, the targets by asking for them and the order by moving the closes. Behind
repair nothing can spoil this any more: the checks only take items out, and a part of an
orderly plan is orderly.

The phrasebook's plans are not repaired, but their saves are completed, which puts items in.
They follow a save shortcut, and a shortcut is no close. In an orderly plan that leaves two
cases. In front of a close nothing is said about what comes next, so anything orderly may be
put in; and behind a close there are only closes, so there is no shortcut to complete.

## Main definitions

* `Plan.IsOrderly`: Closes have targets, and nothing but closes comes behind a close.

## Theorems

* `isClose_eq_false_of_typing`, `isClose_eq_false_of_isSaveShortcut`: Typing closes nothing, and a
  save shortcut is typed.
* `IsOrderly.sublist`: A part of an orderly plan is orderly.
* `isOrderly_append`: Items that close nothing may be put in front.
* `repair_isOrderly`: A repaired plan is orderly.
* `completeSaves_isOrderly`: Completing the saves of an orderly plan leaves it orderly.
-/

namespace ActionPlan

namespace Item

/-- An item has one kind only, so typing is no close. -/
theorem isClose_eq_false_of_typing {item : Item} (h : item.isKind .typeText = true) :
    item.isClose = false := by
  rcases isKind_iff.mp h with ⟨action, rfl, hkind⟩
  change (action.kind == .closeApp) = false
  rw [hkind]
  rfl

theorem isKind_of_isSaveShortcut {item : Item} (h : item.isSaveShortcut = true) :
    item.isKind .typeText = true := by
  unfold isSaveShortcut typedText? at h
  by_contra hkind
  rw [if_neg hkind] at h
  exact absurd h nofun

/-- A save shortcut is typed. -/
theorem isClose_eq_false_of_isSaveShortcut {item : Item} (h : item.isSaveShortcut = true) :
    item.isClose = false :=
  isClose_eq_false_of_typing (isKind_of_isSaveShortcut h)

theorem target_of_isOpenClose_eq_false {item : Item} (h : item.isOpenClose = false)
    (hclose : item.isClose = true) : ∃ target, item.target? = some target := by
  unfold isOpenClose at h
  rw [hclose, Bool.true_and] at h
  rcases htarget : item.target? with _ | target
  · rw [htarget] at h
    exact absurd h nofun
  · exact ⟨target, rfl⟩

end Item

namespace Plan

/-- Closes have targets, and nothing but closes comes behind a close. -/
structure IsOrderly (plan : Plan) : Prop where
  targeted : ∀ item ∈ plan, item.isClose = true → ∃ target, item.target? = some target
  closesLast : plan.Pairwise fun item later => item.isClose = true → later.isClose = true

theorem isOrderly_singleton {item : Item}
    (h : item.isClose = true → ∃ target, item.target? = some target) : IsOrderly [item] where
  targeted := by
    intro other hmem
    rw [List.mem_singleton.mp hmem]
    exact h
  closesLast := List.pairwise_singleton _ _

/-- However much is taken out of an orderly plan, the rest is orderly. -/
theorem IsOrderly.sublist {plan part : Plan} (h : plan.IsOrderly) (hpart : part.Sublist plan) :
    part.IsOrderly :=
  ⟨fun item hmem => h.targeted item (hpart.subset hmem), h.closesLast.sublist hpart⟩

/-- In front of an orderly plan there may be anything that closes nothing. -/
theorem isOrderly_append {front rest : Plan} (hfront : ∀ item ∈ front, item.isClose = false)
    (hrest : rest.IsOrderly) : IsOrderly (front ++ rest) where
  targeted := by
    intro item hmem hclose
    rcases List.mem_append.mp hmem with hmem | hmem
    · rw [hfront item hmem] at hclose
      exact absurd hclose nofun
    · exact hrest.targeted item hmem hclose
  closesLast := by
    -- Whatever comes behind an item in front, the item is no close.
    have hnone : ∀ item ∈ front, ∀ later : Item, item.isClose = true → later.isClose = true := by
      intro item hmem later hclose
      rw [hfront item hmem] at hclose
      exact absurd hclose nofun
    refine List.pairwise_append.mpr ⟨?_, hrest.closesLast, ?_⟩
    · exact List.pairwise_of_forall_mem_list fun item hmem later _ => hnone item hmem later
    · exact fun item hmem later _ => hnone item hmem later

/-! ### Repair -/

/-- A repaired plan has its closes at the end, and has no open ones. -/
theorem repair_isOrderly {plan out : Plan} {instruction : String}
    (h : plan.repair instruction = .ok out) : out.IsOrderly := by
  rcases repair_eq_ok_iff.mp h with ⟨resolved, _, hout, hopen⟩
  have htargeted : ∀ item ∈ out, item.isClose = true → ∃ target, item.target? = some target :=
    fun item hmem => Item.target_of_isOpenClose_eq_false (hopen item hmem)
  rw [hout] at htargeted ⊢
  unfold closesLast at htargeted ⊢
  -- What is in front closes nothing, and behind it everything does.
  refine isOrderly_append ?_ ⟨?_, ?_⟩
  · intro item hmem
    have hrest := (List.mem_filter.mp hmem).2
    rw [Bool.not_eq_true'] at hrest
    exact hrest
  · exact fun item hmem => htargeted item (List.mem_append_right _ hmem)
  · exact List.pairwise_of_forall_mem_list fun _ _ later hlater _ => (List.mem_filter.mp hlater).2

/-! ### Completing the saves -/

theorem completeSavesWith_eq_self {name : String} {plan : Plan}
    (h : ∀ item ∈ plan, item.isSaveShortcut = false) : completeSavesWith name plan = plan := by
  induction plan with
  | nil => rfl
  | cons item items ih =>
      have hrest : completeSavesWith name items = items :=
        ih fun other hmem => h other (List.mem_cons_of_mem item hmem)
      unfold completeSavesWith
      rw [h item List.mem_cons_self, Bool.false_and, if_neg Bool.false_ne_true, hrest]

/-- A save is completed by waiting and by typing on the desktop. -/
theorem cases_of_mem_saveCompletion {name : String} {item : Item} (h : item ∈ saveCompletion name) :
    (∃ seconds, item = .action (.waitFor seconds)) ∨ ∃ text, item = .action (.keystrokes text) := by
  unfold saveCompletion at h
  simp only [List.mem_cons, List.not_mem_nil, or_false] at h
  rcases h with rfl | rfl | rfl
  · exact .inl ⟨_, rfl⟩
  · exact .inr ⟨_, rfl⟩
  · exact .inr ⟨_, rfl⟩

theorem saveCompletion_isClose {name : String} {item : Item} (h : item ∈ saveCompletion name) :
    item.isClose = false := by
  rcases cases_of_mem_saveCompletion h with ⟨_, rfl⟩ | ⟨_, rfl⟩
  · rfl
  · rfl

theorem completeSavesWith_isOrderly {name : String} {plan : Plan} (h : plan.IsOrderly) :
    (completeSavesWith name plan).IsOrderly := by
  induction plan with
  | nil => exact h
  | cons item items ih =>
      by_cases hclose : item.isClose = true
      · -- Behind a close there are only closes, and nothing to complete.
        have hcloses : ∀ other ∈ item :: items, other.isClose = true := by
          intro other hmem
          rcases List.mem_cons.mp hmem with rfl | hmem
          · exact hclose
          · exact (List.pairwise_cons.mp h.closesLast).1 other hmem hclose
        have hnone : ∀ other ∈ item :: items, other.isSaveShortcut = false := by
          intro other hmem
          by_contra hshortcut
          rw [Bool.not_eq_false] at hshortcut
          have hno := Item.isClose_eq_false_of_isSaveShortcut hshortcut
          rw [hcloses other hmem] at hno
          exact absurd hno nofun
        rw [completeSavesWith_eq_self hnone]
        exact h
      · rw [Bool.not_eq_true] at hclose
        -- The rest is in order, and what is put in front of it closes nothing.
        have hrest : (completeSavesWith name items).IsOrderly :=
          ih (h.sublist (List.sublist_cons_self item items))
        unfold completeSavesWith
        split
        · change IsOrderly ((item :: saveCompletion name) ++ completeSavesWith name items)
          refine isOrderly_append ?_ hrest
          intro other hmem
          rcases List.mem_cons.mp hmem with rfl | hmem
          · exact hclose
          · exact saveCompletion_isClose hmem
        · change IsOrderly ([item] ++ completeSavesWith name items)
          refine isOrderly_append ?_ hrest
          intro other hmem
          rw [List.mem_singleton.mp hmem]
          exact hclose

theorem completeSaves_isOrderly {plan : Plan} (h : plan.IsOrderly) (instruction : String) :
    (completeSaves plan instruction).IsOrderly := by
  unfold completeSaves
  split
  · exact h
  · split
    · exact h.sublist List.filter_sublist
    · exact completeSavesWith_isOrderly h

end Plan

end ActionPlan
