import ActionPlan.Plan.Repair
import ActionPlan.Proofs.Item.Fields
import ActionPlan.Proofs.Text.Pieces

/-!
# What the Passes Leave and Put In

A pass over a plan can drop an item, fill in the target of a close, or put in an item of its
own. Which of these a pass does is stated once, as a lemma about the items of its result:
each comes from the plan or is one of a few known items. What later proofs want to know about
a repaired plan then takes no look at a pass again.

The items put in are waits and keystrokes on the desktop, and not blank. So a plan of valid
items stays one (`repair_isValid`), and the items of a file can only become fewer
(`countP_completeSaves_le`).

Completing the saves is the one pass that can leave nothing of a plan that had something. It
does so if every item is a save shortcut and the instruction does not speak of saving
(`completeSaves_eq_nil_iff`).

## Main definitions

* `Instruction.IsFileName`: What can be the name of a saved file.
* `Plan.IsValid`: All items keep the rules for their fields.

## Theorems

* `isKind_iff`: An item of a kind is an action.
* `isFileName_of_firstName`: The name that an instruction gives is a file name.
* `savedName_not_blank`: The name of a saved file is not blank.
* `mem_resolveClosesFrom`, `mem_completeSaves`, `mem_pauseBeforeCloses`, `closesLast_perm`:
  Where the items behind each pass come from.
* `repair_eq_ok_iff`: The repair as its passes.
* `repair_isValid`: Repair keeps the rules for fields.
* `completeSaves_eq_nil_iff`: The plans that completing the saves empties.
* `countP_completeSaves_le`: Completing the saves adds no items but its own.
-/

namespace ActionPlan

theorem Item.isKind_iff {item : Item} {kind : ActionKind} :
    item.isKind kind = true ↔ ∃ action, item = .action action ∧ action.kind = kind := by
  rcases item with a | o
  · change (a.kind == kind) = true ↔ _
    rw [beq_iff_eq]
    exact ⟨fun h => ⟨a, rfl, h⟩, fun ⟨_, ha, h⟩ => Item.action.inj ha ▸ h⟩
  · exact ⟨nofun, fun ⟨_, h, _⟩ => nomatch h⟩

/-! ### Names of saved files -/

namespace Instruction

/-- The text is a file name: characters of names, a point, and a known extension. -/
def IsFileName (name : List Char) : Prop :=
  ∃ stem ext, stem ≠ [] ∧ (∀ c ∈ stem, isNameChar c = true) ∧ ext ∈ fileExtensions ∧
    name = stem ++ '.' :: ext.toList

/-- The name for want of a better one is a file name too. -/
theorem isFileName_unnamedFile : IsFileName unnamedFile.toList := by
  have hstem : ∀ c ∈ "untitled".toList, isNameChar c = true := List.all_eq_true.mp (by decide)
  exact ⟨"untitled".toList, "txt", by decide, hstem, by decide, rfl⟩

theorem isFileName_of_nameAtHead {text name : List Char} (h : nameAtHead? text = some name) :
    IsFileName name := by
  unfold nameAtHead? at h
  simp only at h
  split at h
  · exact absurd h nofun
  · next hne =>
    rw [List.isEmpty_iff] at hne
    split at h
    · -- The text goes on with a stem, a point and an extension.
      rcases Option.map_eq_some_iff.mp h with ⟨ext, hext, hname⟩
      exact ⟨_, ext, hne, List.all_eq_true.mp List.all_takeWhile, List.mem_of_find?_eq_some hext,
        hname.symm⟩
    · exact absurd h nofun

theorem isFileName_of_firstName {text name : List Char} {insideName : Bool}
    (h : firstName? insideName text = some name) : IsFileName name := by
  -- Whether a name may begin changes from one character to the next.
  induction text generalizing insideName with
  | nil => exact absurd h nofun
  | cons c text ih =>
      unfold firstName? at h
      simp only [Option.orElse_eq_orElse, Option.orElse_eq_or, Option.or_eq_some_iff] at h
      rcases h with hhere | ⟨_, hlater⟩
      · split at hhere
        · exact absurd hhere nofun
        · exact isFileName_of_nameAtHead hhere
      · exact ih hlater

theorem IsFileName.point_mem {name : List Char} (h : IsFileName name) : '.' ∈ name := by
  rcases h with ⟨stem, ext, _, _, _, rfl⟩
  exact List.mem_append_right stem List.mem_cons_self

theorem savedName_not_blank (instruction : String) :
    Text.isBlankText (savedName instruction).toList = false := by
  unfold savedName
  split
  · decide
  · next name hname =>
    -- A file name has a point in it, which is visible.
    have hpoint : '.' ∈ name := (isFileName_of_firstName hname).point_mem
    have hblank : Text.isBlank '.' = false := rfl
    split
    · refine Text.not_blank_of_mem ?_ hblank
      rw [String.toList_append, List.mem_append]
      refine .inr ?_
      rw [String.toList_ofList]
      exact hpoint
    · rw [String.toList_ofList]
      exact Text.not_blank_of_mem hpoint hblank

end Instruction

namespace Plan

/-- All items keep the rules for their fields. -/
def IsValid (plan : Plan) : Prop :=
  ∀ item ∈ plan, item.IsValid

/-! ### Single passes -/

/-- An item behind the resolution of closes is one of the plan, or an open close with its
    target filled in. -/
theorem mem_resolveClosesFrom {candidates : List String} {plan out : Plan}
    (h : resolveClosesFrom candidates plan = .ok out) {item : Item} (hitem : item ∈ out) :
    item ∈ plan ∨
      ∃ close ∈ plan, close.isOpenClose = true ∧ ∃ app, item = close.withTarget app := by
  -- The candidates grow on the way, so the induction is for all of them.
  induction plan generalizing candidates out with
  | nil =>
      rw [← Except.ok.inj h] at hitem
      exact .inl hitem
  | cons first rest ih =>
      unfold resolveClosesFrom at h
      split at h
      · next hopen =>
        split at h
        · next app =>
          rcases bind_eq_ok_iff.mp h with ⟨out', hout', hpure⟩
          rw [← Except.ok.inj hpure, List.mem_cons] at hitem
          rcases hitem with rfl | hitem
          · -- The close that gets its target here.
            exact .inr ⟨first, List.mem_cons_self, hopen, app, rfl⟩
          · rcases ih hout' hitem with hmem | ⟨close, hmem, hclose⟩
            · exact .inl (List.mem_cons_of_mem first hmem)
            · exact .inr ⟨close, List.mem_cons_of_mem first hmem, hclose⟩
        · -- No candidate, or a choice, and the caller is asked instead.
          exact absurd h nofun
      · rcases bind_eq_ok_iff.mp h with ⟨out', hout', hpure⟩
        rw [← Except.ok.inj hpure, List.mem_cons] at hitem
        rcases hitem with rfl | hitem
        · exact .inl List.mem_cons_self
        · rcases ih hout' hitem with hmem | ⟨close, hmem, hclose⟩
          · exact .inl (List.mem_cons_of_mem first hmem)
          · exact .inr ⟨close, List.mem_cons_of_mem first hmem, hclose⟩

theorem mem_completeSavesWith {name : String} {plan : Plan} {item : Item}
    (h : item ∈ completeSavesWith name plan) : item ∈ plan ∨ item ∈ saveCompletion name := by
  induction plan with
  | nil => exact .inl h
  | cons first rest ih =>
      unfold completeSavesWith at h
      split at h
      · rw [List.mem_cons, List.mem_append] at h
        -- The item is the shortcut, or was put in behind it, or comes later.
        rcases h with rfl | hcompletion | hrest
        · exact .inl List.mem_cons_self
        · exact .inr hcompletion
        · exact (ih hrest).imp (List.mem_cons_of_mem first) id
      · rw [List.mem_cons] at h
        rcases h with rfl | hrest
        · exact .inl List.mem_cons_self
        · exact (ih hrest).imp (List.mem_cons_of_mem first) id

theorem mem_completeSaves {plan : Plan} {instruction : String} {item : Item}
    (h : item ∈ completeSaves plan instruction) :
    item ∈ plan ∨ item ∈ saveCompletion (Instruction.savedName instruction) := by
  unfold completeSaves at h
  split at h
  · exact .inl h
  · split at h
    · exact .inl (List.mem_of_mem_filter h)
    · exact mem_completeSavesWith h

theorem mem_pauseBeforeCloses {plan : Plan} {item : Item} (h : item ∈ pauseBeforeCloses plan) :
    item ∈ plan ∨ item = .action (.waitFor "2.0") := by
  induction plan with
  | nil => exact .inl h
  | cons first rest ih =>
      cases rest with
      | nil => exact .inl h
      | cons next rest =>
          -- The pass looks one item ahead, but goes on one item at a time.
          unfold pauseBeforeCloses at h
          split at h
          · rw [List.mem_cons, List.mem_cons] at h
            rcases h with rfl | hwait | hrest
            · exact .inl List.mem_cons_self
            · exact .inr hwait
            · exact (ih hrest).imp (List.mem_cons_of_mem first) id
          · rw [List.mem_cons] at h
            rcases h with rfl | hrest
            · exact .inl List.mem_cons_self
            · exact (ih hrest).imp (List.mem_cons_of_mem first) id

/-- Moving the closes changes the order only. -/
theorem closesLast_perm (plan : Plan) : (closesLast plan).Perm plan := by
  have hperm := List.filter_append_perm (fun item : Item => !item.isClose) plan
  simp only [Bool.not_not] at hperm
  exact hperm

/-! ### The repair -/

/-- The repair is its passes, and leaves no close open. -/
theorem repair_eq_ok_iff {plan out : Plan} {instruction : String} :
    plan.repair instruction = .ok out ↔
      ∃ resolved, plan.resolveCloses = .ok resolved ∧
        out = closesLast (pauseBeforeCloses (completeSaves resolved instruction)) ∧
        ∀ item ∈ out, item.isOpenClose = false := by
  unfold repair
  rw [bind_eq_ok_iff]
  refine exists_congr fun resolved => and_congr_right fun _ => ?_
  simp only
  unfold requireCloseTargets
  split
  · -- A close is open, so the last check fails.
    next hopen =>
    constructor
    · exact nofun
    · rintro ⟨rfl, hnone⟩
      rcases List.any_eq_true.mp hopen with ⟨item, hmem, hitem⟩
      rw [hnone item hmem] at hitem
      exact absurd hitem nofun
  · -- None is, and the last check passes the plan on.
    next hopen =>
    rw [Bool.not_eq_true, List.any_eq_false] at hopen
    constructor
    · intro h
      have hout := Except.ok.inj h
      exact ⟨hout.symm, fun item hmem => Bool.eq_false_iff.mpr (hopen item (hout ▸ hmem))⟩
    · exact fun h => congrArg Except.ok h.1.symm

/-! ### Valid items -/

theorem resolveCloses_isValid {plan out : Plan} (hplan : plan.IsValid)
    (h : plan.resolveCloses = .ok out) : out.IsValid := by
  intro item hitem
  rcases mem_resolveClosesFrom h hitem with hmem | ⟨close, hmem, hopen, app, rfl⟩
  · exact hplan item hmem
  · -- Only an action that closes an app gets a target from the pass.
    have hclose : close.isKind .closeApp = true := (Bool.and_eq_true_iff.mp hopen).1
    rcases Item.isKind_iff.mp hclose with ⟨action, rfl, hkind⟩
    exact Action.withTarget_isValid (hplan _ hmem) hkind app

theorem saveCompletion_isValid {name : String} (hname : Text.isBlankText name.toList = false) :
    (saveCompletion name).IsValid := by
  intro item hitem
  unfold saveCompletion at hitem
  simp only [List.mem_cons, List.not_mem_nil, or_false] at hitem
  rcases hitem with rfl | rfl | rfl
  · exact Action.waitFor_isValid (by decide)
  · exact Action.keystrokes_isValid hname
  · exact Action.keystrokes_isValid (by decide)

theorem completeSaves_isValid {plan : Plan} (hplan : plan.IsValid) (instruction : String) :
    (completeSaves plan instruction).IsValid := by
  intro item hitem
  rcases mem_completeSaves hitem with hmem | hmem
  · exact hplan item hmem
  · exact saveCompletion_isValid (Instruction.savedName_not_blank instruction) item hmem

theorem pauseBeforeCloses_isValid {plan : Plan} (hplan : plan.IsValid) :
    (pauseBeforeCloses plan).IsValid := by
  intro item hitem
  rcases mem_pauseBeforeCloses hitem with hmem | rfl
  · exact hplan item hmem
  · exact Action.waitFor_isValid (by decide)

/-- A repaired plan keeps the rules for fields if the plan did. -/
theorem repair_isValid {plan out : Plan} {instruction : String} (hplan : plan.IsValid)
    (h : plan.repair instruction = .ok out) : out.IsValid := by
  rcases repair_eq_ok_iff.mp h with ⟨resolved, hresolved, rfl, _⟩
  have hsaved : (completeSaves resolved instruction).IsValid :=
    completeSaves_isValid (resolveCloses_isValid hplan hresolved) instruction
  intro item hitem
  exact pauseBeforeCloses_isValid hsaved item ((closesLast_perm _).mem_iff.mp hitem)

/-! ### Completing the saves -/

theorem completeSavesWith_eq_nil_iff {name : String} {plan : Plan} :
    completeSavesWith name plan = [] ↔ plan = [] := by
  cases plan with
  | nil => exact Iff.rfl
  | cons item items =>
      unfold completeSavesWith
      split
      · exact ⟨nofun, nofun⟩
      · exact ⟨nofun, nofun⟩

/-- Completing the saves leaves nothing if there was nothing, or nothing but shortcuts that
    the instruction did not ask for. -/
theorem completeSaves_eq_nil_iff {plan : Plan} {instruction : String} :
    completeSaves plan instruction = [] ↔
      plan = [] ∨ (∀ item ∈ plan, item.isSaveShortcut = true) ∧
        Text.mentions (Instruction.lowered instruction) "save" = false := by
  unfold completeSaves
  split
  · next hnone =>
    rw [Bool.not_eq_true', List.any_eq_false] at hnone
    constructor
    · exact .inl
    · rintro (hnil | ⟨hall, _⟩)
      · exact hnil
      · -- Only the empty plan has nothing but shortcuts and none.
        cases plan with
        | nil => rfl
        | cons item items =>
            exact absurd (hall item List.mem_cons_self) (hnone item List.mem_cons_self)
  · -- There is a shortcut, and so there is an item.
    next hsome =>
    have hne : plan ≠ [] := by
      rintro rfl
      exact hsome rfl
    split
    · -- Nobody speaks of saving, so the shortcuts are taken out.
      next hsave =>
      rw [Bool.not_eq_true'] at hsave
      rw [List.filter_eq_nil_iff]
      simp only [Bool.not_eq_true', Bool.not_eq_false]
      exact ⟨fun hall => .inr ⟨hall, hsave⟩, fun h => (h.resolve_left hne).1⟩
    · -- Completing adds items only.
      next hsave =>
      rw [completeSavesWith_eq_nil_iff]
      refine ⟨.inl, fun h => h.elim id fun ⟨_, hno⟩ => ?_⟩
      rw [hno] at hsave
      exact absurd rfl hsave

theorem countP_completeSavesWith {p : Item → Bool} {name : String} (plan : Plan)
    (hp : ∀ item ∈ saveCompletion name, p item = false) :
    (completeSavesWith name plan).countP p = plan.countP p := by
  -- What is put in is not counted.
  have hnone : (saveCompletion name).countP p = 0 := by
    rw [List.countP_eq_zero]
    exact fun item hmem => Bool.eq_false_iff.mp (hp item hmem)
  induction plan with
  | nil => rfl
  | cons item items ih =>
      unfold completeSavesWith
      split
      · rw [List.countP_cons, List.countP_append, hnone, ih, Nat.zero_add, List.countP_cons]
      · rw [List.countP_cons, ih, List.countP_cons]

/-- There are no more items of a sort than before, if those put in are of another sort. -/
theorem countP_completeSaves_le {p : Item → Bool} (plan : Plan) {instruction : String}
    (hp : ∀ item ∈ saveCompletion (Instruction.savedName instruction), p item = false) :
    (completeSaves plan instruction).countP p ≤ plan.countP p := by
  unfold completeSaves
  split
  · exact Nat.le_refl _
  · split
    · exact List.filter_sublist.countP_le
    · exact Nat.le_of_eq (countP_completeSavesWith plan hp)

end Plan

end ActionPlan
