import ActionPlan.Plan.Check
import ActionPlan.Proofs.Plan.Passes

/-!
# Frugal Use of Files

What the last check on a plan asks for has a short form: a plan that looks at a file does not
act on files, and a plan that writes a file does nothing else to files. `Plan.IsFrugal` is
that form, and `checkFileUse_eq_ok_iff` says that the check passes the frugal plans and no
others.

A part of a frugal plan is frugal (`IsFrugal.sublist`), which is why it is asked of plans and
not of graphs: however a plan is cut, the pieces are frugal.

Not every plan goes through the check. Those that do not have a single item of a file at
most, and these are frugal without one (`isFrugal_of_countP_le_one`).

## Main definitions

* `Item.isOfFile`: The item acts on a file or looks at one.
* `Plan.IsFrugal`: Files are either looked at or written by a single action.

## Theorems

* `checkFileUse_eq_ok_iff`: The check passes exactly the frugal plans.
* `IsFrugal.sublist`: A part of a frugal plan is frugal.
* `IsFrugal.length_eq_one`, `IsFrugal.isAction_eq_false`: A frugal plan in a file writes it and
  nothing else, or does not act.
* `isFrugal_of_countP_le_one`: A plan with one item of a file is frugal.
* `isFrugal_completeSaves`: Completing the saves of such a plan leaves it frugal.
* `validate_eq_ok_iff`: The suite of checks as a conjunction.
* `isFrugal_of_validate`, `ne_nil_of_validate`, `length_le_of_validate`: A plan that passes is
  frugal, has items, and has not too many.
* `validate_sublist`: A plan that passes is part of the plan that was checked.
-/

namespace ActionPlan

namespace Item

/-- The item acts on a file or looks at one. -/
def isOfFile (item : Item) : Bool :=
  item.context == .file

theorem isFileAction_of_isFileWrite {item : Item} (h : item.isFileWrite = true) :
    item.isFileAction = true := by
  unfold isFileWrite at h
  rw [Bool.and_eq_true_iff] at h
  rcases isKind_iff.mp h.1 with ⟨action, rfl, _⟩
  exact h.2

theorem isFileWrite_iff {item : Item} :
    item.isFileWrite = true ↔ item.isFileAction = true ∧ item.isKind .typeText = true := by
  constructor
  · exact fun h => ⟨isFileAction_of_isFileWrite h, (Bool.and_eq_true_iff.mp h).1⟩
  · exact fun h => Bool.and_eq_true_iff.mpr ⟨h.2, (Bool.and_eq_true_iff.mp h.1).2⟩

end Item

namespace Plan

/-- Files are either looked at or written by a single action. -/
structure IsFrugal (plan : Plan) : Prop where
  /-- Looking at a file goes without acting on files. -/
  readOnly : ∀ item ∈ plan, item.isFileObservation = true →
    ∀ other ∈ plan, other.isFileAction = false
  /-- Writing a file is the only thing that is done to files. -/
  writeAlone : ∀ item ∈ plan, item.isFileWrite = true → plan.countP (·.isFileAction) = 1

/-! ### The check -/

/-- A plan that looks at a file is frugal if it does not act on files. -/
theorem isFrugal_iff_of_observation {plan : Plan} (h : plan.any (·.isFileObservation) = true) :
    plan.IsFrugal ↔ plan.filter (·.isFileAction) = [] := by
  rcases List.any_eq_true.mp h with ⟨item, hmem, hitem⟩
  rw [List.filter_eq_nil_iff]
  constructor
  · -- A look at a file rules out every action on one.
    intro hfrugal other hother
    rw [hfrugal.readOnly item hmem hitem other hother]
    exact nofun
  · -- Without actions on files there is no write that would have to be alone.
    intro hnone
    refine ⟨fun _ _ _ other hother => Bool.eq_false_iff.mpr (hnone other hother), ?_⟩
    intro write hwrite hiswrite
    exact absurd (Item.isFileAction_of_isFileWrite hiswrite) (hnone write hwrite)

/-- A plan that looks at no file is frugal if it writes none, or acts on files once. -/
theorem isFrugal_iff_of_no_observation {plan : Plan}
    (h : ¬ plan.any (·.isFileObservation) = true) :
    plan.IsFrugal ↔ (plan.filter (·.isFileAction)).any (·.isKind .typeText) = false ∨
      plan.countP (·.isFileAction) = 1 := by
  rw [Bool.not_eq_true, List.any_eq_false] at h
  constructor
  · -- If one of the actions writes, it has to be alone.
    intro hfrugal
    by_cases hwrites : (plan.filter (·.isFileAction)).any (·.isKind .typeText) = true
    · rcases List.any_eq_true.mp hwrites with ⟨item, hmem, htypes⟩
      rcases List.mem_filter.mp hmem with ⟨hplan, haction⟩
      exact .inr (hfrugal.writeAlone item hplan (Item.isFileWrite_iff.mpr ⟨haction, htypes⟩))
    · exact .inl (Bool.not_eq_true _ ▸ hwrites)
  · -- No file is looked at, so only writes are left to be judged.
    intro hcases
    refine ⟨fun item hmem hitem => absurd hitem (h item hmem), ?_⟩
    intro item hmem hwrite
    rcases hcases with hnone | hone
    · have hparts := Item.isFileWrite_iff.mp hwrite
      exact absurd hparts.2
        (List.any_eq_false.mp hnone item (List.mem_filter.mpr ⟨hmem, hparts.1⟩))
    · exact hone

/-- The check on the use of files passes exactly the frugal plans. -/
theorem checkFileUse_eq_ok_iff {plan : Plan} : plan.checkFileUse = .ok () ↔ plan.IsFrugal := by
  unfold checkFileUse
  simp only
  split
  · next hlooks =>
    rw [isFrugal_iff_of_observation hlooks]
    split
    · next hempty => exact iff_of_true rfl (List.isEmpty_iff.mp hempty)
    · next hempty => exact iff_of_false nofun (fun hnil => hempty (List.isEmpty_iff.mpr hnil))
  · next hlooks =>
    rw [isFrugal_iff_of_no_observation hlooks, List.countP_eq_length_filter]
    by_cases hwrites : (plan.filter (·.isFileAction)).any (·.isKind .typeText) = true
    · rw [hwrites]
      -- Some file action writes, so a single one does.
      split
      · next hnot => exact absurd hnot nofun
      · split
        · next only honly =>
          rw [honly, List.any_cons, List.any_nil, Bool.or_false] at hwrites
          rw [if_pos hwrites, honly]
          exact iff_of_true rfl (.inr rfl)
        · -- Not a single action, so the count is wrong whatever the others are.
          next hseveral =>
          refine iff_of_false nofun ?_
          rintro (hnone | hone)
          · exact absurd hnone nofun
          · rcases List.length_eq_one_iff.mp hone with ⟨only, honly⟩
            exact hseveral only honly
    · -- Launching and clicking files may go on as often as they like.
      rw [Bool.not_eq_true] at hwrites
      rw [hwrites]
      exact iff_of_true rfl (.inl rfl)

/-! ### Frugal plans -/

/-- However a frugal plan is cut, its parts are frugal. -/
theorem IsFrugal.sublist {plan part : Plan} (h : plan.IsFrugal) (hpart : part.Sublist plan) :
    part.IsFrugal where
  readOnly := fun item hmem hitem other hother =>
    h.readOnly item (hpart.subset hmem) hitem other (hpart.subset hother)
  writeAlone := by
    intro item hmem hwrite
    have hwhole : plan.countP (·.isFileAction) = 1 :=
      h.writeAlone item (hpart.subset hmem) hwrite
    -- No more than in the plan, and no less than the writing itself.
    have hle : part.countP (·.isFileAction) ≤ plan.countP (·.isFileAction) := hpart.countP_le
    have hpos : 0 < part.countP (·.isFileAction) :=
      List.countP_pos_iff.mpr ⟨item, hmem, Item.isFileAction_of_isFileWrite hwrite⟩
    omega

/-- The items of a file are those that act on one and those that look at one. -/
theorem countP_isOfFile (plan : Plan) :
    plan.countP (·.isOfFile) =
      plan.countP (·.isFileAction) + plan.countP (·.isFileObservation) := by
  induction plan with
  | nil => rfl
  | cons item items ih =>
      rw [List.countP_cons, List.countP_cons, List.countP_cons, ih]
      -- An item of a file adds to one of the two counts, as it acts or looks.
      rcases item with a | o
      · change _ + (if (a.context == .file) = true then 1 else 0) =
          _ + (if (a.context == .file) = true then 1 else 0) + (_ + 0)
        omega
      · change _ + (if (o.context == .file) = true then 1 else 0) =
          _ + 0 + (_ + (if (o.context == .file) = true then 1 else 0))
        omega

/-! ### Frugal plans in a file

Where every item is of a file, being frugal says something about all of them. -/

theorem IsFrugal.length_eq_one {plan : Plan} (h : plan.IsFrugal)
    (hfile : ∀ item ∈ plan, item.isOfFile = true) {item : Item} (hmem : item ∈ plan)
    (htypes : item.isKind .typeText = true) : plan.length = 1 := by
  have hwrite : item.isFileWrite = true := Bool.and_eq_true_iff.mpr ⟨htypes, hfile item hmem⟩
  have hone : plan.countP (·.isFileAction) = 1 := h.writeAlone item hmem hwrite
  -- A look at a file would rule out the action that writes.
  have hnone : plan.countP (·.isFileObservation) = 0 := by
    rw [List.countP_eq_zero]
    intro other hother hlooks
    have hidle := h.readOnly other hother hlooks item hmem
    rw [Item.isFileAction_of_isFileWrite hwrite] at hidle
    exact absurd hidle nofun
  rw [← List.countP_eq_length.mpr hfile, countP_isOfFile, hone, hnone]

theorem IsFrugal.isAction_eq_false {plan : Plan} (h : plan.IsFrugal)
    (hfile : ∀ item ∈ plan, item.isOfFile = true) {item other : Item} (hmem : item ∈ plan)
    (hlooks : item.isObservation = true) (hother : other ∈ plan) : other.isAction = false := by
  have hobservation : item.isFileObservation = true :=
    Bool.and_eq_true_iff.mpr ⟨hlooks, hfile item hmem⟩
  have hidle : (other.isAction && other.isOfFile) = false :=
    h.readOnly item hmem hobservation other hother
  rw [hfile other hother, Bool.and_true] at hidle
  exact hidle

/-! ### Plans that go past the check -/

/-- One item of a file is either an action or a look, and no other is in its way. -/
theorem isFrugal_of_countP_le_one {plan : Plan} (h : plan.countP (·.isOfFile) ≤ 1) :
    plan.IsFrugal where
  readOnly := by
    intro item hmem hitem
    have hpos : 0 < plan.countP (·.isFileObservation) :=
      List.countP_pos_iff.mpr ⟨item, hmem, hitem⟩
    rw [countP_isOfFile] at h
    have hnone : plan.countP (·.isFileAction) = 0 := by omega
    exact fun other hother => Bool.eq_false_iff.mpr (List.countP_eq_zero.mp hnone other hother)
  writeAlone := by
    intro item hmem hwrite
    have hpos : 0 < plan.countP (·.isFileAction) :=
      List.countP_pos_iff.mpr ⟨item, hmem, Item.isFileAction_of_isFileWrite hwrite⟩
    rw [countP_isOfFile] at h
    omega

/-- The items that complete a save are none of a file, so a plan with a single item of a file
    is frugal with its saves completed as well. -/
theorem isFrugal_completeSaves {plan : Plan} (h : plan.countP (·.isOfFile) ≤ 1)
    (instruction : String) : (plan.completeSaves instruction).IsFrugal := by
  refine isFrugal_of_countP_le_one (Nat.le_trans (countP_completeSaves_le plan ?_) h)
  intro item hitem
  unfold saveCompletion at hitem
  simp only [List.mem_cons, List.not_mem_nil, or_false] at hitem
  rcases hitem with rfl | rfl | rfl
  · rfl
  · rfl
  · rfl

/-! ### The suite -/

theorem checkNotEmpty_eq_ok_iff {plan : Plan} : plan.checkNotEmpty = .ok () ↔ plan ≠ [] := by
  cases plan with
  | nil => exact iff_of_false nofun (fun h => h rfl)
  | cons item items => exact iff_of_true rfl nofun

theorem checkCount_eq_ok_iff {plan : Plan} {max : Nat} :
    plan.checkCount max = .ok () ↔ plan.length ≤ max := by
  unfold checkCount
  by_cases h : max < plan.length
  · rw [if_pos h]
    exact iff_of_false nofun (Nat.not_le_of_lt h)
  · rw [if_neg h]
    exact iff_of_true rfl (Nat.le_of_not_lt h)

/-- A plan passes the suite if it is not empty, not too long and in keeping with its wording,
    and if without its detour it is neither repetitive nor wasteful of files. -/
theorem validate_eq_ok_iff {plan out : Plan} {instruction : String} {max : Nat} :
    plan.validate instruction max = .ok out ↔
      out = plan.dropFileLaunches ∧ plan ≠ [] ∧ plan.length ≤ max ∧
        plan.checkWording instruction = .ok () ∧ out.checkRepetition = .ok () ∧ out.IsFrugal := by
  unfold validate
  simp only [bind_eq_ok_iff]
  constructor
  · rintro ⟨_, hempty, _, hcount, _, hwording, _, hrepetition, _, huse, hpure⟩
    -- The last two checks see the plan without its detour.
    have hout := Except.ok.inj hpure
    rw [hout] at hrepetition huse
    exact ⟨hout.symm, checkNotEmpty_eq_ok_iff.mp hempty, checkCount_eq_ok_iff.mp hcount, hwording,
      hrepetition, checkFileUse_eq_ok_iff.mp huse⟩
  · rintro ⟨rfl, hempty, hcount, hwording, hrepetition, huse⟩
    exact ⟨(), checkNotEmpty_eq_ok_iff.mpr hempty, (), checkCount_eq_ok_iff.mpr hcount, (),
      hwording, (), hrepetition, (), checkFileUse_eq_ok_iff.mpr huse, rfl⟩

theorem isFrugal_of_validate {plan out : Plan} {instruction : String} {max : Nat}
    (h : plan.validate instruction max = .ok out) : out.IsFrugal := by
  rcases validate_eq_ok_iff.mp h with ⟨_, _, _, _, _, hfrugal⟩
  exact hfrugal

/-- The repetition check asks for items once more, behind the detour. So taking out file
    launches cannot leave an empty plan that passes. -/
theorem ne_nil_of_validate {plan out : Plan} {instruction : String} {max : Nat}
    (h : plan.validate instruction max = .ok out) : out ≠ [] := by
  rcases validate_eq_ok_iff.mp h with ⟨_, _, _, _, hrepetition, _⟩
  unfold checkRepetition at hrepetition
  rcases bind_eq_ok_iff.mp hrepetition with ⟨_, hempty, _⟩
  exact checkNotEmpty_eq_ok_iff.mp hempty

theorem dropFileLaunches_sublist (plan : Plan) : plan.dropFileLaunches.Sublist plan := by
  unfold dropFileLaunches
  split
  · exact List.filter_sublist
  · exact List.Sublist.refl plan

/-- The suite takes items out at most, and keeps the order of the others. -/
theorem validate_sublist {plan out : Plan} {instruction : String} {max : Nat}
    (h : plan.validate instruction max = .ok out) : out.Sublist plan := by
  rw [(validate_eq_ok_iff.mp h).1]
  exact dropFileLaunches_sublist plan

theorem length_le_of_validate {plan out : Plan} {instruction : String} {max : Nat}
    (h : plan.validate instruction max = .ok out) : out.length ≤ max := by
  have hpart : out.length ≤ plan.length := (validate_sublist h).length_le
  have hcount : plan.length ≤ max := (validate_eq_ok_iff.mp h).2.2.1
  omega

end Plan

end ActionPlan
