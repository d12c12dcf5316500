import ActionPlan.Proofs.Plan.FileWording

/-!
# Accepted Plans

The suite checks a plan in two stages, with the detour taken out in between. What the first stage
found out about the plan is known of the plan as it was, and what the second stage found out is
known of the plan as it is handed on. `IsAccepted` says of the plan that is handed on what both
stages promise.

Most of what the first stage asks for cannot be spoilt by taking items out. Two things can. A plan
that is to read a file has to look at one, but a launch is no look (`ReadsFile.dropFileLaunches`);
and a plan could become empty, but the second stage asks again. What is handed on has no detour
left (`dropFileLaunches_dropFileLaunches`), so it passes once more and is not changed
(`validate_validate`).

One fault is never found. The check on the use of files asks for the kind of a single file action
only if some file action writes, and then that is the one (`checkFileUse_ne_wrongKind`).

## Main definitions

* `Plan.IsAccepted`: What the suite promises of the plan that it hands on.

## Theorems

* `dropFileLaunches_cases`: The detour is taken out, or there was none.
* `dropFileLaunches_dropFileLaunches`: There is no second detour.
* `ReadsFile.dropFileLaunches`: Taking out the detour leaves a plan that reads.
* `IsFrugal.filter_isFileAction`: A write is the only file action.
* `validate_validate`: What passed, passes again as it is.
* `checkFileUse_ne_wrongKind`: The fault that is never found.
* `isAccepted_of_validate`: The promises of the suite are kept.
-/

namespace ActionPlan

namespace Plan

variable {plan out : Plan} {instruction : String} {max : Nat}

/-! ### Taking out the detour -/

theorem dropFileLaunches_cases (plan : Plan) :
    plan.dropFileLaunches = plan ∨ plan.dropFileLaunches = plan.filter (!·.isFileLaunch) := by
  unfold dropFileLaunches
  split
  · exact .inr rfl
  · exact .inl rfl

/-- Without the launches the plan writes as many files as before, and has no launches. -/
theorem dropFileLaunches_dropFileLaunches (plan : Plan) :
    plan.dropFileLaunches.dropFileLaunches = plan.dropFileLaunches := by
  by_cases hone : plan.countP (·.isFileWrite) = 1
  · have hdrop : plan.dropFileLaunches = plan.filter (!·.isFileLaunch) := if_pos hone
    rw [hdrop, dropFileLaunches, countP_isFileWrite_filter, if_pos hone, List.filter_filter]
    simp only [Bool.and_self]
  · have hkeep : plan.dropFileLaunches = plan := if_neg hone
    rw [hkeep, hkeep]

/-- A launch is an action, so it is not what the plan looks at a file with. -/
theorem ReadsFile.dropFileLaunches (h : plan.ReadsFile) : plan.dropFileLaunches.ReadsFile where
  idle := fun item hmem => h.idle item ((dropFileLaunches_sublist plan).subset hmem)
  looks := by
    rcases h.looks with ⟨item, hmem, hlooks⟩
    refine ⟨item, ?_, hlooks⟩
    rcases dropFileLaunches_cases plan with hdrop | hdrop
    · rw [hdrop]
      exact hmem
    · rw [hdrop, List.mem_filter]
      -- A plan that reads has no actions, and a launch would be one.
      have hlaunch : item.isFileLaunch = false := by
        by_contra hlaunch
        rw [Bool.not_eq_false] at hlaunch
        exact h.not_isAction hmem
          (Item.isAction_of_isKind (Bool.and_eq_true_iff.mp hlaunch).1)
      exact ⟨hmem, by rw [hlaunch]; rfl⟩

/-! ### The use of files -/

/-- In a frugal plan an item that writes a file is all that acts on files. -/
theorem IsFrugal.filter_isFileAction (h : plan.IsFrugal) {item : Item} (hmem : item ∈ plan)
    (hwrite : item.isFileWrite = true) : plan.filter (·.isFileAction) = [item] := by
  have hone := h.writeAlone item hmem hwrite
  rw [List.countP_eq_length_filter] at hone
  -- There is one file action, and the write is among them.
  rcases List.length_eq_one_iff.mp hone with ⟨only, honly⟩
  have hitem : item ∈ plan.filter (·.isFileAction) :=
    List.mem_filter.mpr ⟨hmem, Item.isFileAction_of_isFileWrite hwrite⟩
  rw [honly, List.mem_singleton] at hitem
  rw [honly, hitem]

/-- Where the check asks whether a single file action writes, it has found one that does. -/
theorem checkFileUse_ne_wrongKind (plan : Plan) (kind : ActionKind) :
    plan.checkFileUse ≠ .error (.fileCreationWrongKind kind) := by
  unfold checkFileUse
  simp only
  split
  · split
    · exact nofun
    · exact nofun
  · split
    · exact nofun
    · next hwrites =>
      rw [Bool.not_eq_true', Bool.not_eq_false] at hwrites
      split
      · -- Some file action writes, and there is only this one.
        next only honly =>
        rw [honly, List.any_cons, List.any_nil, Bool.or_false] at hwrites
        rw [if_pos hwrites]
        exact nofun
      · exact nofun

/-! ### The suite -/

/-- A plan that passed has no detour left and keeps what the first stage asked for, so it passes
    again and is not changed. -/
theorem validate_validate (h : plan.validate instruction max = .ok out) :
    out.validate instruction max = .ok out := by
  have hempty := ne_nil_of_validate h
  have hcount := length_le_of_validate h
  have hpart := validate_sublist h
  rcases validate_eq_ok_iff.mp h with ⟨hout, _, _, hwording, hrepetition, hfrugal⟩
  rcases checkWording_eq_ok_iff.mp hwording with ⟨hcreation, hreading⟩
  refine validate_eq_ok_iff.mpr ⟨?_, hempty, hcount, checkWording_eq_ok_iff.mpr ⟨?_, ?_⟩,
    hrepetition, hfrugal⟩
  · -- The detour is gone, and there is no second one.
    rw [hout, dropFileLaunches_dropFileLaunches]
  · -- What acts in a part of the plan acts in the plan.
    exact fun hcreate item hmem => hcreation hcreate item (hpart.subset hmem)
  · -- Taking out a detour leaves the look at the file where it is.
    intro hread
    rw [hout]
    exact (hreading hread).dropFileLaunches

/-- The plan is what the suite promises to hand on, if it accepts the other one. -/
structure IsAccepted (out plan : Plan) (instruction : String) (max : Nat) : Prop where
  /-- File launches are taken out, or nothing is. -/
  part : out = plan ∨ out = plan.filter (!·.isFileLaunch)
  /-- There is something to do. -/
  nonempty : out ≠ []
  /-- There are not too many items. -/
  bounded : out.length ≤ max
  /-- Creating a file is done by file actions. -/
  creation : Instruction.wantsFileCreated instruction = true →
    ∀ item ∈ out, item.isAction = true → item.context = .file
  /-- Reading a file is done without any action. -/
  reading : Instruction.wantsFileRead instruction = true → out.ReadsFile
  /-- Looking at a file goes without acting on files. -/
  readOnly : ∀ item ∈ out, item.isFileObservation = true →
    ∀ other ∈ out, other.isFileAction = false
  /-- Writing a file is the only thing that is done to files. -/
  writeAlone : ∀ item ∈ out, item.isFileWrite = true → out.filter (·.isFileAction) = [item]
  /-- The plan would be accepted again. -/
  stable : out.validate instruction max = .ok out

/-- The suite keeps all its promises on what it hands on. Of its faults, one is never found, in
    whatever plan. -/
theorem isAccepted_of_validate (plan : Plan) (instruction : String) (max : Nat) :
    (∀ out, plan.validate instruction max = .ok out → out.IsAccepted plan instruction max) ∧
      ∀ kind, plan.checkFileUse ≠ .error (.fileCreationWrongKind kind) := by
  refine ⟨fun out h => ?_, checkFileUse_ne_wrongKind plan⟩
  have hpart : out = plan ∨ out = plan.filter (!·.isFileLaunch) := by
    rw [(validate_eq_ok_iff.mp h).1]
    exact dropFileLaunches_cases plan
  have hfrugal := isFrugal_of_validate h
  -- The plan that is handed on passes itself, so what the first stage asks for is known of it too.
  have hagain := validate_validate h
  rcases validate_eq_ok_iff.mp hagain with ⟨_, hempty, hcount, hwording, _, _⟩
  rcases checkWording_eq_ok_iff.mp hwording with ⟨hcreation, hreading⟩
  exact ⟨hpart, hempty, hcount, hcreation, hreading, hfrugal.readOnly,
    fun item hmem => hfrugal.filter_isFileAction hmem, hagain⟩

/-- A launch in front of the writing is taken out, and with it the detour. -/
theorem isAccepted_of_validate_detour :
    let instruction := "create file notes.txt with text hello"
    let launch : Item := .action ⟨.launchApp, .file, some "notes.txt", none, none⟩
    let write : Item := .action ⟨.typeText, .file, some "notes.txt", some "hello", none⟩
    let look : Item := .observation ⟨.queryElement, .desktop, "hello"⟩
    let plan : Plan := [launch, write, look]
    plan.validate instruction 3 = .ok [write, look] ∧
      IsAccepted [write, look] plan instruction 3 ∧
      ∀ kind, plan.checkFileUse ≠ .error (.fileCreationWrongKind kind) := by
  intro instruction launch write look plan
  have hout : plan.validate instruction 3 = .ok [write, look] := by decide +kernel
  rcases isAccepted_of_validate plan instruction 3 with ⟨haccepted, hkind⟩
  exact ⟨hout, haccepted _ hout, hkind⟩

end Plan

end ActionPlan
