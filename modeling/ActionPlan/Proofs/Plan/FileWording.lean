import ActionPlan.Proofs.Plan.FileUse

/-!
# What File Wording Asks of a Plan

An instruction that speaks of creating a file allows actions on files only, and one that
speaks of reading a file allows no action at all and asks for a look at a file. So wording
takes things away from a plan, and only the wording of reading puts something in: a plan
under the wording of creating a file need not write one. What the check says instead is about
the plans that type. `CreatesFile` is what is left of these, and
`validate_eq_ok_iff_of_types` says which of them are accepted.

A plan that does not type keeps all of its items. It may launch files or click in them, as
often as the repetition check lets it, or look at a file and do nothing
(`creation_of_validate`).

## Main definitions

* `Plan.ReadsFile`: The plan does not act and looks at a file.
* `Plan.CreatesFile`: All the plan has to do with files is to write one of them.

## Theorems

* `checkCreationWording_eq_ok_iff`, `checkReadingWording_eq_ok_iff`, `checkWording_eq_ok_iff`:
  What the check on wording asks for.
* `checkRepetition_of_length_le`: Three actions are not repetitive.
* `Action.kind_of_isValid`, `isFileWrite_fields`: The kinds of valid actions on files, and the
  fields of one that writes.
* `createsFile_of_isFileWrite`: A frugal plan that writes a file creates it.
* `validate_eq_ok_iff_of_types`: The plans with typing that pass under the wording of creating.
* `creation_of_validate`: What passes under that wording.
-/

namespace ActionPlan

/-! ### Actions on files -/

/-- A file can be launched, written or clicked. -/
theorem Action.kind_of_isValid {action : Action} (hvalid : action.IsValid)
    (hfile : action.context = .file) :
    action.kind = .launchApp ∨ action.kind = .typeText ∨ action.kind = .clickControl := by
  have hcheck := hvalid.check
  unfold Action.check at hcheck
  rw [hfile] at hcheck
  rcases hkind : action.kind with _ | _ | _ | _ | _ | _
  case launchApp => exact .inl rfl
  case typeText => exact .inr (.inl rfl)
  case clickControl => exact .inr (.inr rfl)
  -- The other kinds are refused in a file.
  all_goals
    rw [hkind] at hcheck
    exact absurd hcheck nofun

namespace Item

/-- Writing a file takes its name and its text. -/
theorem isFileWrite_fields {item : Item} (hvalid : item.IsValid)
    (hwrite : item.isFileWrite = true) : ∃ target text verification,
      item = .action ⟨.typeText, .file, some target, some text, verification⟩ := by
  rcases Bool.and_eq_true_iff.mp hwrite with ⟨htypes, hfile⟩
  rcases isKind_iff.mp htypes with ⟨⟨kind, context, target, text, verification⟩, rfl, hkind⟩
  have hcontext : context = .file := beq_iff_eq.mp hfile
  subst hkind hcontext
  have hcheck := hvalid.check
  -- The check demands one field after the other.
  rcases target with _ | target
  · exact absurd hcheck nofun
  · rcases text with _ | text
    · exact absurd hcheck nofun
    · exact ⟨target, text, verification, rfl⟩

theorem isAction_of_isKind {item : Item} {kind : ActionKind} (h : item.isKind kind = true) :
    item.isAction = true := by
  rcases isKind_iff.mp h with ⟨action, rfl, _⟩
  rfl

theorem isAction_of_mem_singleton {action : Action} {item : Item}
    (hmem : item ∈ [Item.action action]) : item.isAction = true := by
  rw [List.mem_singleton.mp hmem]
  rfl

/-- What writes a file does not launch one. -/
theorem isFileLaunch_eq_false_of_isKind {item : Item} (h : item.isKind .typeText = true) :
    item.isFileLaunch = false := by
  rcases isKind_iff.mp h with ⟨action, rfl, hkind⟩
  change (action.kind == .launchApp && _) = false
  rw [hkind]
  rfl

end Item

namespace Plan

/-! ### The check on wording -/

/-- The plan does not act, and it looks at a file. -/
structure ReadsFile (plan : Plan) : Prop where
  idle : ∀ item ∈ plan, item.isAction = false
  looks : ∃ item ∈ plan, item.isFileObservation = true

theorem ReadsFile.not_isAction {plan : Plan} (h : plan.ReadsFile) {item : Item}
    (hmem : item ∈ plan) : ¬ item.isAction = true :=
  Bool.eq_false_iff.mp (h.idle item hmem)

/-- The item that looks at a file is not an action. -/
theorem ReadsFile.not_all_isAction {plan : Plan} (h : plan.ReadsFile) :
    ¬ ∀ item ∈ plan, item.isAction = true := by
  intro hactions
  rcases h.looks with ⟨item, hmem, _⟩
  exact h.not_isAction hmem (hactions item hmem)

theorem foreignContexts_eq_nil_iff {plan : Plan} :
    plan.foreignContexts = [] ↔ ∀ item ∈ plan, item.isAction = true → item.context = .file := by
  unfold foreignContexts
  rw [List.filter_eq_nil_iff]
  simp only [List.any_eq_true, Bool.and_eq_true, beq_iff_eq, not_exists, not_and]
  constructor
  · -- An action elsewhere would be in one of the two foreign contexts.
    intro hnone item hmem haction
    rcases hcontext : item.context with _ | _ | _
    case file => rfl
    case desktop => exact absurd hcontext (hnone .desktop (by decide) item hmem haction)
    case web => exact absurd hcontext (hnone .web (by decide) item hmem haction)
  · intro hfile context hcontext item hmem haction heq
    rw [← heq, hfile item hmem haction] at hcontext
    exact absurd hcontext (by decide)

theorem checkCreationWording_eq_ok_iff {plan : Plan} {instruction : String} :
    plan.checkCreationWording instruction = .ok () ↔
      (Instruction.wantsFileCreated instruction = true →
        ∀ item ∈ plan, item.isAction = true → item.context = .file) := by
  rw [← foreignContexts_eq_nil_iff, ← List.isEmpty_iff]
  unfold checkCreationWording
  simp only
  cases Instruction.wantsFileCreated instruction
  · exact iff_of_true rfl nofun
  · cases plan.foreignContexts.isEmpty
    · exact iff_of_false nofun (fun h => absurd (h rfl) nofun)
    · exact iff_of_true rfl (fun _ => rfl)

theorem checkReadingWording_eq_ok_iff {plan : Plan} {instruction : String} :
    plan.checkReadingWording instruction = .ok () ↔
      (Instruction.wantsFileRead instruction = true → plan.ReadsFile) := by
  unfold checkReadingWording
  cases Instruction.wantsFileRead instruction
  · -- Nothing is to be read, so nothing is checked.
    exact iff_of_true rfl nofun
  · simp only [Bool.not_true, Bool.false_eq_true, if_false, forall_const]
    split
    · -- Something acts where there should be looks only.
      next hacts =>
      rcases List.countP_pos_iff.mp hacts with ⟨item, hmem, haction⟩
      exact iff_of_false nofun (fun hreads => hreads.not_isAction hmem haction)
    · next hidle =>
      have hnone : plan.countP (·.isAction) = 0 := Nat.eq_zero_of_not_pos hidle
      split
      · next hlooks =>
        refine iff_of_true rfl ⟨?_, List.any_eq_true.mp hlooks⟩
        exact fun item hmem => Bool.eq_false_iff.mpr (List.countP_eq_zero.mp hnone item hmem)
      · -- Nothing acts, but no file is looked at either.
        next hlooks =>
        exact iff_of_false nofun (fun hreads => hlooks (List.any_eq_true.mpr hreads.looks))

theorem checkWording_eq_ok_iff {plan : Plan} {instruction : String} :
    plan.checkWording instruction = .ok () ↔
      (Instruction.wantsFileCreated instruction = true →
        ∀ item ∈ plan, item.isAction = true → item.context = .file) ∧
      (Instruction.wantsFileRead instruction = true → plan.ReadsFile) := by
  rw [← checkCreationWording_eq_ok_iff, ← checkReadingWording_eq_ok_iff]
  unfold checkWording
  rw [bind_eq_ok_iff]
  exact ⟨fun ⟨_, hcreation, hreading⟩ => ⟨hcreation, hreading⟩,
    fun ⟨hcreation, hreading⟩ => ⟨(), hcreation, hreading⟩⟩

/-! ### The check on repetition -/

theorem mem_of_mostFrequent? {entries : List (String × Nat)} {entry : String × Nat}
    (h : mostFrequent? entries = some entry) : entry ∈ entries := by
  induction entries generalizing entry with
  | nil => exact absurd h nofun
  | cons first entries ih =>
      unfold mostFrequent? at h
      split at h
      · -- The rest has its own most frequent entry, and the first one is as frequent or it is not.
        next other hother =>
        split at h
        · rw [← Option.some.inj h]
          exact List.mem_cons_of_mem first (ih hother)
        · rw [← Option.some.inj h]
          exact List.mem_cons_self
      · rw [← Option.some.inj h]
        exact List.mem_cons_self

/-- An action cannot be repeated more often than there are actions. -/
theorem checkRepetition_of_length_le {plan : Plan} (hempty : plan ≠ [])
    (h : plan.actions.length ≤ maxIdentical) : plan.checkRepetition = .ok () := by
  unfold checkRepetition
  rw [bind_eq_ok_iff]
  refine ⟨(), checkNotEmpty_eq_ok_iff.mpr hempty, ?_⟩
  split
  · next signature count hmost =>
    unfold signatureCounts at hmost
    rcases List.mem_map.mp (mem_of_mostFrequent? hmost) with ⟨_, _, hentry⟩
    -- The number of copies of a signature is at most that of all signatures.
    have hcount : count ≤ plan.actions.length := by
      rw [← (Prod.mk.inj hentry).2, ← List.length_map (f := Action.signature)]
      exact List.count_le_length
    rw [if_neg (by omega)]
  · rfl

/-! ### Plans that create a file -/

/-- All the plan has to do with files is to write one, of a given name and with a given
    text. -/
def CreatesFile (plan : Plan) : Prop :=
  ∃ target text verification, plan.filter (·.isOfFile) =
    [.action ⟨.typeText, .file, some target, some text, verification⟩]

theorem CreatesFile.countP_isOfFile {plan : Plan} (h : plan.CreatesFile) :
    plan.countP (·.isOfFile) = 1 := by
  rcases h with ⟨_, _, _, hfilter⟩
  rw [List.countP_eq_length_filter, hfilter]
  rfl

/-- In a frugal plan that writes a file nothing else is of a file. -/
theorem createsFile_of_isFileWrite {plan : Plan} (hvalid : plan.IsValid) (hfrugal : plan.IsFrugal)
    {item : Item} (hmem : item ∈ plan) (hwrite : item.isFileWrite = true) :
    plan.CreatesFile := by
  have haction : item.isFileAction = true := Item.isFileAction_of_isFileWrite hwrite
  have hone : plan.countP (·.isFileAction) = 1 := hfrugal.writeAlone item hmem hwrite
  have hnone : plan.countP (·.isFileObservation) = 0 := by
    rw [List.countP_eq_zero]
    intro other hother hlooks
    rw [hfrugal.readOnly other hother hlooks item hmem] at haction
    exact absurd haction nofun
  -- The items of a file are a single one, and the writing is among them.
  have hlength : (plan.filter (·.isOfFile)).length = 1 := by
    rw [← List.countP_eq_length_filter, countP_isOfFile, hone, hnone]
  have hfile : item ∈ plan.filter (·.isOfFile) :=
    List.mem_filter.mpr ⟨hmem, (Bool.and_eq_true_iff.mp haction).2⟩
  rcases List.length_eq_one_iff.mp hlength with ⟨only, honly⟩
  rw [honly, List.mem_singleton] at hfile
  rcases Item.isFileWrite_fields (hvalid item hmem) hwrite with ⟨target, text, verification, hitem⟩
  exact ⟨target, text, verification, by rw [honly, ← hfile, hitem]⟩

/-! ### The plans that pass -/

theorem mem_dropFileLaunches_of_isKind {plan : Plan} {item : Item} (hmem : item ∈ plan)
    (htypes : item.isKind .typeText = true) : item ∈ plan.dropFileLaunches := by
  unfold dropFileLaunches
  split
  · refine List.mem_filter.mpr ⟨hmem, ?_⟩
    rw [Item.isFileLaunch_eq_false_of_isKind htypes]
    rfl
  · exact hmem

/-- A plan without typing has no detour. -/
theorem dropFileLaunches_eq_self {plan : Plan}
    (h : ∀ item ∈ plan, item.isKind .typeText = false) : plan.dropFileLaunches = plan := by
  unfold dropFileLaunches
  refine if_neg (Nat.ne_of_lt ?_)
  have hnone : plan.countP (·.isFileWrite) = 0 := by
    rw [List.countP_eq_zero]
    intro item hmem hwrite
    exact absurd (Item.isFileWrite_iff.mp hwrite).2 (Bool.eq_false_iff.mp (h item hmem))
  omega

/-- With or without its launches a plan writes files the same number of times. -/
theorem countP_isFileWrite_filter (plan : Plan) :
    (plan.filter (!·.isFileLaunch)).countP (·.isFileWrite) = plan.countP (·.isFileWrite) := by
  rw [List.countP_filter]
  refine List.countP_congr fun item _ => ?_
  rw [Bool.and_eq_true_iff]
  constructor
  · exact fun h => h.1
  · intro hwrite
    have htypes := (Item.isFileWrite_iff.mp hwrite).2
    exact ⟨hwrite, by rw [Item.isFileLaunch_eq_false_of_isKind htypes]; rfl⟩

theorem CreatesFile.countP_isFileWrite {plan : Plan} (h : plan.CreatesFile) :
    plan.countP (·.isFileWrite) = 1 := by
  rcases h with ⟨target, text, verification, hfilter⟩
  -- What writes a file is of a file, so the count may be taken there.
  have hcount : plan.countP (·.isFileWrite) = (plan.filter (·.isOfFile)).countP (·.isFileWrite) := by
    rw [List.countP_filter]
    refine List.countP_congr fun item _ => ?_
    rw [Bool.and_eq_true_iff]
    exact ⟨fun hwrite => ⟨hwrite, (Bool.and_eq_true_iff.mp hwrite).2⟩, fun h => h.1⟩
  rw [hcount, hfilter]
  rfl

/-- Once its launches are out, a plan that creates a file had nothing else in the way. -/
theorem dropFileLaunches_eq_filter {plan : Plan} (h : plan.dropFileLaunches.CreatesFile) :
    plan.dropFileLaunches = plan.filter (!·.isFileLaunch) := by
  have hwrites := h.countP_isFileWrite
  unfold dropFileLaunches at hwrites ⊢
  split
  · rfl
  · next hseveral =>
    rw [if_neg hseveral] at hwrites
    exact absurd hwrites hseveral

/-- Where creating a file is asked for, and not reading one, a plan that types passes if it
    is not too long, acts on files only, and is left with nothing else of files than writing
    one once its launches are out. -/
theorem validate_eq_ok_iff_of_types {plan out : Plan} {instruction : String} {max : Nat}
    (hvalid : plan.IsValid) (hcreate : Instruction.wantsFileCreated instruction = true)
    (hread : Instruction.wantsFileRead instruction = false)
    (htypes : ∃ item ∈ plan, item.isKind .typeText = true) :
    plan.validate instruction max = .ok out ↔
      plan.length ≤ max ∧ (∀ item ∈ plan, item.isAction = true → item.context = .file) ∧
        out = plan.filter (!·.isFileLaunch) ∧ out.CreatesFile := by
  rw [validate_eq_ok_iff, checkWording_eq_ok_iff]
  constructor
  · rintro ⟨rfl, -, hcount, ⟨hfile, -⟩, -, hfrugal⟩
    rcases htypes with ⟨item, hmem, htyping⟩
    have hwrite : item.isFileWrite = true := Bool.and_eq_true_iff.mpr
      ⟨htyping, beq_iff_eq.mpr (hfile hcreate item hmem (Item.isAction_of_isKind htyping))⟩
    have hcreates : plan.dropFileLaunches.CreatesFile := createsFile_of_isFileWrite
      (fun other hother => hvalid other ((dropFileLaunches_sublist plan).subset hother)) hfrugal
      (mem_dropFileLaunches_of_isKind hmem htyping) hwrite
    exact ⟨hcount, hfile hcreate, dropFileLaunches_eq_filter hcreates, hcreates⟩
  · rintro ⟨hcount, hfile, hout, hcreates⟩
    have hdrop : out = plan.dropFileLaunches := by
      have hwrites := hcreates.countP_isFileWrite
      rw [hout, countP_isFileWrite_filter] at hwrites
      rw [hout, dropFileLaunches, if_pos hwrites]
    have hone : out.countP (·.isOfFile) = 1 := hcreates.countP_isOfFile
    have hempty : out ≠ [] := fun hnil => by
      rw [hnil] at hone
      exact absurd hone nofun
    refine ⟨hdrop, ?_, hcount, ⟨fun _ => hfile, ?_⟩, ?_, isFrugal_of_countP_le_one (Nat.le_of_eq hone)⟩
    · rintro rfl
      exact hempty hout
    · rw [hread]
      exact nofun
    · refine checkRepetition_of_length_le hempty (Nat.le_trans (m := 1) ?_ (by decide))
      -- Every action left is of a file, and so is one of the items that were counted.
      rw [← hone, actions, List.length_filterMap_eq_countP]
      refine List.countP_mono_left fun item hmem haction => ?_
      rw [hout] at hmem
      exact beq_iff_eq.mpr (hfile item (List.mem_filter.mp hmem).1 haction)

/-- What passes under the wording of creating a file has nothing else of files than writing
    one, if the plan types at all. A plan that does not type passes as it is: its actions
    launch files or click in them, and there are none if it looks at a file. -/
theorem creation_of_validate {plan out : Plan} {instruction : String} {max : Nat}
    (hvalid : plan.IsValid) (hcreate : Instruction.wantsFileCreated instruction = true)
    (hread : Instruction.wantsFileRead instruction = false)
    (h : plan.validate instruction max = .ok out) :
    ((∃ item ∈ plan, item.isKind .typeText = true) ∧ out.CreatesFile) ∨
      ((∀ item ∈ plan, item.isKind .typeText = false) ∧ out = plan ∧
        (∀ action, .action action ∈ out → action.context = .file ∧
          (action.kind = .launchApp ∨ action.kind = .clickControl)) ∧
        ((∃ item ∈ out, item.isFileObservation = true) →
          ∀ item ∈ out, item.isAction = false)) := by
  by_cases htypes : ∃ item ∈ plan, item.isKind .typeText = true
  · -- With a write in the plan, it passes only if that is all it does with files.
    exact .inl ⟨htypes, ((validate_eq_ok_iff_of_types hvalid hcreate hread htypes).mp h).2.2.2⟩
  · simp only [not_exists, not_and, Bool.not_eq_true] at htypes
    rcases validate_eq_ok_iff.mp h with ⟨hout, _, _, hwording, _, hfrugal⟩
    rw [dropFileLaunches_eq_self htypes] at hout
    subst hout
    have hfile := (checkWording_eq_ok_iff.mp hwording).1 hcreate
    refine .inr ⟨htypes, rfl, ?_, ?_⟩
    · -- Actions are in files, and the kinds that files allow are these two if nothing is typed.
      intro action hmem
      have hcontext : action.context = .file := hfile _ hmem rfl
      refine ⟨hcontext, ?_⟩
      rcases Action.kind_of_isValid (hvalid _ hmem) hcontext with hkind | hkind | hkind
      · exact .inl hkind
      · exact absurd (Item.isKind_iff.mpr ⟨action, rfl, hkind⟩)
          (Bool.eq_false_iff.mp (htypes _ hmem))
      · exact .inr hkind
    · -- An action would be of a file, and a frugal plan that looks at files has none there.
      rintro ⟨item, hmem, hlooks⟩ other hother
      refine Bool.eq_false_iff.mpr fun haction => ?_
      have hidle := hfrugal.readOnly item hmem hlooks other hother
      unfold Item.isFileAction at hidle
      rw [haction, hfile other hother haction] at hidle
      exact absurd hidle nofun

/-- A launch in front of the writing is taken out, and the look at the desktop stays. -/
theorem creation_of_validate_detour :
    let instruction := "create file notes.txt with text hello"
    let write : Item := .action ⟨.typeText, .file, some "notes.txt", some "hello", none⟩
    let look : Item := .observation ⟨.queryElement, .desktop, "hello"⟩
    let plan : Plan :=
      [.action ⟨.launchApp, .file, some "notes.txt", none, none⟩, write, look]
    plan.IsValid ∧ Instruction.wantsFileCreated instruction = true ∧
      Instruction.wantsFileRead instruction = false ∧
      plan.validate instruction 15 = .ok [write, look] ∧ CreatesFile [write, look] := by
  intro instruction write look plan
  have hvalid : plan.IsValid := by
    intro item hmem
    simp only [plan, List.mem_cons, List.not_mem_nil, or_false] at hmem
    rcases hmem with rfl | rfl | rfl
    · exact ⟨rfl, by decide +kernel, rfl⟩
    · exact ⟨rfl, by decide +kernel, by decide +kernel⟩
    · exact (by decide +kernel : nonBlank (some "hello") = some "hello")
  have hcreate : Instruction.wantsFileCreated instruction = true := by decide +kernel
  have hread : Instruction.wantsFileRead instruction = false := by decide +kernel
  have hout : plan.validate instruction 15 = .ok [write, look] := by decide +kernel
  -- The plan types, so the second case is out.
  rcases creation_of_validate hvalid hcreate hread hout with ⟨_, hcreates⟩ | ⟨hidle, _⟩
  · exact ⟨hvalid, hcreate, hread, hout, hcreates⟩
  · exact absurd (hidle write (by decide)) nofun

/-- Asked to create a file, a plan that launches it passes, and so does one that looks at
    it. Neither creates a file. -/
theorem validate_without_creation :
    let instruction := "create file a.txt"
    let launch : Plan := [.action ⟨.launchApp, .file, some "a.txt", none, none⟩]
    let look : Plan := [.observation ⟨.readText, .file, "a.txt"⟩]
    Instruction.wantsFileCreated instruction = true ∧
      Instruction.wantsFileRead instruction = false ∧
      (launch.IsValid ∧ launch.validate instruction 15 = .ok launch ∧ ¬ launch.CreatesFile) ∧
      (look.IsValid ∧ look.validate instruction 15 = .ok look ∧ ¬ look.CreatesFile) := by
  intro instruction launch look
  have hname : nonBlank (some "a.txt") = some "a.txt" := by decide +kernel
  refine ⟨by decide +kernel, by decide +kernel, ⟨?_, by decide +kernel, ?_⟩,
    ⟨?_, by decide +kernel, ?_⟩⟩
  · -- The launch is valid, and it passes as it is.
    intro item hmem
    rw [List.mem_singleton.mp hmem]
    exact ⟨rfl, hname, rfl⟩
  · rintro ⟨target, text, verification, hfilter⟩
    exact absurd hfilter nofun
  · -- So is the look, which is of a file and acts on none.
    intro item hmem
    rw [List.mem_singleton.mp hmem]
    exact hname
  · rintro ⟨target, text, verification, hfilter⟩
    exact absurd hfilter nofun

end Plan

end ActionPlan
