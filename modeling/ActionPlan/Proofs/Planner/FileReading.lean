import ActionPlan.Proofs.Instruction.Reading
import ActionPlan.Proofs.Planner.Outcome

/-!
# Plans that Read a File

An instruction that speaks of reading a file should end in a look at a file and in no action.
A proposal of the model is held against that wording, and the plans of the route and of the
phrasebook are not. Whether these keep to it depends on how they came about.

Mostly they do. The route notices the wording, and a file that is named is looked at
(`not_actsInstead_of_readTarget?`). To name none takes quotation marks with nothing between
them, or blanks, and then there are two ways around. The route goes on to the phrases of
verifying, where it may launch an app. And the phrasebook reads only where the wording is one
that it knows, so from others it may pick a phrase that has nothing to do with the file.
`Planner.ActsInstead` has the two ways, and `createPlan_readsFile_iff` says that there is no
other.

## Main definitions

* `Planner.ActsInstead`: The ways around a look at the file.

## Theorems

* `completeSaves_of_idle`: There are no saves where nothing is done.
* `refine_readsFile`: A proposal that passes keeps to the wording.
* `not_actsInstead_of_readTarget?`: A file that is named is looked at.
* `yields_cases_of_reading`: Without a way around the plan reads a file, and otherwise it acts.
* `createPlan_readsFile_iff`: When the plan of an instruction to read a file does so.
* `createPlan_acts_instead`: One instruction for each way around.
-/

namespace ActionPlan

namespace Plan

/-- Where nothing is done, nothing is saved. -/
theorem completeSaves_of_idle {plan : Plan} (h : ∀ item ∈ plan, item.isAction = false)
    (instruction : String) : plan.completeSaves instruction = plan := by
  unfold completeSaves
  -- A shortcut is an action, and an observation presses no keys.
  have hnone : plan.any (·.isSaveShortcut) = false := by
    rw [List.any_eq_false]
    intro item hmem hshortcut
    rcases item with a | o
    · exact absurd (h _ hmem) nofun
    · exact absurd hshortcut nofun
  rw [hnone]
  rfl

/-- Whatever completes a save is an action. -/
theorem completeSaves_isAction {plan : Plan} (h : ∀ item ∈ plan, item.isAction = true)
    (instruction : String) : ∀ item ∈ plan.completeSaves instruction, item.isAction = true := by
  intro item hmem
  rcases mem_completeSaves hmem with hplan | hcompletion
  · exact h item hplan
  · rcases cases_of_mem_saveCompletion hcompletion with ⟨_, rfl⟩ | ⟨_, rfl⟩
    · rfl
    · rfl

end Plan

namespace Planner

variable {planner : Planner} {instruction : String} {findings : List Finding} {reply : Reply}
  {plan : Plan}

/-- What is left behind the rule for paths is all of the plan, if it is anything. -/
theorem confine_eq_self (h : planner.confine plan ≠ []) : planner.confine plan = plan := by
  unfold confine at h ⊢
  split
  · rfl
  · next hrejected =>
    rw [if_neg hrejected] at h
    exact absurd rfl h

/-- A proposal that passes under the wording of reading looks at a file and does not act.
    There is no detour to take out of it. -/
theorem refine_readsFile {proposed : Plan} (hread : Instruction.wantsFileRead instruction = true)
    (h : planner.refine instruction proposed = .ok plan) : plan.ReadsFile := by
  rcases refine_eq_ok_iff.mp h with ⟨repaired, _, hvalidate⟩
  rcases Plan.validate_eq_ok_iff.mp hvalidate with ⟨hplan, _, _, hwording, _, _⟩
  have hreads : repaired.ReadsFile := (Plan.checkWording_eq_ok_iff.mp hwording).2 hread
  -- Only a plan that types has a detour, and this one does not act.
  rw [Plan.dropFileLaunches_eq_self] at hplan
  · rw [hplan]
    exact hreads
  · intro item hmem
    refine Bool.eq_false_iff.mpr fun htypes => ?_
    exact hreads.not_isAction hmem (Item.isAction_of_isKind htypes)

/-- The ways around a look at the file, if the model replies in this way. -/
inductive ActsInstead (planner : Planner) (instruction : String) (reply : Reply) : Prop
  /-- No file is named, and the route answers a phrase of verifying. -/
  | verifies {action : Action} (htarget : Instruction.readTarget? instruction = none)
      (hphrase : Text.mentionsAny (Text.lowerAscii (Text.trim instruction.toList))
        Instruction.verifyPhrases = true)
      (hverify : Instruction.verification? instruction = some action)
  /-- The phrasebook is asked, and the wording is not one that it knows for reading. -/
  | improvises (hroute : Instruction.route planner.rule instruction = .generate)
      (hmaker : planner.PhrasebookDecides reply)
      (hphrase : Text.mentionsAny (Text.lowerAscii (Text.trim instruction.toList))
        Phrasebook.readingPhrases = false)

/-- A planner whose model proposed a plan has no use for the phrasebook. -/
theorem not_phrasebookDecides {proposed : Plan} (hmodel : planner.usesModel = true)
    (hproposed : planner.proposed reply = .ok proposed) : ¬ planner.PhrasebookDecides reply := by
  intro hdecides
  cases hdecides with
  | noModel hnone => exact absurd (hmodel.symm.trans hnone) nofun
  | standsIn _ herror _ _ => exact absurd (hproposed.symm.trans herror) nofun

/-- A plan that a generator made is improvised, or there was no way around. -/
theorem actsInstead_iff_of_generate
    (hroute : Instruction.route planner.rule instruction = .generate) :
    planner.ActsInstead instruction reply ↔ planner.PhrasebookDecides reply ∧
      Text.mentionsAny (Text.lowerAscii (Text.trim instruction.toList))
        Phrasebook.readingPhrases = false := by
  constructor
  · intro h
    cases h with
    | verifies htarget hphrase hverify =>
        exact absurd hroute
          (Instruction.route_ne_generate_of_verification? htarget hphrase hverify)
    | improvises _ hmaker hphrase => exact ⟨hmaker, hphrase⟩
  · exact fun ⟨hmaker, hphrase⟩ => .improvises hroute hmaker hphrase

/-- Where a file is named, in more than blanks, there is no way around looking at it. -/
theorem not_actsInstead_of_readTarget? {target : String}
    (hread : Instruction.wantsFileRead instruction = true)
    (htarget : Instruction.readTarget? instruction = some target)
    (hname : nonBlank (some target) = some target) :
    ¬ planner.ActsInstead instruction reply := by
  intro h
  cases h with
  -- No file would be named.
  | verifies hnone _ _ => exact absurd (htarget.symm.trans hnone) nofun
  | improvises hroute _ _ =>
      unfold Instruction.route at hroute
      simp only at hroute
      split at hroute
      · exact absurd hroute nofun
      · -- The route goes to the named file, so it does not get to a generator.
        rw [if_pos (Instruction.mentionsAny_readPhrases hread), htarget] at hroute
        change Instruction.routeRead planner.rule target = .generate at hroute
        unfold Instruction.routeRead Observation.readFile Observation.make at hroute
        rw [hname] at hroute
        simp only at hroute
        split at hroute
        · exact absurd hroute nofun
        · exact absurd hroute nofun

/-- Without a way around, a plan under the wording of reading reads a file. Otherwise all of it
    is actions. -/
theorem yields_cases_of_reading (hread : Instruction.wantsFileRead instruction = true)
    (h : planner.Yields instruction reply plan) (hne : plan ≠ []) :
    (¬ planner.ActsInstead instruction reply ∧ plan.ReadsFile) ∨
      (planner.ActsInstead instruction reply ∧ ∀ item ∈ plan, item.isAction = true) := by
  cases h with
  | direct hroute =>
      -- The route has found the file, or something to be verified while no file is named.
      rcases Instruction.route_direct_of_reading (Instruction.mentionsAny_readPhrases hread) hroute
        with ⟨target, htarget, hreads⟩ | ⟨htarget, hphrase, action, hverify, rfl⟩
      · refine .inl ⟨fun hacts => ?_, hreads⟩
        cases hacts with
        | verifies hnone _ _ => exact absurd (htarget.symm.trans hnone) nofun
        | improvises hgenerate _ _ => exact absurd (hroute.symm.trans hgenerate) nofun
      · exact .inr ⟨.verifies htarget hphrase hverify,
          fun item hmem => Item.isAction_of_mem_singleton hmem⟩
  | rejected _ => exact absurd rfl hne
  | screened _ _ => exact absurd rfl hne
  | generated hroute _ hplan =>
      -- Confining has left something, so it has left everything.
      rw [confine_eq_self hne, actsInstead_iff_of_generate hroute]
      rcases generated_eq_ok_iff.mp hplan with ⟨hdecides, hphrase⟩ |
        ⟨hmodel, proposed, hproposed, hrefine⟩
      · rcases phrasebookPlan_eq_ok_iff.mp hphrase with ⟨phrase, hbook, rfl, _⟩
        -- The phrasebook knows the file, and then it only looks, or else it only acts.
        rcases Phrasebook.plan_of_reading hbook with ⟨hknown, hreads⟩ | ⟨hunknown, hacts⟩
        · refine .inl ⟨fun h => absurd (hknown.symm.trans h.2) nofun, ?_⟩
          rw [Plan.completeSaves_of_idle hreads.idle]
          exact hreads
        · exact .inr ⟨⟨hdecides, hunknown⟩, Plan.completeSaves_isAction hacts instruction⟩
      · -- A proposal has passed the check of the wording.
        exact .inl ⟨fun h => not_phrasebookDecides hmodel hproposed h.1,
          refine_readsFile hread hrefine⟩

/-- An instruction that speaks of reading a file, and is not refused, gets a plan that looks at
    a file and does not act, unless there is a way around; then it gets nothing but actions. -/
theorem createPlan_readsFile_iff {σ : Type} {client : Request → StateM σ Reply} {s : σ}
    (hread : Instruction.wantsFileRead instruction = true)
    (h : ((planner.createPlan client instruction findings).run s).1 = .ok plan) (hne : plan ≠ []) :
    (plan.ReadsFile ↔
        ¬ planner.ActsInstead instruction (planner.replyIn client s instruction findings)) ∧
      (planner.ActsInstead instruction (planner.replyIn client s instruction findings) ↔
        ∀ item ∈ plan, item.isAction = true) := by
  rcases yields_cases_of_reading hread (createPlan_eq_ok_iff.mp h) hne with
    ⟨hnot, hreads⟩ | ⟨hacts, hactions⟩
  · exact ⟨iff_of_true hreads hnot, iff_of_false hnot hreads.not_all_isAction⟩
  · have hidle : ¬ plan.ReadsFile := fun hreads => hreads.not_all_isAction hactions
    exact ⟨iff_of_false hidle (not_not_intro hacts), iff_of_true hacts hactions⟩

/-- The file that is named is looked at, so there is no way around. -/
theorem createPlan_readsFile_iff_notes :
    let planner : Planner := ⟨{}, false, fun path => .ok (.ofText path)⟩
    let client : Request → StateM Unit Reply := fun _ => return .error .timeout
    let plan : Plan := [.observation ⟨.readText, .file, "notes.txt"⟩]
    let instruction := "read text from notes.txt"
    Instruction.wantsFileRead instruction = true ∧
      ((planner.createPlan client instruction []).run ()).1 = .ok plan ∧ plan ≠ [] ∧
      ¬ planner.ActsInstead instruction (planner.replyIn client () instruction []) := by
  intro planner client plan instruction
  have hread : Instruction.wantsFileRead instruction = true := by decide +kernel
  have hplan : ((planner.createPlan client instruction []).run ()).1 = .ok plan := by
    decide +kernel
  have hlook : Observation.readFile "notes.txt" = .ok ⟨.readText, .file, "notes.txt"⟩ := rfl
  have hreads : plan.ReadsFile := Plan.readsFile_of_readFile hlook
  exact ⟨hread, hplan, nofun, (createPlan_readsFile_iff hread hplan nofun).1.mp hreads⟩

/-- With nothing between the quotation marks, a launch is verified that nobody asked for, and
    one is picked from the phrasebook that has nothing to do with the file. -/
theorem createPlan_acts_instead :
    let planner : Planner := ⟨{}, false, fun path => .ok (.ofText path)⟩
    let client : Request → StateM Unit Reply := fun _ => return .error .timeout
    let launch : Action := { kind := .launchApp, context := .desktop, target := some "notepad.exe" }
    let verified : Action :=
      { launch with verification := some (.textVisible "read file \"\"") }
    (Instruction.wantsFileRead "verify read file \"\"" = true ∧
      ((planner.createPlan client "verify read file \"\"" []).run ()).1 =
        .ok [.action verified] ∧ ¬ Plan.ReadsFile [.action verified]) ∧
    (Instruction.wantsFileRead "open notepad and read text from \"\"" = true ∧
      ((planner.createPlan client "open notepad and read text from \"\"" []).run ()).1 =
        .ok [.action launch] ∧ ¬ Plan.ReadsFile [.action launch]) := by
  intro planner client launch verified
  refine ⟨⟨by decide +kernel, by decide +kernel, fun hreads => ?_⟩,
    by decide +kernel, by decide +kernel, fun hreads => ?_⟩
  · exact absurd (hreads.idle _ List.mem_cons_self) nofun
  · exact absurd (hreads.idle _ List.mem_cons_self) nofun

end Planner

end ActionPlan
