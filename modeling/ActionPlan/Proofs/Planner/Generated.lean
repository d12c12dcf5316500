import ActionPlan.Planner
import ActionPlan.Proofs.Instruction.Phrasebook

/-!
# Generated Plans

A generated plan has one of two makers. The model's proposal is reduced, repaired and checked;
the plan of the phrasebook gets its saves completed and is only counted. `generated_eq_ok_iff`
separates the two, and each of the properties below is proved for either maker on its own.

Both makers plan valid items, and both plans are frugal with files, though for different
reasons: one plan was checked for it, the other is too short to be anything else.

The makers differ in one respect. The checks on a proposal refuse an empty plan, twice in
fact, while nothing behind the phrasebook asks whether completing the saves left an item. So
only the phrasebook can plan nothing, and `generated_eq_nil_iff` says when it does.

## Main definitions

* `Planner.generated`: What a generator makes of an instruction.
* `Planner.PhrasebookDecides`: The phrasebook is the maker.

## Theorems

* `Answer.plan_isValid`: The items in an answer are valid.
* `phrasebookPlan_eq_ok_iff`, `refine_eq_ok_iff`: The two makers, step by step.
* `generated_of_phrasebookDecides`, `generated_of_proposed`, `generated_eq_ok_iff`: A
  generated plan by its maker.
* `generated_isValid`, `generated_isFrugal`: What both makers promise.
* `generated_eq_nil_iff`: When a generator plans nothing.
-/

namespace ActionPlan

/-! ### The items in an answer -/

namespace Answer

theorem items_isValid {position : Nat} {values : List Json.Value} {plan : Plan}
    (h : items position values = .ok plan) : plan.IsValid := by
  induction values generalizing position plan with
  | nil =>
      rw [← Except.ok.inj h]
      exact fun item hmem => absurd hmem List.not_mem_nil
  | cons v vs ih =>
      unfold items at h
      split at h
      · exact absurd h nofun
      · next item hitem =>
        rcases bind_eq_ok_iff.mp h with ⟨rest, hrest, hpure⟩
        rw [← Except.ok.inj hpure]
        intro other hmem
        -- The first item was decoded from its value, and the others come later.
        rcases List.mem_cons.mp hmem with rfl | hmem
        · exact Item.ofValue_isValid hitem
        · exact ih hrest other hmem

theorem plan_isValid {answer : String} {maxItems : Nat} {plan : Plan}
    (h : Answer.plan answer maxItems = .ok plan) : plan.IsValid := by
  unfold Answer.plan at h
  split at h
  · exact absurd h nofun
  · split at h
    · exact absurd h nofun
    · unfold ofArray at h
      split at h
      · exact absurd h nofun
      · split at h
        · exact absurd h nofun
        · -- There was an array, and it was neither empty nor too large.
          exact items_isValid h
    · exact absurd h nofun

end Answer

namespace Planner

variable {planner : Planner} {instruction : String} {reply : Reply} {plan : Plan}

/-! ### The two makers -/

theorem checking_eq_ok_iff {α : Type} {x : Except PlanFault α} {a : α} :
    checking x = .ok a ↔ x = .ok a := by
  cases x with
  | ok b => exact ⟨fun h => congrArg Except.ok (Except.ok.inj h), fun h => Except.ok.inj h ▸ rfl⟩
  | error fault => exact ⟨nofun, nofun⟩

/-- The plan of the phrasebook has its saves completed and is counted. -/
theorem phrasebookPlan_eq_ok_iff :
    planner.phrasebookPlan instruction = .ok plan ↔
      ∃ phrase, Phrasebook.plan instruction = .ok phrase ∧
        plan = Plan.completeSaves phrase instruction ∧ plan.length ≤ planner.maxItems := by
  unfold phrasebookPlan
  -- The phrasebook comes first, and its plan is completed before it is counted.
  rw [bind_eq_ok_iff]
  refine exists_congr fun phrase => and_congr_right fun _ => ?_
  simp only [bind_eq_ok_iff, checking_eq_ok_iff]
  constructor
  · rintro ⟨_, hcount, hpure⟩
    have hplan := Except.ok.inj hpure
    exact ⟨hplan.symm, hplan ▸ Plan.checkCount_eq_ok_iff.mp hcount⟩
  · rintro ⟨rfl, hcount⟩
    exact ⟨(), Plan.checkCount_eq_ok_iff.mpr hcount, rfl⟩

/-- A proposal is reduced, repaired and checked. -/
theorem refine_eq_ok_iff {proposed : Plan} :
    planner.refine instruction proposed = .ok plan ↔
      ∃ repaired, (proposed.keepRequested instruction).repair instruction = .ok repaired ∧
        repaired.validate instruction planner.maxItems = .ok plan := by
  unfold refine
  simp only [bind_eq_ok_iff, checking_eq_ok_iff]

/-- What a generator makes of an instruction, if the model replies in this way. -/
def generated (planner : Planner) (instruction : String) (reply : Reply) :
    Except PlanError Plan :=
  if planner.usesModel then planner.planFromReply instruction reply
  else planner.phrasebookPlan instruction

/-- The phrasebook is the maker: there is no model to ask, or the model fails and the
    configuration lets the phrasebook stand in. -/
inductive PhrasebookDecides (planner : Planner) (reply : Reply) : Prop
  | noModel (hmodel : planner.usesModel = false)
  | standsIn {e : PlanError} (hmodel : planner.usesModel = true)
      (hproposed : planner.proposed reply = .error e) (hfailure : e.isGeneratorFailure = true)
      (hpolicy : planner.config.onFailure = .deterministic)

theorem generated_of_phrasebookDecides (h : planner.PhrasebookDecides reply) :
    planner.generated instruction reply = planner.phrasebookPlan instruction := by
  unfold generated
  cases h with
  -- Nobody else could be asked.
  | noModel hmodel => rw [hmodel]; rfl
  | standsIn hmodel hproposed hfailure hpolicy =>
      -- The model has failed in a way that the policy answers with the phrasebook.
      rw [if_pos hmodel]
      unfold planFromReply
      rw [hproposed]
      simp only
      rw [hfailure, hpolicy]
      rfl

theorem generated_of_proposed {proposed : Plan} (hmodel : planner.usesModel = true)
    (hproposed : planner.proposed reply = .ok proposed) :
    planner.generated instruction reply = planner.refine instruction proposed := by
  unfold generated
  rw [if_pos hmodel]
  unfold planFromReply
  rw [hproposed]

/-- A generated plan is the phrasebook's, or what became of a proposal. -/
theorem generated_eq_ok_iff :
    planner.generated instruction reply = .ok plan ↔
      (planner.PhrasebookDecides reply ∧ planner.phrasebookPlan instruction = .ok plan) ∨
      (planner.usesModel = true ∧ ∃ proposed, planner.proposed reply = .ok proposed ∧
        planner.refine instruction proposed = .ok plan) := by
  constructor
  · intro h
    -- With a model, its reply decides. Without one, there only is the phrasebook.
    by_cases hmodel : planner.usesModel = true
    · rcases hproposed : planner.proposed reply with e | proposed
      · unfold generated planFromReply at h
        rw [if_pos hmodel, hproposed] at h
        simp only at h
        split at h
        · next hfallback =>
          rw [Bool.and_eq_true_iff, beq_iff_eq] at hfallback
          exact .inl ⟨.standsIn hmodel hproposed hfallback.1 hfallback.2, h⟩
        · -- A failure that nothing stands in for is handed on.
          exact absurd h nofun
      · rw [generated_of_proposed hmodel hproposed] at h
        exact .inr ⟨hmodel, proposed, rfl, h⟩
    · have hdecides : planner.PhrasebookDecides reply := .noModel (Bool.not_eq_true _ ▸ hmodel)
      rw [generated_of_phrasebookDecides hdecides] at h
      exact .inl ⟨hdecides, h⟩
  · rintro (⟨hdecides, h⟩ | ⟨hmodel, proposed, hproposed, h⟩)
    · rw [generated_of_phrasebookDecides hdecides]
      exact h
    · rw [generated_of_proposed hmodel hproposed]
      exact h

/-! ### What both makers promise -/

theorem proposed_isValid (h : planner.proposed reply = .ok plan) : plan.IsValid := by
  unfold proposed at h
  split at h
  · exact Answer.plan_isValid h
  · exact absurd h nofun

/-- The items of a generated plan keep the rules for their fields. -/
theorem generated_isValid (h : planner.generated instruction reply = .ok plan) :
    plan.IsValid := by
  rcases generated_eq_ok_iff.mp h with ⟨_, hphrase⟩ | ⟨_, proposed, hproposed, hrefine⟩
  · rcases phrasebookPlan_eq_ok_iff.mp hphrase with ⟨phrase, hplan, rfl, _⟩
    exact Plan.completeSaves_isValid (Phrasebook.plan_isPhrase hplan).valid instruction
  · rcases refine_eq_ok_iff.mp hrefine with ⟨repaired, hrepair, hvalidate⟩
    -- Reducing and checking only take items out, so the repair is what matters.
    have hrequested : (proposed.keepRequested instruction).IsValid := fun item hmem =>
      proposed_isValid hproposed item (List.mem_of_mem_filter hmem)
    exact fun item hmem =>
      Plan.repair_isValid hrequested hrepair item ((Plan.validate_sublist hvalidate).subset hmem)

/-- A generated plan is frugal with files. -/
theorem generated_isFrugal (h : planner.generated instruction reply = .ok plan) :
    plan.IsFrugal := by
  rcases generated_eq_ok_iff.mp h with ⟨_, hphrase⟩ | ⟨_, proposed, _, hrefine⟩
  · rcases phrasebookPlan_eq_ok_iff.mp hphrase with ⟨phrase, hplan, rfl, _⟩
    exact Plan.isFrugal_completeSaves (Phrasebook.plan_isPhrase hplan).oneOfFile instruction
  · rcases refine_eq_ok_iff.mp hrefine with ⟨repaired, _, hvalidate⟩
    exact Plan.isFrugal_of_validate hvalidate

/-! ### Empty plans -/

/-- The phrasebook plans nothing if all that it plans is keystrokes with the save shortcut in
    them, and the instruction does not speak of saving. -/
theorem phrasebookPlan_eq_nil_iff :
    planner.phrasebookPlan instruction = .ok [] ↔
      ∃ phrase, Phrasebook.plan instruction = .ok phrase ∧
        (∀ item ∈ phrase, item.isSaveShortcut = true) ∧
        Text.mentions (Instruction.lowered instruction) "save" = false := by
  rw [phrasebookPlan_eq_ok_iff]
  refine exists_congr fun phrase => and_congr_right fun hphrase => ?_
  have hne : phrase ≠ [] := (Phrasebook.plan_isPhrase hphrase).nonempty
  constructor
  · rintro ⟨hnil, _⟩
    exact (Plan.completeSaves_eq_nil_iff.mp hnil.symm).resolve_left hne
  · intro h
    exact ⟨(Plan.completeSaves_eq_nil_iff.mpr (.inr h)).symm, Nat.zero_le _⟩

/-- A generator plans nothing only if the phrasebook is the maker. -/
theorem generated_eq_nil_iff :
    planner.generated instruction reply = .ok [] ↔
      planner.PhrasebookDecides reply ∧ planner.phrasebookPlan instruction = .ok [] := by
  rw [generated_eq_ok_iff]
  constructor
  · rintro (h | ⟨_, proposed, _, hrefine⟩)
    · exact h
    · -- What passed the checks has items.
      rcases refine_eq_ok_iff.mp hrefine with ⟨repaired, _, hvalidate⟩
      exact absurd rfl (Plan.ne_nil_of_validate hvalidate)
  · exact .inl

end Planner

end ActionPlan
