import ActionPlan.Proofs.Plan.Refinement
import ActionPlan.Proofs.Planner.Generated

/-!
# Refined Proposals

A planner with a model refines what the model proposes: it keeps what was asked for, repairs
it, and checks the result. The check may take out a detour, and otherwise leaves the plan as it
is, so `Plan.IsRefined` says what the whole refinement comes to.

Keeping what was asked for comes first, and repair puts in items that were not there to be
looked at. One of them types. It is put in only where the instruction speaks of saving, and that
is one of the words for which typing would have been kept. So a plan could be looked at once
more, and nothing in it would go.

Nothing is assumed about the proposal. It may have items that break the rules for their fields,
repeat themselves, and close apps that were never launched.

## Theorems

* `refine_isRefined`: What becomes of a proposal.
* `refine_isRequested`: What is left was asked for.
-/

namespace ActionPlan

/-- An action that changes something is asked for by a word, or by wanting a file created. -/
theorem Action.isRequested_iff_of_isCausal {action : Action} {instruction : String}
    (h : action.kind.isCausal = true) :
    action.isRequested instruction = true ↔
      (∃ word ∈ action.kind.groundingWords,
        Text.mentions (Instruction.lowered instruction) word = true) ∨
      action.kind = .typeText ∧ action.context = .file ∧
        Instruction.wantsFileCreated instruction = true := by
  unfold isRequested ActionKind.isGrounded Text.mentionsAny
  rw [h, Bool.not_true, Bool.false_or, Bool.or_eq_true, List.any_eq_true, Bool.and_eq_true,
    Bool.and_eq_true, beq_iff_eq, beq_iff_eq, and_assoc]
  exact or_comm

namespace Planner

variable {planner : Planner} {instruction : String} {raw out : Plan}

/-- A plan that comes of a proposal has what was kept of it, each item once and in its order,
    the closes at the end, and what completes the saves. -/
theorem refine_isRefined (h : planner.refine instruction raw = .ok out) :
    out.IsRefined raw instruction := by
  rcases refine_eq_ok_iff.mp h with ⟨repaired, hrepair, hvalidate⟩
  rw [(Plan.validate_eq_ok_iff.mp hvalidate).1]
  exact Plan.isRefined_of_repair hrepair

/-- The close is told what it closes and comes last, and the save is completed. What is to be
    approved about it stays with the shortcut. -/
theorem refine_isRefined_saving :
    let launch : Action := { kind := .launchApp, context := .desktop, target := some "editor" }
    let close : Action := { kind := .closeApp, context := .desktop }
    let save : Action := { Action.keystrokes "^s" with
      verification := some { requiresApproval := true } }
    let raw : Plan := [.action launch, .action close, .action save]
    let planner : Planner := ⟨{}, true, fun path => .ok (.ofText path)⟩
    let out : Plan := [.action launch, .action save, .action (.waitFor "1.0"),
      .action (.keystrokes "notes.txt"), .action (.keystrokes "\x7bENTER\x7d"),
      .action { close with target := some "editor" }]
    planner.refine "open editor, save as notes.txt, close" raw = .ok out ∧
      out.IsRefined raw "open editor, save as notes.txt, close" := by
  intro launch close save raw planner out
  have hout : planner.refine "open editor, save as notes.txt, close" raw = .ok out := by
    decide +kernel
  exact ⟨hout, refine_isRefined hout⟩

/-- Every action in the plan that changes something was asked for, those that repair put in
    included, so that nothing goes if what was asked for is kept once more. -/
theorem refine_isRequested (h : planner.refine instruction raw = .ok out) :
    (∀ action, .action action ∈ out → action.kind.isCausal = true →
      (∃ word ∈ action.kind.groundingWords,
        Text.mentions (Instruction.lowered instruction) word = true) ∨
      action.kind = .typeText ∧ action.context = .file ∧
        Instruction.wantsFileCreated instruction = true) ∧
      out.keepRequested instruction = out := by
  have hrequested : ∀ item ∈ out, item.isRequested instruction = true := fun item hmem => by
    rcases refine_eq_ok_iff.mp h with ⟨repaired, hrepair, hvalidate⟩
    rw [(Plan.validate_eq_ok_iff.mp hvalidate).1] at hmem
    exact (Plan.isRefined_of_repair hrepair).isRequested hmem
  refine ⟨?_, List.filter_eq_self.mpr hrequested⟩
  intro action hmem hcausal
  exact (Action.isRequested_iff_of_isCausal hcausal).mp (hrequested _ hmem)

/-- The close goes, as nobody asked for it; the keystrokes are put in, and stay. -/
theorem refine_isRequested_saving :
    let launch : Action := { kind := .launchApp, context := .desktop, target := some "editor" }
    let close : Action := { kind := .closeApp, context := .desktop }
    let raw : Plan := [.action launch, .action (.keystrokes "^s"), .action close]
    let planner : Planner := ⟨{}, true, fun path => .ok (.ofText path)⟩
    let out : Plan := [.action launch, .action (.keystrokes "^s"), .action (.waitFor "1.0"),
      .action (.keystrokes "untitled.txt"), .action (.keystrokes "\x7bENTER\x7d")]
    planner.refine "open editor and save" raw = .ok out ∧
      ((∀ action, .action action ∈ out → action.kind.isCausal = true →
        (∃ word ∈ action.kind.groundingWords,
          Text.mentions (Instruction.lowered "open editor and save") word = true) ∨
        action.kind = .typeText ∧ action.context = .file ∧
          Instruction.wantsFileCreated "open editor and save" = true) ∧
        out.keepRequested "open editor and save" = out) := by
  intro launch close raw planner out
  have hout : planner.refine "open editor and save" raw = .ok out := by decide +kernel
  exact ⟨hout, refine_isRequested hout⟩

end Planner

end ActionPlan
