import ActionPlan.Item.Printer
import ActionPlan.Proofs.Planner.Outcome

/-!
# Safe Plans

What an executor may assume of a plan without looking at where it comes from: it is not too
long, its items keep the rules for their fields, and apps are closed by name and at the end.

None of the three is established in one place. The length is checked last by both makers of
generated plans, because completing a save makes a plan longer. Fields are checked when an
item is built, and no pass breaks them. Closes are put in order by repair alone, which the
phrasebook's plans and the direct ones never see; those close nothing, or nothing else.

A direct plan is not counted at all. It has one item, and so it is short enough for every
planner that allows an item.

## Main definitions

* `Plan.IsSafe`: A plan that is short, valid and orderly.

## Theorems

* `generated_isSafe`: A generated plan is safe.
* `createPlan_isSafe`: The plan of an instruction is safe.
-/

namespace ActionPlan

/-- A plan of at most so many items, all valid, with its closes named and at the end. -/
structure Plan.IsSafe (plan : Plan) (maxItems : Nat) : Prop where
  short : plan.length ≤ maxItems
  valid : plan.IsValid
  orderly : plan.IsOrderly

theorem Plan.IsSafe.sublist {plan part : Plan} {maxItems : Nat} (h : plan.IsSafe maxItems)
    (hpart : part.Sublist plan) : part.IsSafe maxItems where
  short := Nat.le_trans hpart.length_le h.short
  valid := fun item hmem => h.valid item (hpart.subset hmem)
  orderly := h.orderly.sublist hpart

namespace Planner

variable {planner : Planner} {instruction : String} {findings : List Finding} {reply : Reply}
  {plan : Plan}

/-- Whoever made a generated plan, it is safe. -/
theorem generated_isSafe (h : planner.generated instruction reply = .ok plan) :
    plan.IsSafe planner.maxItems := by
  have hvalid : plan.IsValid := generated_isValid h
  rcases generated_eq_ok_iff.mp h with ⟨_, hphrase⟩ | ⟨_, proposed, _, hrefine⟩
  · rcases phrasebookPlan_eq_ok_iff.mp hphrase with ⟨phrase, hplan, hout, hshort⟩
    -- The phrasebook's plans are in order, and completing saves puts no close out of place.
    have horderly : (Plan.completeSaves phrase instruction).IsOrderly :=
      Plan.completeSaves_isOrderly (Phrasebook.plan_isPhrase hplan).orderly instruction
    exact ⟨hshort, hvalid, hout ▸ horderly⟩
  · rcases refine_eq_ok_iff.mp hrefine with ⟨repaired, hrepair, hvalidate⟩
    -- Repair puts the closes last, and validation only takes items out.
    have horderly : plan.IsOrderly :=
      (Plan.repair_isOrderly hrepair).sublist (Plan.validate_sublist hvalidate)
    exact ⟨Plan.length_le_of_validate hvalidate, hvalid, horderly⟩

theorem isSafe_nil (maxItems : Nat) : Plan.IsSafe [] maxItems where
  short := Nat.zero_le maxItems
  valid := fun _ hmem => absurd hmem List.not_mem_nil
  orderly := ⟨fun _ hmem => absurd hmem List.not_mem_nil, List.Pairwise.nil⟩

/-- If an item is allowed at all, every plan of an instruction is safe, however the client
    behaves and whichever way the plan was made. -/
theorem createPlan_isSafe {σ : Type} {client : Request → StateM σ Reply} {s : σ}
    (hmax : 1 ≤ planner.maxItems)
    (h : ((planner.createPlan client instruction findings).run s).1 = .ok plan) :
    plan.IsSafe planner.maxItems := by
  cases createPlan_eq_ok_iff.mp h with
  | direct hroute =>
      rcases Instruction.route_direct hroute with ⟨item, rfl, hdirect⟩
      refine ⟨hmax, ?_, Plan.isOrderly_singleton ?_⟩
      · intro other hmem
        rw [List.mem_singleton.mp hmem]
        exact hdirect.valid
      · intro hclose
        rw [hdirect.closesNothing] at hclose
        exact absurd hclose nofun
  | rejected _ => exact isSafe_nil planner.maxItems
  | screened _ _ => exact isSafe_nil planner.maxItems
  | generated _ _ hplan =>
      -- The rule for paths leaves the plan or nothing.
      exact (generated_isSafe hplan).sublist confine_sublist

/-- The model does not say which app is to be closed. -/
theorem createPlan_isSafe_editor :
    let launch : Action := { kind := .launchApp, context := .desktop, target := some "editor" }
    let close : Action := { kind := .closeApp, context := .desktop }
    let answer : Json.Value := .array ([launch, close].map Action.jsonValue)
    let planner : Planner := ⟨{}, true, fun path => .ok (.ofText path)⟩
    let client : Request → StateM Unit Reply := fun _ => return .ok answer.compact
    let plan : Plan := [.action launch, .action { close with target := some "editor" }]
    1 ≤ planner.maxItems ∧
      ((planner.createPlan client "open editor, close it" []).run ()).1 = .ok plan ∧
        plan.IsSafe planner.maxItems := by
  intro launch close answer planner client plan
  have hmax : 1 ≤ planner.maxItems := by decide
  have hplan : ((planner.createPlan client "open editor, close it" []).run ()).1 = .ok plan := by
    decide +kernel
  exact ⟨hmax, hplan, createPlan_isSafe hmax hplan⟩

end Planner

end ActionPlan
