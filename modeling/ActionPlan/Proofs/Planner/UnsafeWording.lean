import ActionPlan.Proofs.Instruction.Keywords
import ActionPlan.Proofs.Planner.Graphs
import ActionPlan.Proofs.Planner.Requests

/-!
# Unsafe Wording

The wording that is never compiled is looked for in the last step before a generator. So it
never reaches one, and the model never hears of it; and since no separator can fall into it,
splitting an instruction does not get it past the screening in two halves.

What the screening does not see is what the route has answered before. A file may be called
*registry*, and reading it is a look at one file that the rule accepts, or a refusal. It is not
held back for its name. `createPlan_of_isUnsafe` says that this is all there is to a plan for
such an instruction, and that the graphs of one hold such answers wherever a task has the
wording, and `createPlan_unsafe_answered` that an answer does occur.

## Theorems

* `asks_of_isUnsafe`: The model is not asked.
* `route_of_isUnsafe`: A plan is an answer of the route.
* `createPlan_of_isUnsafe`: What becomes of unsafe wording.
* `createPlan_unsafe_answered`: Plans with unsafe wording.
-/

namespace ActionPlan

namespace Planner

variable {σ : Type} {planner : Planner} {client : Request → StateM σ Reply} {s : σ}
  {instruction : String} {findings : List Finding} {plan : Plan}

/-- The model is not asked about an instruction with unsafe wording. -/
theorem asks_of_isUnsafe (hwording : Instruction.isUnsafe instruction = true) :
    planner.asks instruction = false := by
  rw [← Bool.not_eq_true, asks_eq_true_iff]
  rintro ⟨_, _, hscreen⟩
  exact Instruction.screen_ne_generate hwording hscreen

/-- A plan for an instruction with unsafe wording is an answer of the route. -/
theorem route_of_isUnsafe (hwording : Instruction.isUnsafe instruction = true)
    (h : ((planner.createPlan client instruction findings).run s).1 = .ok plan)
    (hne : plan ≠ []) : Instruction.route planner.rule instruction = .direct plan := by
  cases createPlan_eq_ok_iff.mp h with
  | direct hroute => exact hroute
  | rejected _ => exact absurd rfl hne
  | screened _ _ => exact absurd rfl hne
  | generated _ hscreen _ => exact absurd hscreen (Instruction.screen_ne_generate hwording)

/-- Unsafe wording is never compiled: the model is not asked, and a plan that is not empty is the
    route's answer to a phrase of reading or verifying. Where an instruction has graphs, one of
    its tasks has the wording, and each that has it was answered by the route. -/
theorem createPlan_of_isUnsafe (planner : Planner) (client : Request → StateM σ Reply) (s : σ)
    (instruction : String) (findings : List Finding)
    (hwording : Instruction.isUnsafe instruction = true) :
    ((planner.createPlan client instruction findings).run s).2 = s ∧
    (∀ plan, ((planner.createPlan client instruction findings).run s).1 = .ok plan → plan ≠ [] →
      Instruction.route planner.rule instruction = .direct plan ∧
        Instruction.IsAnswer planner.rule instruction plan) ∧
    ∀ graphs, ((planner.createGraphs client instruction findings).run s).1 = .ok graphs →
      graphs ≠ [] → ∃ tasks, Instruction.subtasks planner.limits instruction = .ok tasks ∧
        (∃ task ∈ tasks, Instruction.isUnsafe task = true) ∧
        ∀ task ∈ tasks, Instruction.isUnsafe task = true →
          ∃ plan, Instruction.route planner.rule task = .direct plan ∧
            Instruction.IsAnswer planner.rule task plan := by
  refine ⟨run_createPlan_of_not_asks (asks_of_isUnsafe hwording), fun plan hplan hne => ?_,
    fun graphs hgraphs hne => ?_⟩
  · have hroute := route_of_isUnsafe hwording hplan hne
    exact ⟨hroute, Instruction.isAnswer_of_route_direct hroute⟩
  · unfold createGraphs at hgraphs
    split at hgraphs
    · exact absurd hgraphs nofun
    · next tasks htasks =>
      refine ⟨tasks, htasks, Instruction.exists_isUnsafe hwording htasks, fun task htask hbad => ?_⟩
      -- The task was planned in some state of the client, but the route knows of none.
      rcases exists_plan_of_graphsOfTasks hgraphs hne htask with ⟨s', plan, hplan, hrun⟩
      have hroute := route_of_isUnsafe hbad hrun hplan
      exact ⟨plan, hroute, Instruction.isAnswer_of_route_direct hroute⟩

/-- Three tasks, two of which have unsafe wording and are answered by the route. -/
theorem createPlan_of_isUnsafe_tasks :
    let planner : Planner :=
      ⟨{ planner := { maxActions := 1 } }, false, fun path => .ok (.ofText path)⟩
    let client : Request → StateM Unit Reply := fun _ => return .error .timeout
    let instruction := "open notepad; verify registry; read file regedit"
    Instruction.isUnsafe instruction = true ∧
      Instruction.subtasks planner.limits instruction =
        .ok ["open notepad", "verify registry", "read file regedit"] ∧
      (∃ graphs, ((planner.createGraphs client instruction []).run ()).1 = .ok graphs ∧
        graphs.length = 3) ∧
      ∃ plan, Instruction.route planner.rule "verify registry" = .direct plan := by
  intro planner client instruction
  have hwording : Instruction.isUnsafe instruction = true := by decide +kernel
  have htasks : Instruction.subtasks planner.limits instruction =
      .ok ["open notepad", "verify registry", "read file regedit"] := by decide +kernel
  have hmap : ((planner.createGraphs client instruction []).run ()).1.map List.length = .ok 3 := by
    decide +kernel
  rcases map_eq_ok_iff.mp hmap with ⟨graphs, hgraphs, hlength⟩
  -- There are three graphs, so they are not the empty answer.
  have hne : graphs ≠ [] := by
    rintro rfl
    exact absurd hlength nofun
  have hgraph := (createPlan_of_isUnsafe planner client () instruction [] hwording).2.2
  rcases hgraph graphs hgraphs hne with ⟨tasks, htasks', _, hroutes⟩
  -- Splitting is a function, so the tasks are the three from above.
  have hmem : "verify registry" ∈ tasks := by
    rw [← Except.ok.inj (htasks.symm.trans htasks')]
    decide
  rcases hroutes "verify registry" hmem (by decide +kernel) with ⟨plan, hplan, _⟩
  exact ⟨hwording, htasks, ⟨graphs, hgraphs, hlength⟩, plan, hplan⟩

/-- Reading a file that is named like unsafe wording is planned, and so is verifying such a
    text. -/
theorem createPlan_unsafe_answered :
    let planner : Planner := ⟨{}, false, fun path => .ok (.ofText path)⟩
    let client : Request → StateM Unit Reply := fun _ => return .error .timeout
    ∀ instruction ∈ ["read file registry", "verify registry"],
      Instruction.isUnsafe instruction = true ∧
      (∃ plan, ((planner.createPlan client instruction []).run ()).1 = .ok plan ∧ plan ≠ []) ∧
      ∃ graphs, ((planner.createGraphs client instruction []).run ()).1 = .ok graphs ∧
        graphs ≠ [] := by
  intro planner client instruction hmem
  rcases List.mem_cons.mp hmem with rfl | hmem
  · exact ⟨by decide +kernel, ⟨_, rfl, nofun⟩, ⟨_, rfl, nofun⟩⟩
  · rw [List.mem_singleton.mp hmem]
    exact ⟨by decide +kernel, ⟨_, rfl, nofun⟩, ⟨_, rfl, nofun⟩⟩

end Planner

end ActionPlan
