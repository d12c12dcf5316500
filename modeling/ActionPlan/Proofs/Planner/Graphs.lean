import ActionPlan.Proofs.Graph.Executable
import ActionPlan.Proofs.Planner.Outcome

/-!
# Graphs of an Instruction

The graphs of an instruction are collected task by task, and a client whose state changes may
treat each task differently. So nothing is said about the work as a whole that is not said
about each task: a graph in the result was there before, or it was cut from a plan that one of
the tasks got, in whatever state the client was by then (`mem_graphsOfTasks`).

What the executor relies on follows at once. Every plan with a way to it is frugal, whichever
way that is, and the graphs of a frugal plan are executable.

## Theorems

* `run_graphsOfTasks_cons`: One task more.
* `mem_graphsOfTasks`: Where the graphs of a list of tasks come from.
* `exists_plan_of_graphsOfTasks`: No task goes without a plan where there are graphs.
* `mem_createGraphs`: Where the graphs of an instruction come from.
* `createGraphs_isExecutable`: The graphs of an instruction are executable.
-/

namespace ActionPlan

namespace Planner

variable {σ : Type} {planner : Planner} {client : Request → StateM σ Reply} {s : σ}
  {findings : List Finding} {graphs : List Graph}

/-- One task more: its plan is not empty, and its graphs are those behind which the work goes
    on in the state that the client is left in. Otherwise the work is over. -/
theorem run_graphsOfTasks_cons {task : String} {tasks : List String} {done : List Graph}
    {total index : Nat}
    (h : ((planner.graphsOfTasks client findings total index done (task :: tasks)).run s).1 =
      .ok graphs) :
    graphs = [] ∨ ∃ plan s', plan ≠ [] ∧
      ((planner.createPlan client task findings).run s).1 = .ok plan ∧
      ((planner.graphsOfTasks client findings total (index + 1)
        (done ++ Graph.segments task plan index total) tasks).run s').1 = .ok graphs := by
  unfold graphsOfTasks at h
  rcases hrun : (planner.createPlan client task findings).run s with ⟨result, s'⟩
  rw [StateT.run_bind, hrun] at h
  rcases result with e | plan
  · exact absurd h nofun
  · cases plan with
    | nil =>
        -- One refused task leaves no graphs at all, not even those from before.
        exact .inl (Except.ok.inj h).symm
    | cons item items => exact .inr ⟨item :: items, s', nofun, rfl, h⟩

/-- The graphs behind a list of tasks are those from before, and graphs of the plans that the
    tasks got. -/
theorem mem_graphsOfTasks {tasks : List String} {done : List Graph} {total index : Nat}
    (h : ((planner.graphsOfTasks client findings total index done tasks).run s).1 = .ok graphs)
    {graph : Graph} (hgraph : graph ∈ graphs) :
    graph ∈ done ∨ ∃ task ∈ tasks, ∃ s' plan position,
      ((planner.createPlan client task findings).run s').1 = .ok plan ∧
        graph ∈ Graph.segments task plan position total := by
  -- Every task is met in a state and with graphs that the ones before it left.
  induction tasks generalizing s index done with
  | nil =>
      rw [← Except.ok.inj h] at hgraph
      exact .inl hgraph
  | cons task tasks ih =>
      rcases run_graphsOfTasks_cons h with rfl | ⟨plan, s', _, hplan, hrest⟩
      · exact absurd hgraph List.not_mem_nil
      · rcases ih hrest with hdone | ⟨later, hmem, hlater⟩
        · rcases List.mem_append.mp hdone with hbefore | hhere
          · exact .inl hbefore
          · exact .inr ⟨task, List.mem_cons_self, s, plan, index, hplan, hhere⟩
        · exact .inr ⟨later, List.mem_cons_of_mem task hmem, hlater⟩

/-- Where there are graphs in the end, every task has got a plan that is not empty. -/
theorem exists_plan_of_graphsOfTasks {tasks : List String} {done : List Graph} {total index : Nat}
    (h : ((planner.graphsOfTasks client findings total index done tasks).run s).1 = .ok graphs)
    (hne : graphs ≠ []) {task : String} (htask : task ∈ tasks) :
    ∃ s' plan, plan ≠ [] ∧ ((planner.createPlan client task findings).run s').1 = .ok plan := by
  induction tasks generalizing s index done with
  | nil => exact absurd htask List.not_mem_nil
  | cons first tasks ih =>
      rcases run_graphsOfTasks_cons h with hnil | ⟨plan, s', hplan, hrun, hrest⟩
      · exact absurd hnil hne
      · rcases List.mem_cons.mp htask with rfl | hlater
        · exact ⟨s, plan, hplan, hrun⟩
        · exact ih hrest hlater

theorem mem_createGraphs {instruction : String}
    (h : ((planner.createGraphs client instruction findings).run s).1 = .ok graphs)
    {graph : Graph} (hgraph : graph ∈ graphs) :
    ∃ task s' plan position total,
      ((planner.createPlan client task findings).run s').1 = .ok plan ∧
        graph ∈ Graph.segments task plan position total := by
  unfold createGraphs at h
  split at h
  · exact absurd h nofun
  · rcases mem_graphsOfTasks h hgraph with hnone | ⟨task, _, s', plan, position, hplan⟩
    · exact absurd hnone List.not_mem_nil
    · exact ⟨task, s', plan, position, _, hplan⟩

/-- Every graph of an instruction is what the executor relies on, however the client behaves:
    it has steps and one context, and in that of files it is the writing of one file and
    nothing else, or it looks without acting, or it does neither. -/
theorem createGraphs_isExecutable {instruction : String}
    (h : ((planner.createGraphs client instruction findings).run s).1 = .ok graphs) :
    ∀ graph ∈ graphs, graph.IsExecutable := by
  intro graph hgraph
  rcases mem_createGraphs h hgraph with ⟨task, s', plan, position, total, hplan, hsegment⟩
  have hfrugal : plan.IsFrugal := (createPlan_eq_ok_iff.mp hplan).isFrugal
  exact Graph.isExecutable_of_mem_segments hfrugal hsegment

/-- A file whose text looks like the save shortcut. Completing the save puts its items into a
    graph of their own. -/
theorem createGraphs_isExecutable_saved :
    let planner : Planner := ⟨{}, false, fun path => .ok (.ofText path)⟩
    let client : Request → StateM Unit Reply := fun _ => return .error .timeout
    ∃ graphs, ((planner.createGraphs client "create file notes.txt with text ^s to save" []).run
        ()).1 = .ok graphs ∧
      graphs.map (·.items.length) = [1, 3] ∧ ∀ graph ∈ graphs, graph.IsExecutable := by
  intro planner client
  have hmap : ((planner.createGraphs client "create file notes.txt with text ^s to save" []).run
      ()).1.map (fun graphs => graphs.map (·.items.length)) = .ok [1, 3] := rfl
  rcases map_eq_ok_iff.mp hmap with ⟨graphs, hgraphs, hlengths⟩
  exact ⟨graphs, hgraphs, hlengths, createGraphs_isExecutable hgraphs⟩

end Planner

end ActionPlan
