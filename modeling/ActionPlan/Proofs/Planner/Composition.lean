import ActionPlan.Proofs.Planner.Graphs
import ActionPlan.Proofs.Planner.Requests

/-!
# Composition of Graphs

A model with a script tells apart what the order of requests could hide. Its answer to a
request depends on how many came before, so a task is planned with the right entry only if
every task in front of it has used up what it should and nothing else. The client of this file
keeps its requests, and their number is the place in the script.

The work on a list of tasks is a loop with an exit in the middle. `run_graphsOfTasks_append`
takes the loop over all tasks that have got a plan and leaves it at the next one, with the
graphs so far and the requests so far in closed form. So it is enough to look at one more
task: there is none, or it fails, or it is refused. These are the constructors of
`Planner.Composition`, and `createGraphs_composition` says that they are what happens.

## Main definitions

* `Planner.scripted`: A model that answers from a script.
* `Planner.requests`: The requests that tasks come with.
* `Planner.planBehind`: What becomes of a task behind others.
* `Planner.Planned`: The plans of tasks that all have one.
* `Planner.compose`: The graphs of plans.
* `Planner.Composition`: What becomes of tasks, and the requests on the way.

## Theorems

* `planBehind_eq`: A task uses the entry behind those of the tasks before.
* `run_graphsOfTasks_append`: Tasks with plans leave their graphs and their requests behind.
* `flatMap_items_compose`: The graphs hold the items of the plans in order.
* `createGraphs_composition`: What becomes of an instruction.
* `createGraphs_composition_exits`: An instruction whose third task fails.
-/

namespace ActionPlan

namespace Planner

/-- A model that answers from a script, one entry for each request, and keeps the requests. -/
def scripted (script : Nat → Reply) (request : Request) : StateM (List Request) Reply :=
  fun asked => (script asked.length, asked ++ [request])

variable {planner : Planner} {script : Nat → Reply} {findings : List Finding}

/-! ### Requests and plans of tasks -/

/-- The requests that tasks come with: one for each task that the model is asked about, in the
    order of the tasks. -/
def requests (planner : Planner) (findings : List Finding) (tasks : List String) : List Request :=
  (tasks.filter planner.asks).map fun task => planner.question task findings

/-- What becomes of a task if the requests of the tasks in front of it have been made. -/
def planBehind (planner : Planner) (script : Nat → Reply) (findings : List Finding)
    (earlier : List String) (task : String) : Except PlanError Plan :=
  ((planner.createPlan (scripted script) task findings).run (planner.requests findings earlier)).1

theorem requests_concat (tasks : List String) (task : String) :
    planner.requests findings (tasks ++ [task]) = planner.requests findings tasks ++
      if planner.asks task then [planner.question task findings] else [] := by
  unfold requests
  rw [List.filter_append, List.map_append, List.filter_singleton]
  cases planner.asks task with
  | false => rfl
  | true => rfl

/-- A task is planned with the entry of the script behind those of the tasks before. -/
theorem planBehind_eq (earlier : List String) (task : String) :
    planner.planBehind script findings earlier task =
      (planner.attempt task findings).resultWith fun _ =>
        script (earlier.countP planner.asks) := by
  unfold planBehind createPlan
  rw [Attempt.run_stateM]
  have hlength : (planner.requests findings earlier).length = earlier.countP planner.asks := by
    rw [requests, List.length_map, List.countP_eq_length_filter]
  rw [← hlength]
  rfl

/-- Planning a task makes the request that it comes with, if it comes with one. -/
theorem run_createPlan_scripted (earlier : List String) (task : String) :
    (planner.createPlan (scripted script) task findings).run (planner.requests findings earlier) =
      (planner.planBehind script findings earlier task,
        planner.requests findings (earlier ++ [task])) := by
  -- Only the state is in question; the plan is what it is called.
  refine Prod.ext rfl ?_
  rw [requests_concat]
  by_cases hasks : planner.asks task = true
  · rw [run_createPlan_of_asks hasks, if_pos hasks]
    rfl
  · rw [if_neg hasks, List.append_nil]
    exact run_createPlan_of_not_asks (Bool.not_eq_true _ ▸ hasks)

/-- The tasks have these plans, each made behind the tasks before, and none of them empty. -/
inductive Planned (planner : Planner) (script : Nat → Reply) (findings : List Finding) :
    List String → List Plan → Prop
  | none : Planned planner script findings [] []
  | more {tasks : List String} {plans : List Plan} {task : String} {plan : Plan}
      (hplanned : Planned planner script findings tasks plans)
      (hplan : planner.planBehind script findings tasks task = .ok plan) (hne : plan ≠ []) :
      Planned planner script findings (tasks ++ [task]) (plans ++ [plan])

/-- The graphs of plans, one plan after the other, each with the number of its task. -/
def compose (total : Nat) (tasks : List String) (plans : List Plan) : List Graph :=
  ((tasks.zip plans).mapIdx fun index entry =>
    Graph.segments entry.1 entry.2 index total).flatten

/-- What becomes of tasks, and the requests that are made. -/
inductive Composition (planner : Planner) (script : Nat → Reply) (findings : List Finding)
    (tasks : List String) : Except PlanError (List Graph) → List Request → Prop
  /-- Every task has a plan. -/
  | complete {plans : List Plan} (hplanned : planner.Planned script findings tasks plans) :
      Composition planner script findings tasks (.ok (compose tasks.length tasks plans))
        (planner.requests findings tasks)
  /-- The first task without a plan fails. -/
  | failed {earlier later : List String} {task : String} {plans : List Plan} {e : PlanError}
      (htasks : tasks = earlier ++ task :: later)
      (hplanned : planner.Planned script findings earlier plans)
      (hplan : planner.planBehind script findings earlier task = .error e) :
      Composition planner script findings tasks (.error e)
        (planner.requests findings (earlier ++ [task]))
  /-- The first task without a plan is refused. -/
  | refused {earlier later : List String} {task : String} {plans : List Plan}
      (htasks : tasks = earlier ++ task :: later)
      (hplanned : planner.Planned script findings earlier plans)
      (hplan : planner.planBehind script findings earlier task = .ok []) :
      Composition planner script findings tasks (.ok [])
        (planner.requests findings (earlier ++ [task]))

variable {tasks rest : List String} {plans : List Plan} {task : String} {plan : Plan}
  {total : Nat}

/-! ### The graphs so far -/

theorem Planned.length_eq (h : planner.Planned script findings tasks plans) :
    plans.length = tasks.length := by
  induction h with
  | none => rfl
  | more _ _ _ ih => rw [List.length_append, List.length_append, ih, List.length_singleton,
      List.length_singleton]

theorem compose_concat (hlength : plans.length = tasks.length) :
    compose total (tasks ++ [task]) (plans ++ [plan]) =
      compose total tasks plans ++ Graph.segments task plan tasks.length total := by
  unfold compose
  rw [List.zip_append hlength.symm, List.zip_cons_cons, List.zip_nil_right, List.mapIdx_concat,
    List.flatten_append, List.flatten_singleton, List.length_zip, hlength, Nat.min_self]

/-- The graphs hold the items of the plans, in order. -/
theorem flatMap_items_compose (h : planner.Planned script findings tasks plans) :
    (compose total tasks plans).flatMap Graph.items = plans.flatten := by
  induction h with
  | none => rfl
  | more hplanned _ _ ih =>
      rw [compose_concat hplanned.length_eq, List.flatMap_append, ih, List.flatten_append,
        List.flatten_singleton, List.flatMap_def, Graph.map_items_segments, Plan.flatten_runs]

/-! ### The run -/

/-- The work on one task more, which goes on if the task has a plan. -/
theorem run_graphsOfTasks_scripted (index : Nat) (done : List Graph) (earlier : List String) :
    (planner.graphsOfTasks (scripted script) findings total index done (task :: rest)).run
        (planner.requests findings earlier) =
      match planner.planBehind script findings earlier task with
      | .error e => (.error e, planner.requests findings (earlier ++ [task]))
      | .ok [] => (.ok [], planner.requests findings (earlier ++ [task]))
      | .ok plan =>
        (planner.graphsOfTasks (scripted script) findings total (index + 1)
          (done ++ Graph.segments task plan index total) rest).run
            (planner.requests findings (earlier ++ [task])) := by
  rw [graphsOfTasks, StateT.run_bind, run_createPlan_scripted]
  rcases planner.planBehind script findings earlier task with e | plan
  · rfl
  · cases plan with
    | nil => rfl
    | cons item items => rfl

/-- Behind tasks with plans, the work goes on with their graphs and their requests. -/
theorem run_graphsOfTasks_append (h : planner.Planned script findings tasks plans)
    (total : Nat) (rest : List String) :
    (planner.graphsOfTasks (scripted script) findings total 0 [] (tasks ++ rest)).run [] =
      (planner.graphsOfTasks (scripted script) findings total tasks.length
        (compose total tasks plans) rest).run (planner.requests findings tasks) := by
  -- The last task with a plan is the first of the rest that the tasks before it leave.
  induction h generalizing rest with
  | none => rfl
  | @more tasks plans task plan hplanned hplan hne ih =>
      obtain ⟨item, items, rfl⟩ := List.exists_cons_of_ne_nil hne
      rw [List.append_assoc, List.singleton_append, ih, run_graphsOfTasks_scripted, hplan,
        compose_concat hplanned.length_eq, List.length_append, List.length_singleton]

/-- All tasks have plans, or there is a first one without. -/
theorem planned_cases (planner : Planner) (script : Nat → Reply) (findings : List Finding)
    (tasks : List String) :
    (∃ plans, planner.Planned script findings tasks plans) ∨
      ∃ earlier task later plans, tasks = earlier ++ task :: later ∧
        planner.Planned script findings earlier plans ∧
        ∀ plan, planner.planBehind script findings earlier task = .ok plan → plan = [] := by
  induction tasks using List.reverseRecOn with
  | nil => exact .inl ⟨[], .none⟩
  | append_singleton tasks task ih =>
      rcases ih with ⟨plans, hplanned⟩ | ⟨earlier, first, later, plans, rfl, hplanned, hfirst⟩
      · -- All tasks so far have plans, so the last one is the first without, or it has one too.
        by_cases hplan : ∃ plan, planner.planBehind script findings tasks task = .ok plan ∧
          plan ≠ []
        · rcases hplan with ⟨plan, hplan, hne⟩
          exact .inl ⟨plans ++ [plan], .more hplanned hplan hne⟩
        · refine .inr ⟨tasks, task, [], plans, rfl, hplanned, fun plan hplan' => ?_⟩
          by_contra hne
          exact hplan ⟨plan, hplan', hne⟩
      · -- The first task without a plan stays the first.
        have htasks : (earlier ++ first :: later) ++ [task] =
            earlier ++ first :: (later ++ [task]) := by
          rw [List.append_assoc, List.cons_append]
        exact .inr ⟨earlier, first, later ++ [task], plans, htasks, hplanned, hfirst⟩

theorem exists_composition (planner : Planner) (script : Nat → Reply) (findings : List Finding)
    (tasks : List String) : ∃ outcome asked,
      planner.Composition script findings tasks outcome asked := by
  rcases planned_cases planner script findings tasks with ⟨plans, hplanned⟩ |
    ⟨earlier, task, later, plans, htasks, hplanned, hnone⟩
  · exact ⟨_, _, .complete hplanned⟩
  · rcases hplan : planner.planBehind script findings earlier task with e | plan
    · exact ⟨_, _, .failed htasks hplanned hplan⟩
    · rw [hnone plan hplan] at hplan
      exact ⟨_, _, .refused htasks hplanned hplan⟩

/-- What a composition says is what the work comes to. -/
theorem Composition.run_eq {outcome : Except PlanError (List Graph)} {asked : List Request}
    (h : planner.Composition script findings tasks outcome asked) :
    (planner.graphsOfTasks (scripted script) findings tasks.length 0 [] tasks).run [] =
      (outcome, asked) := by
  cases h with
  | complete hplanned =>
      -- Every task has a plan, and the graphs of all of them are returned.
      have hrun := run_graphsOfTasks_append hplanned tasks.length []
      rw [List.append_nil] at hrun
      exact hrun
  | failed htasks hplanned hplan =>
      generalize tasks.length = total
      -- The tasks in front have plans. Then one fails, and the work ends with its error.
      rw [htasks, run_graphsOfTasks_append hplanned total, run_graphsOfTasks_scripted, hplan]
  | refused htasks hplanned hplan =>
      generalize tasks.length = total
      -- The tasks in front have plans. Then one has an empty plan, which is a refusal.
      rw [htasks, run_graphsOfTasks_append hplanned total, run_graphsOfTasks_scripted, hplan]

theorem run_graphsOfTasks_iff {outcome : Except PlanError (List Graph)} {asked : List Request} :
    (planner.graphsOfTasks (scripted script) findings tasks.length 0 [] tasks).run [] =
      (outcome, asked) ↔ planner.Composition script findings tasks outcome asked := by
  refine ⟨fun hrun => ?_, Composition.run_eq⟩
  -- There is a composition, and its run is this one.
  rcases exists_composition planner script findings tasks with ⟨outcome', asked', hcomposition⟩
  have heq := hrun.symm.trans hcomposition.run_eq
  rcases Prod.mk.inj heq with ⟨rfl, rfl⟩
  exact hcomposition

/-- What becomes of an instruction. If it cannot be split, nothing is asked. Otherwise there is
    one composition of its tasks, and that is the outcome and what is asked: the graphs of all
    plans, or the failure or refusal of the first task without one, after one request for each
    task so far that the model is asked about. Complete graphs hold the items of the plans, and
    each task is planned with the entry of the script behind those of the tasks before. -/
theorem createGraphs_composition (planner : Planner) (script : Nat → Reply) (instruction : String)
    (findings : List Finding) :
    let run := (planner.createGraphs (scripted script) instruction findings).run []
    (∀ e, Instruction.subtasks planner.limits instruction = .error e → run = (.error e, [])) ∧
    ∀ tasks, Instruction.subtasks planner.limits instruction = .ok tasks →
      (∀ outcome asked, run = (outcome, asked) ↔
        planner.Composition script findings tasks outcome asked) ∧
      (∀ plans, planner.Planned script findings tasks plans →
        (compose tasks.length tasks plans).flatMap Graph.items = plans.flatten) ∧
      ∀ earlier task, planner.planBehind script findings earlier task =
        (planner.attempt task findings).resultWith fun _ =>
          script (earlier.countP planner.asks) := by
  intro run
  refine ⟨fun e herror => ?_, fun tasks htasks => ⟨fun outcome asked => ?_,
    fun plans => flatMap_items_compose, planBehind_eq⟩⟩
  · -- The instruction cannot be split, and nothing has been asked so far.
    change (planner.createGraphs (scripted script) instruction findings).run [] = _
    unfold createGraphs
    rw [herror]
    rfl
  · -- What is left is the work on the tasks, which has one composition.
    rw [← run_graphsOfTasks_iff]
    change (planner.createGraphs (scripted script) instruction findings).run [] = _ ↔ _
    unfold createGraphs
    rw [htasks]

/-- The second of four tasks needs no model, so the third is planned with the second entry of the
    script, which ends the work. -/
theorem createGraphs_composition_exits :
    let planner : Planner :=
      ⟨{ planner := { maxActions := 1 } }, true, fun path => .ok (.ofText path)⟩
    let answer :=
      "[\x7b\"action_type\":\"launch_app\",\"context\":\"desktop\",\"target\":\"notepad\"\x7d]"
    let script : Nat → Reply := fun
      | 0 => .ok answer
      | _ => .error .timeout
    let instruction := "open notepad; read file notes.txt; open calc; open paint"
    Instruction.subtasks planner.limits instruction =
        .ok ["open notepad", "read file notes.txt", "open calc", "open paint"] ∧
      (planner.createGraphs (scripted script) instruction []).run [] =
        (.error (.model .timeout),
          [planner.question "open notepad" [], planner.question "open calc" []]) := by
  intro planner answer script instruction
  have htasks : Instruction.subtasks planner.limits instruction =
      .ok ["open notepad", "read file notes.txt", "open calc", "open paint"] := by decide +kernel
  let launch : Action := ⟨.launchApp, .desktop, some "notepad", none, none⟩
  let look : Observation := ⟨.readText, .file, "notes.txt"⟩
  have hfirst : planner.planBehind script [] [] "open notepad" = .ok [.action launch] := by
    decide +kernel
  have hsecond : planner.planBehind script [] ["open notepad"] "read file notes.txt" =
      .ok [.observation look] := by
    decide +kernel
  have hthird : planner.planBehind script [] ["open notepad", "read file notes.txt"] "open calc" =
      .error (.model .timeout) := by
    decide +kernel
  have hplanned : planner.Planned script [] ["open notepad", "read file notes.txt"]
      [[.action launch], [.observation look]] :=
    .more (.more .none hfirst nofun) hsecond nofun
  -- The second task is a file to be read, about which the model is not asked.
  have hrequests : planner.requests [] ["open notepad", "read file notes.txt", "open calc"] =
      [planner.question "open notepad" [], planner.question "open calc" []] := by
    have hfilter : ["open notepad", "read file notes.txt", "open calc"].filter planner.asks =
        ["open notepad", "open calc"] := by decide +kernel
    rw [requests, hfilter]
    rfl
  have hcomposition := ((createGraphs_composition planner script instruction []).2 _ htasks).1
  rw [← hrequests]
  exact ⟨htasks, (hcomposition _ _).mpr (.failed rfl hplanned hthird)⟩

end Planner

end ActionPlan
