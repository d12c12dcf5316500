import ActionPlan.Graph.Segment
import ActionPlan.Proofs.Plan.FileUse
import Mathlib.Data.List.SplitBy

/-!
# Executable Graphs

The executor takes a graph as a whole: it opens one context for it, and it treats the graph of
a file either as a look at the file or as the writing of it. `Graph.IsExecutable` says what it
relies on.

None of this is checked where the graphs are cut, because there it comes for free. A run has
items, since splitting leaves no empty piece, and one context, since it is split wherever that
changes. The rest is frugality of the plan, which every part of the plan inherits: in the run
of a file, what is said about the actions on files is said about all of its items.

## Main definitions

* `Graph.items`: The items of a graph.
* `Graph.IsExecutable`: What the executor relies on.

## Theorems

* `flatten_runs`: The runs hold the plan in its order.
* `context_eq_of_mem_runs`: A run has one context.
* `map_items_segments`: The graphs of a plan hold its runs.
* `isExecutable_of_mem_segments`: The graphs of a frugal plan are executable.
-/

namespace ActionPlan

namespace Plan

/-! ### Runs -/

/-- The runs hold the plan in its order. -/
theorem flatten_runs (plan : Plan) : plan.runs.flatten = plan :=
  List.flatten_splitBy _ plan

theorem ne_nil_of_mem_runs {plan run : Plan} (h : run ∈ plan.runs) : run ≠ [] :=
  List.ne_nil_of_mem_splitBy h

theorem sublist_of_mem_runs {plan run : Plan} (h : run ∈ plan.runs) : run.Sublist plan := by
  have hflatten : run.Sublist plan.runs.flatten := List.sublist_flatten_of_mem h
  rw [flatten_runs] at hflatten
  exact hflatten

/-- The items of a run take effect where the first of them does. -/
theorem context_eq_of_mem_runs {plan rest : Plan} {first : Item} (h : first :: rest ∈ plan.runs) :
    ∀ item ∈ first :: rest, item.context = first.context := by
  have hchain : (first :: rest).IsChain fun a b : Item => a.context = b.context :=
    (List.isChain_of_mem_splitBy h).imp fun a b hab => beq_iff_eq.mp hab
  -- Neighbours agree, and so do the ends of the run.
  clear h
  induction rest generalizing first with
  | nil =>
      intro item hmem
      rw [List.mem_singleton.mp hmem]
  | cons second rest ih =>
      rw [List.isChain_cons_cons] at hchain
      intro item hmem
      rcases List.mem_cons.mp hmem with rfl | hlater
      · rfl
      · rw [ih hchain.2 item hlater, hchain.1]

end Plan

namespace Graph

/-- The items of the steps. -/
def items (graph : Graph) : List Item :=
  graph.steps.map (·.item)

/-- What the executor relies on. -/
structure IsExecutable (graph : Graph) : Prop where
  /-- There is something to do. -/
  nonempty : graph.steps ≠ []
  /-- All items take effect in the context of the graph. -/
  oneContext : ∀ item ∈ graph.items, graph.context? = some item.context
  /-- The writing of a file is all that the graph does. -/
  writeAlone : graph.context? = some .file →
    ∀ item ∈ graph.items, item.isKind .typeText = true → graph.items.length = 1
  /-- A look at a file comes without actions. -/
  readOnly : graph.context? = some .file →
    ∀ item ∈ graph.items, item.isObservation = true →
      ∀ other ∈ graph.items, other.isAction = false

/-! ### Segments -/

/-- Numbering the entries of a list loses nothing if the entries can be read off again. -/
theorem map_mapIdx_eq_self {α β : Type} {f : Nat → α → β} {g : β → α} (l : List α)
    (h : ∀ index a, g (f index a) = a) : (l.mapIdx f).map g = l := by
  induction l generalizing f with
  | nil => rfl
  | cons a l ih =>
      rw [List.mapIdx_cons, List.map_cons, h, ih fun index => h (index + 1)]

theorem map_item_mapIdx (run : List Item) : (run.mapIdx Step.ofItem).map (·.item) = run :=
  map_mapIdx_eq_self run fun _ _ => rfl

/-- The graphs of a plan hold its runs, in order. -/
theorem map_items_segments (instruction : String) (plan : Plan) (task tasks : Nat) :
    (segments instruction plan task tasks).map items = plan.runs := by
  unfold segments
  exact map_mapIdx_eq_self plan.runs fun _ run => map_item_mapIdx run

theorem items_mem_runs {instruction : String} {plan : Plan} {task tasks : Nat} {graph : Graph}
    (h : graph ∈ segments instruction plan task tasks) : graph.items ∈ plan.runs := by
  rw [← map_items_segments instruction plan task tasks]
  exact List.mem_map_of_mem h

theorem context?_eq (graph : Graph) : graph.context? = graph.items.head?.map (·.context) := by
  unfold context? items
  rw [List.head?_map, Option.map_map]
  rfl

theorem context?_of_mem {graph : Graph} {plan : Plan} (hrun : graph.items ∈ plan.runs)
    {item : Item} (hmem : item ∈ graph.items) : graph.context? = some item.context := by
  rw [context?_eq]
  cases hitems : graph.items with
  | nil =>
      rw [hitems] at hmem
      exact absurd hmem List.not_mem_nil
  | cons first rest =>
      rw [hitems] at hrun hmem
      exact congrArg some (Plan.context_eq_of_mem_runs hrun item hmem).symm

/-- The graphs that a frugal plan is cut into are executable. -/
theorem isExecutable_of_mem_segments {instruction : String} {plan : Plan} {task tasks : Nat}
    {graph : Graph} (hplan : plan.IsFrugal) (h : graph ∈ segments instruction plan task tasks) :
    graph.IsExecutable := by
  have hrun : graph.items ∈ plan.runs := items_mem_runs h
  have hfrugal : Plan.IsFrugal graph.items := hplan.sublist (Plan.sublist_of_mem_runs hrun)
  -- In a graph of a file, every item is of a file.
  have hfile : graph.context? = some .file → ∀ item ∈ graph.items, item.isOfFile = true := by
    intro hgraph item hmem
    rw [context?_of_mem hrun hmem] at hgraph
    exact beq_iff_eq.mpr (Option.some.inj hgraph)
  refine ⟨?_, fun item hmem => context?_of_mem hrun hmem, ?_, ?_⟩
  · intro hnil
    refine Plan.ne_nil_of_mem_runs hrun ?_
    unfold items
    rw [hnil]
    rfl
  · intro hgraph item hmem htypes
    exact hfrugal.length_eq_one (hfile hgraph) hmem htypes
  · intro hgraph item hmem hlooks other hother
    exact hfrugal.isAction_eq_false (hfile hgraph) hmem hlooks hother

end Graph

end ActionPlan
