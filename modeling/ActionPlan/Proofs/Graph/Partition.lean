import ActionPlan.Proofs.Graph.Executable

/-!
# The Cut into Segments

Where a plan is cut is not left to whoever cuts it. A cut loses nothing, every block has items and
one context, and blocks that touch have different contexts: there is only one way to do this, and
the runs of the plan are it (`isCut_iff`). So no block can be made longer, and none can be split,
and whatever else is said about the graphs of a plan follows from these four properties.

What is left to say is about a single graph. Its steps are numbered from one on, each waits for the
one before it and for no other, and it has to be approved if its action says so.

## Main definitions

* `Plan.IsCut`: The blocks that a plan falls into where its context changes.
* `Graph.IsLinear`: The steps are one behind the other.

## Theorems

* `isCut_iff`: The runs are the only cut of a plan.
* `isLinear_of_mem_segments`: The steps of a segment are one behind the other.
* `segments_partition`: The graphs of a plan are linear, and they are its only cut.
-/

namespace ActionPlan

namespace Plan

variable {plan : Plan} {blocks : List (List Item)}

/-- The blocks hold the plan in its order, each of them has items and one context, and the context
    changes from one block to the next. -/
structure IsCut (blocks : List (List Item)) (plan : Plan) : Prop where
  complete : blocks.flatten = plan
  nonempty : ∀ block ∈ blocks, block ≠ []
  oneContext : ∀ block ∈ blocks, ∀ item ∈ block, ∀ other ∈ block, item.context = other.context
  maximal : blocks.IsChain fun block next =>
    ∀ item ∈ block, ∀ other ∈ next, item.context ≠ other.context

theorem isCut_runs (plan : Plan) : IsCut plan.runs plan := by
  have hone : ∀ run ∈ plan.runs, ∀ item ∈ run, ∀ other ∈ run, item.context = other.context := by
    intro run hrun item hitem other hother
    obtain ⟨first, rest, rfl⟩ := List.exists_cons_of_ne_nil (ne_nil_of_mem_runs hrun)
    rw [context_eq_of_mem_runs hrun item hitem, context_eq_of_mem_runs hrun other hother]
  refine ⟨flatten_runs plan, fun run => ne_nil_of_mem_runs, hone, ?_⟩
  -- The contexts differ where two runs touch, and so they do everywhere in the two.
  refine (List.isChain_getLast_head_splitBy _ plan).imp_of_mem_imp ?_
  rintro run next hrun hnext ⟨hne, hne', hchange⟩ item hitem other hother
  rw [hone run hrun item hitem _ (List.getLast_mem hne),
    hone next hnext other hother _ (List.head_mem hne')]
  exact beq_eq_false_iff_ne.mp hchange

/-- The runs are the only cut of a plan. -/
theorem isCut_iff : IsCut blocks plan ↔ blocks = plan.runs := by
  constructor
  · intro h
    have hruns : plan.runs = blocks := by
      refine List.splitBy_eq_iff.mpr ⟨h.complete.symm, fun hnil => h.nonempty [] hnil rfl, ?_, ?_⟩
      · -- Two neighbours in a block have one context, so there is no cut between them.
        intro block hblock
        refine (List.pairwise_of_forall_mem_list fun item hitem other hother => ?_).isChain
        exact beq_iff_eq.mpr (h.oneContext block hblock item hitem other hother)
      · -- The contexts of two blocks differ where the blocks touch, and there is a cut.
        refine h.maximal.imp_of_mem_imp fun block next hblock hnext hchange => ?_
        refine ⟨h.nonempty block hblock, h.nonempty next hnext, beq_eq_false_iff_ne.mpr ?_⟩
        exact hchange _ (List.getLast_mem _) _ (List.head_mem _)
    exact hruns.symm
  · rintro rfl
    exact isCut_runs plan

end Plan

namespace Graph

variable {instruction : String} {plan : Plan} {task tasks : Nat} {graph : Graph}

/-- The steps of the graph are one behind the other. -/
structure IsLinear (graph : Graph) : Prop where
  /-- They are numbered from one on. -/
  numbered : graph.steps.map (·.id) = List.range' 1 graph.steps.length
  /-- The first one waits for nothing. -/
  first : ∀ step ∈ graph.steps.head?, step.dependencies = []
  /-- Every other one waits for the one before it. -/
  later : graph.steps.IsChain fun before step => step.dependencies = [before.id]
  /-- A step has to be approved if it acts and its action has to be. -/
  approved : ∀ step ∈ graph.steps, step.requiresApproval = true ↔
    ∃ action verification, step.item = .action action ∧
      action.verification = some verification ∧ verification.requiresApproval = true

theorem requiresApproval_ofItem (index : Nat) (item : Item) :
    (Step.ofItem index item).requiresApproval = true ↔
      ∃ action verification, item = .action action ∧
        action.verification = some verification ∧ verification.requiresApproval = true := by
  change item.verification?.any (·.requiresApproval) = true ↔ _
  rw [Option.any_eq_true]
  rcases item with action | observation
  · constructor
    · rintro ⟨verification, hverification, happroved⟩
      exact ⟨action, verification, rfl, hverification, happroved⟩
    · rintro ⟨_, verification, haction, hverification, happroved⟩
      rcases Item.action.inj haction with rfl
      exact ⟨verification, hverification, happroved⟩
  · -- An observation is never verified, so neither side holds.
    exact iff_of_false (fun ⟨_, h, _⟩ => nomatch h) (fun ⟨_, _, h, _⟩ => nomatch h)

theorem isLinear_of_mem_segments (h : graph ∈ segments instruction plan task tasks) :
    graph.IsLinear := by
  -- The steps number the items of one run, and nothing else of the graph matters.
  have hsteps : ∃ run : List Item, graph.steps = run.mapIdx Step.ofItem := by
    unfold segments at h
    rcases List.mem_mapIdx.mp h with ⟨index, hindex, rfl⟩
    exact ⟨_, rfl⟩
  rcases hsteps with ⟨run, hsteps⟩
  refine ⟨?_, ?_, ?_, ?_⟩
  · rw [hsteps]
    refine List.ext_getElem (by rw [List.length_map, List.length_range']) fun index _ _ => ?_
    rw [List.getElem_map, List.getElem_mapIdx, List.getElem_range']
    change index + 1 = _
    omega
  · -- The first step has nothing to wait for.
    rw [hsteps]
    intro step hstep
    rcases run with _ | ⟨item, run⟩
    · exact absurd hstep nofun
    · rw [List.mapIdx_cons] at hstep
      rw [← Option.some.inj hstep]
      rfl
  · -- A later step waits for the one before it, which has the number before its own.
    rw [hsteps]
    refine List.isChain_iff_getElem.mpr fun index _ => ?_
    rw [List.getElem_mapIdx, List.getElem_mapIdx]
    rfl
  · -- A step asks for approval where the verification of its item does.
    rw [hsteps]
    intro step hstep
    rcases List.mem_mapIdx.mp hstep with ⟨index, _, rfl⟩
    exact requiresApproval_ofItem index _

/-- The graphs of a plan are linear, and their items are the only cut of the plan. -/
theorem segments_partition (instruction : String) (plan : Plan) (task tasks : Nat) :
    Plan.IsCut ((segments instruction plan task tasks).map items) plan ∧
    (∀ blocks, Plan.IsCut blocks plan →
      blocks = (segments instruction plan task tasks).map items) ∧
    ∀ graph ∈ segments instruction plan task tasks, graph.IsLinear := by
  rw [map_items_segments]
  exact ⟨Plan.isCut_runs plan, fun _ => Plan.isCut_iff.mp, fun _ => isLinear_of_mem_segments⟩

end Graph

end ActionPlan
