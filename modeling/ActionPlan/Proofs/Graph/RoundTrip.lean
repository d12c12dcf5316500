import ActionPlan.Graph.Json
import ActionPlan.Proofs.Item.Encoding
import ActionPlan.Proofs.Json.Records

/-!
# Graphs that Are Read Back

A graph that is stored and read again is the same graph, down to the last character of its
texts. What is stored is a text, and the way back leads through tokens and trees; of all that
one fact is needed here, that the tree of a printed value is the tree of the value. What is
left is about records: each part of the graph is found under the key it was printed under, and
what was left out when it was printed is what its absence stands for.

Reading checks every item anew, so only a graph whose items keep the rules can come back.
Nothing else is asked of a graph, but for its numbers: ids and dependencies have to fit into a
word of sixty-four bits, as a number beyond that is read as a binary64 value. The order and the
range of ids, the dependencies they name and the contexts of the steps play no part in it.

## Main definitions

* `Step.IsStorable`: The step's item keeps the rules, and its numbers fit into a word.

## Theorems

* `draft_ofTree`: A printed item is read as the draft that it is printed as.
* `item_ofTree`, `step_ofTree`, `graph_ofTree`: An item, a step and a graph are read from their
  trees.
* `Graph.ofText_toJson`: A graph is read back from its text, exactly as it was.
-/

namespace ActionPlan

open Json

/-! ### Items -/

theorem verificationRecord_read (depth : Nat) (v : Verification) :
    Draft.verificationRecord.read (depth + 1) v.jsonValue.tree = .ok v := by
  refine (read_object Draft.verificationRecord depth
    (verification_jsonValue_hasDistinctKeys v).nodup).trans ?_
  rcases v with ⟨_ | _, _ | _, _ | _, _ | _⟩ <;> rfl

theorem put_verify (depth : Nat) (d : Draft) (v : Verification) :
    Draft.record.put (depth + 1) d ("verify", v.jsonValue.tree) =
      .ok { d with verification := some v } := by
  change ((Draft.verificationRecord.read (depth + 1) v.jsonValue.tree).map some >>= fun v =>
    .ok { d with verification := v }) = _
  rw [verificationRecord_read]
  rfl

/-- A printed item is read from its tree as the draft that it is printed as. -/
theorem draft_ofTree (depth : Nat) (item : Item) :
    Draft.ofTree (depth + 2) item.jsonValue.tree = .ok item.draft := by
  rcases item with a | o
  · have hkeys := (jsonValue_hasDistinctKeys (.action a)).nodup
    refine (read_object Draft.record (depth + 1) hkeys).trans ?_
    rcases a with ⟨kind, context, target, text, _ | v⟩
    · rcases target with _ | _ <;> rcases text with _ | _ <;> rfl
    · have hverify := put_verify depth { (Item.action ⟨kind, context, target, text, some v⟩).draft
        with verification := none } v
      -- The verification is printed last, so all else is read as if there were none.
      rw [List.foldlM_append]
      rcases target with _ | _ <;> rcases text with _ | _ <;>
        exact bind_eq_ok_iff.mpr ⟨_, rfl, bind_eq_ok_iff.mpr ⟨_, hverify, rfl⟩⟩
  · have hkeys := (jsonValue_hasDistinctKeys (.observation o)).nodup
    exact (read_object Draft.record (depth + 1) hkeys).trans rfl

theorem item_ofTree (depth : Nat) {item : Item} (h : item.IsValid) :
    Item.ofTree (depth + 2) item.jsonValue.tree = .ok item := by
  rw [Item.ofTree, draft_ofTree]
  simp only [Except.bind, bind, item_draft h]

/-! ### Steps and graphs -/

theorem put_item (depth : Nat) (d : StepDraft) {item : Item} (h : item.IsValid) :
    StepDraft.record.put (depth + 2) d ("item", item.jsonValue.tree) =
      .ok { d with item := some item } := by
  change (Item.ofTree (depth + 2) item.jsonValue.tree >>= fun item =>
    .ok { d with item := some item }) = _
  rw [item_ofTree depth h]
  rfl

theorem put_dependencies (depth : Nat) (d : StepDraft) (ids : List Nat) :
    StepDraft.record.put (depth + 1) d ("dependencies", (Value.array (ids.map natValue)).tree) =
      .ok { d with dependencies := ids } := by
  change (readList (fun _ => readNat) (depth + 1) (Value.array (ids.map natValue)).tree >>=
    fun ids => .ok { d with dependencies := ids }) = _
  rw [readList_array fun _ _ => rfl]
  rfl

/-- A printed step is read from its tree as itself. -/
theorem step_ofTree (depth : Nat) {step : Step} (h : step.item.IsValid) :
    Step.ofTree (depth + 3) step.jsonValue.tree = .ok step := by
  have hkeys : ["step_id", "item", "intent", "expected_outcome", "dependencies",
    "requires_approval"].Nodup := by decide
  have hread : StepDraft.record.read (depth + 3) step.jsonValue.tree =
      .ok ⟨some step.id, some step.item, some step.intent, some step.expectedOutcome,
        step.dependencies, step.requiresApproval⟩ := by
    refine (read_object StepDraft.record (depth + 2) ?keys).trans ?_
    case keys => exact hkeys
    -- Field by field; the item and the dependencies are the ones that take more than a look.
    exact bind_eq_ok_iff.mpr ⟨_, rfl, bind_eq_ok_iff.mpr ⟨_, put_item depth _ h,
      bind_eq_ok_iff.mpr ⟨_, rfl, bind_eq_ok_iff.mpr ⟨_, rfl,
        bind_eq_ok_iff.mpr ⟨_, put_dependencies (depth + 1) _ _, rfl⟩⟩⟩⟩⟩
  rw [Step.ofTree, hread]
  rfl

/-- A printed graph is read from its tree as itself. -/
theorem graph_ofTree (depth : Nat) {graph : Graph} (h : ∀ step ∈ graph.steps, step.item.IsValid) :
    Graph.ofTree (depth + 5) graph.jsonValue.tree = .ok graph := by
  have hkeys : ["instruction", "steps"].Nodup := by decide
  have hsteps : readList Step.ofTree (depth + 4)
      (Value.array (graph.steps.map Step.jsonValue)).tree = .ok graph.steps :=
    readList_array fun step hstep => step_ofTree depth (h step hstep)
  -- Both fields were printed, so the draft lacks neither.
  have hread : GraphDraft.record.read (depth + 5) graph.jsonValue.tree =
      .ok ⟨some graph.instruction, some graph.steps⟩ := by
    refine (read_object GraphDraft.record (depth + 4) ?keys).trans ?_
    case keys => exact hkeys
    exact bind_eq_ok_iff.mpr ⟨_, rfl, bind_eq_ok_iff.mpr
      ⟨_, bind_eq_ok_iff.mpr ⟨_, hsteps, rfl⟩, rfl⟩⟩
  rw [Graph.ofTree, hread]
  rfl

/-- The step can be stored: its item keeps the rules, and its numbers fit into a word. -/
structure Step.IsStorable (step : Step) : Prop where
  item : step.item.IsValid
  id : step.id < 2 ^ 64
  dependencies : ∀ id ∈ step.dependencies, id < 2 ^ 64

theorem jsonValue_hasWordNumbers (item : Item) : item.jsonValue.HasWordNumbers :=
  jsonValue_induction .string (.bool true) (fun _ _ => .object) item

theorem step_hasWordNumbers {step : Step} (h : step.IsStorable) :
    step.jsonValue.HasWordNumbers := by
  have hdependencies : (Value.array (step.dependencies.map natValue)).HasWordNumbers := by
    refine .array fun v hv => ?_
    rcases List.mem_map.mp hv with ⟨id, hid, rfl⟩
    exact .natural (h.dependencies id hid)
  -- Outside the item the only numbers are identifiers, and they were said to be storable.
  refine .object fun field hfield => ?_
  simp only [List.mem_cons, List.not_mem_nil, or_false] at hfield
  rcases hfield with rfl | rfl | rfl | rfl | rfl | rfl
  · exact .natural h.id
  · exact jsonValue_hasWordNumbers step.item
  · exact .string step.intent
  · exact .string step.expectedOutcome
  · exact hdependencies
  · exact .bool step.requiresApproval

theorem graph_hasWordNumbers {graph : Graph} (h : ∀ step ∈ graph.steps, step.IsStorable) :
    graph.jsonValue.HasWordNumbers := by
  refine .object fun field hfield => ?_
  rcases List.mem_pair.mp hfield with rfl | rfl
  · exact .string graph.instruction
  · refine .array fun v hv => ?_
    rcases List.mem_map.mp hv with ⟨step, hstep, rfl⟩
    exact step_hasWordNumbers (h step hstep)

/-- A graph of items that keep the rules is read back from its text, exactly as it was. Every
    graph has a text, as printing cannot fail. -/
theorem Graph.ofText_toJson {graph : Graph} (h : ∀ step ∈ graph.steps, step.IsStorable) :
    ofText graph.toJson = .ok graph := by
  -- The limit of depth leaves 122 levels more than a graph can use.
  have htree : Graph.ofTree depthLimit graph.jsonValue.tree = .ok graph :=
    graph_ofTree 122 fun step hstep => (h step hstep).item
  rw [ofText, toJson, ofText_pretty (graph_hasWordNumbers h)]
  simp only [htree]
  rfl

/-- A graph with every kind of character in its texts, a verification without a field, and
    numbers at both ends of their range. -/
theorem Graph.ofText_toJson_hostile :
    let graph : Graph :=
      ⟨"say \"C:\\\"\n\x00\x1f\x7f é 🙂",
        [ ⟨0, .action ⟨.typeText, .desktop, none, some "\t\x7b\"a\": [1]\x7d\\u0041", some {}⟩,
            "", "/", [], true⟩,
          ⟨2 ^ 64 - 1, .observation ⟨.readText, .file, "notes.txt"⟩, "look", "",
            [0, 0, 2 ^ 64 - 1], false⟩ ]⟩
    (∀ step ∈ graph.steps, step.IsStorable) ∧ ofText graph.toJson = .ok graph := by
  intro graph
  have h : ∀ step ∈ graph.steps, step.IsStorable := by
    intro step hstep
    rcases List.mem_pair.mp hstep with rfl | rfl
    · exact ⟨⟨rfl, rfl, by decide⟩, by decide, by decide⟩
    · exact ⟨rfl, by decide, by decide⟩
  exact ⟨h, Graph.ofText_toJson h⟩

end ActionPlan
