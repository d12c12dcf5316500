import ActionPlan.Proofs.Instruction.Route
import ActionPlan.Proofs.Planner.Generated

/-!
# Outcomes of Planning

A client may do as it likes: answer, fail, remember what it was asked and answer differently
next time. Here it is a function from requests to replies in a state of any type, and nothing
is assumed about it. Since an attempt asks at most once, only the reply to that one question
matters, and `createPlan_eq_ok_iff` reduces planning with a client to planning with a reply.

There are four ways to a plan, the constructors of `Planner.Yields`. Two of them yield the
empty plan on purpose. The other two hand out what a route or a generator made, and the last
holds it against the rule for paths.

The rule is held against targets, so an item of a file without a target would slip through.
That there is none is not seen where the rule is applied; it comes from the validity of the
items, which has been carried through every pass.

An empty plan is meant as a refusal. It is one, with one exception: the phrasebook may plan
keystrokes in which the save shortcut occurs, and if the instruction does not ask for saving
they are dropped, without a check behind it. `Planner.Refuses` and `Planner.Empties` are the
two sides, and `createPlan_eq_nil_iff` says that they are all and never meet.

## Main definitions

* `Attempt.resultWith`: The result of an attempt if requests are answered by a function.
* `Planner.Yields`: The ways to a plan.
* `Planner.Refuses`: Policy refuses the instruction.
* `Planner.Empties`: A plan was made and lost all its items.

## Theorems

* `run_stateM`: A client in a state is a function that answers.
* `accepted_of_mem_confine`: What the rule for paths lets through.
* `createPlan_eq_ok_iff`: The plans of an instruction are those with a way to them.
* `Yields.isFrugal`: A plan is frugal with files.
* `createPlan_confined`: A plan touches only files that the rule accepts.
* `createPlan_eq_nil_iff`: When the plan of an instruction is empty.
* `createPlan_nil_without_refusal`: Dropped keystrokes that look like a refusal.
-/

namespace ActionPlan

namespace Attempt

/-- The result of an attempt if requests are answered by a function. -/
def resultWith (answer : Request → Reply) : Attempt → Except PlanError Plan
  | settled result => result
  | ask request finish => finish (answer request)

/-- A client in a state is a function that answers, since it is asked at most once. -/
theorem run_stateM {σ : Type} (attempt : Attempt) (client : Request → StateM σ Reply) (s : σ) :
    ((attempt.run client).run s).1 =
      attempt.resultWith fun request => ((client request).run s).1 := by
  cases attempt with
  | settled result => rfl
  | ask request finish => rfl

end Attempt

namespace Planner

variable {planner : Planner} {instruction : String} {findings : List Finding} {reply : Reply}
  {plan : Plan}

/-! ### The rule for paths -/

/-- An item is not permitted if it is of a file whose target the rule does not accept. -/
theorem permits_eq_false_iff {item : Item} :
    planner.permits item = false ↔ item.context = .file ∧
      ∃ target, item.target? = some target ∧ (planner.rule target).isOk = false := by
  unfold permits
  rcases htarget : item.target? with _ | target
  · exact iff_of_false nofun (fun ⟨_, _, h, _⟩ => nomatch h)
  · simp only
    rw [Bool.or_eq_false_iff, bne_eq_false_iff_eq]
    -- The rule judges the target, and an item has one at most.
    refine and_congr_right fun _ => ⟨fun h => ⟨target, rfl, h⟩, ?_⟩
    rintro ⟨other, hother, h⟩
    rw [Option.some.inj hother]
    exact h

theorem confine_eq_nil_iff :
    planner.confine plan = [] ↔ plan = [] ∨ ∃ item ∈ plan, planner.permits item = false := by
  unfold confine
  by_cases hall : plan.all planner.permits = true
  · rw [if_pos hall]
    -- Every item is permitted, so the plan is left as it is.
    refine ⟨.inl, fun h => h.elim id ?_⟩
    rintro ⟨item, hmem, hitem⟩
    rw [List.all_eq_true.mp hall item hmem] at hitem
    exact absurd hitem nofun
  · -- One item that is not permitted costs the whole plan.
    rw [if_neg hall]
    rw [Bool.not_eq_true, List.all_eq_false] at hall
    rcases hall with ⟨item, hmem, hitem⟩
    exact iff_of_true rfl (.inr ⟨item, hmem, Bool.not_eq_true _ ▸ hitem⟩)

/-- What is left behind the rule is the plan or nothing. -/
theorem mem_confine {item : Item} (h : item ∈ planner.confine plan) :
    item ∈ plan ∧ planner.permits item = true := by
  unfold confine at h
  split at h
  · next hall => exact ⟨h, List.all_eq_true.mp hall item h⟩
  · exact absurd h List.not_mem_nil

/-- Behind the rule, an item of a file has a target that the rule accepts. Without its
    validity, the item could have passed for lack of a target. -/
theorem accepted_of_mem_confine {item : Item} (hvalid : plan.IsValid)
    (hmem : item ∈ planner.confine plan) (hfile : item.context = .file) :
    ∃ target, item.target? = some target ∧ (planner.rule target).isOk = true := by
  rcases mem_confine hmem with ⟨hplan, hpermits⟩
  rcases Item.target_of_isValid (hvalid item hplan) hfile with ⟨target, htarget⟩
  refine ⟨target, htarget, ?_⟩
  by_contra hrule
  have hrejected : planner.permits item = false :=
    permits_eq_false_iff.mpr ⟨hfile, target, htarget, Bool.not_eq_true _ ▸ hrule⟩
  rw [hpermits] at hrejected
  exact absurd hrejected nofun

theorem confine_sublist : (planner.confine plan).Sublist plan := by
  unfold confine
  split
  · exact List.Sublist.refl plan
  · exact List.nil_sublist plan

/-! ### The ways to a plan -/

/-- The ways to a plan, if the model replies in this way. -/
inductive Yields (planner : Planner) (instruction : String) (reply : Reply) : Plan → Prop
  | direct {plan : Plan} (hroute : Instruction.route planner.rule instruction = .direct plan) :
      Yields planner instruction reply plan
  | rejected {rejection : Rejection}
      (hroute : Instruction.route planner.rule instruction = .rejected rejection) :
      Yields planner instruction reply []
  | screened {keyword : String} (hroute : Instruction.route planner.rule instruction = .generate)
      (hscreen : Instruction.screen instruction = .ok (.rejected (.unsafeWording keyword))) :
      Yields planner instruction reply []
  | generated {plan : Plan} (hroute : Instruction.route planner.rule instruction = .generate)
      (hscreen : Instruction.screen instruction = .ok .generate)
      (hplan : planner.generated instruction reply = .ok plan) :
      Yields planner instruction reply (planner.confine plan)

/-- A generator asks its question, and the rule for paths has the last word. -/
theorem resultWith_generate (answer : Request → Reply) :
    (planner.generate instruction findings).resultWith answer =
      (planner.generated instruction (answer (planner.question instruction findings))).map
        planner.confine := by
  unfold generate generated
  split
  · rfl
  · rfl

theorem resultWith_attempt_eq_ok_iff (answer : Request → Reply) :
    (planner.attempt instruction findings).resultWith answer = .ok plan ↔
      planner.Yields instruction (answer (planner.question instruction findings)) plan := by
  constructor
  · intro h
    unfold attempt at h
    -- The attempt ends at the first of three: the route, the screening, and a generator.
    split at h
    · next direct hroute =>
      rw [← Except.ok.inj h]
      exact .direct hroute
    · next rejection hroute =>
      rw [← Except.ok.inj h]
      exact .rejected hroute
    · next hroute =>
      rcases hscreen : Instruction.screen instruction with e | outcome
      · rw [hscreen] at h
        exact absurd h nofun
      · rw [hscreen] at h
        rcases Instruction.eq_of_screen_eq_ok hscreen with rfl | ⟨keyword, rfl⟩
        · -- Only here is anything generated, and held against the rule.
          simp only at h
          rw [resultWith_generate] at h
          rcases map_eq_ok_iff.mp h with ⟨made, hmade, rfl⟩
          exact .generated hroute hscreen hmade
        · rw [← Except.ok.inj h]
          exact .screened hroute hscreen
  · intro h
    unfold attempt
    -- Each way of yielding a plan names the point where the attempt ends.
    cases h with
    | direct hroute => rw [hroute]; rfl
    | rejected hroute => rw [hroute]; rfl
    | screened hroute hscreen => rw [hroute, hscreen]; rfl
    | generated hroute hscreen hplan =>
        rw [hroute, hscreen]
        simp only
        rw [resultWith_generate, hplan]
        rfl

/-- The reply of a client that is asked about an instruction in a state. -/
def replyIn {σ : Type} (planner : Planner) (client : Request → StateM σ Reply) (s : σ)
    (instruction : String) (findings : List Finding) : Reply :=
  ((client (planner.question instruction findings)).run s).1

/-- The plans of an instruction are those with a way to them. -/
theorem createPlan_eq_ok_iff {σ : Type} {client : Request → StateM σ Reply} {s : σ} :
    ((planner.createPlan client instruction findings).run s).1 = .ok plan ↔
      planner.Yields instruction (planner.replyIn client s instruction findings) plan := by
  unfold createPlan
  rw [Attempt.run_stateM]
  exact resultWith_attempt_eq_ok_iff _

/-! ### What a plan promises -/

/-- A direct plan has one item, and a refusal has none. -/
theorem Yields.isFrugal (h : planner.Yields instruction reply plan) : plan.IsFrugal := by
  cases h with
  | direct hroute =>
      rcases Instruction.route_direct hroute with ⟨item, rfl, _⟩
      exact Plan.isFrugal_of_countP_le_one List.countP_le_length
  | rejected _ => exact Plan.isFrugal_of_countP_le_one (Nat.zero_le 1)
  | screened _ _ => exact Plan.isFrugal_of_countP_le_one (Nat.zero_le 1)
  | generated _ _ hplan => exact (generated_isFrugal hplan).sublist confine_sublist

/-- A plan touches only files that the rule accepts, and each of its items of a file has a
    target for the rule to judge. -/
theorem createPlan_confined {σ : Type} {client : Request → StateM σ Reply} {s : σ}
    (h : ((planner.createPlan client instruction findings).run s).1 = .ok plan) :
    ∀ item ∈ plan, item.context = .file →
      ∃ target, item.target? = some target ∧ (planner.rule target).isOk = true := by
  intro item hmem hfile
  cases createPlan_eq_ok_iff.mp h with
  | direct hroute =>
      -- The route has asked the rule about its one item.
      rcases Instruction.route_direct hroute with ⟨only, rfl, hdirect⟩
      rw [List.mem_singleton.mp hmem] at hfile ⊢
      exact hdirect.accepted hfile
  | rejected _ => exact absurd hmem List.not_mem_nil
  | screened _ _ => exact absurd hmem List.not_mem_nil
  -- A valid item of a file has a target, and the rule was asked about all of them.
  | generated _ _ hplan => exact accepted_of_mem_confine (generated_isValid hplan) hmem hfile

/-- A file written without a model, and with a rule that accepts no other. -/
theorem createPlan_confined_notes :
    let rule : PathRule := fun path =>
      if path = "notes.txt" then .ok (.ofText path) else .error ⟨path, "/work"⟩
    let planner : Planner := ⟨{}, false, rule⟩
    let client : Request → StateM Unit Reply := fun _ => return .error .timeout
    let write : Action :=
      { kind := .typeText, context := .file, target := some "notes.txt", text := some "hi" }
    ((planner.createPlan client "create file notes.txt with text hi" []).run ()).1 =
        .ok [.action write] ∧
      ∃ target, write.target = some target ∧ (planner.rule target).isOk = true := by
  intro rule planner client write
  have hplan : ((planner.createPlan client "create file notes.txt with text hi" []).run ()).1 =
      .ok [.action write] := rfl
  exact ⟨hplan, createPlan_confined hplan (.action write) List.mem_cons_self rfl⟩

/-! ### Empty plans -/

/-- Policy refuses the instruction, if the model replies in this way. -/
inductive Refuses (planner : Planner) (instruction : String) (reply : Reply) : Prop
  /-- The route rejects the instruction. -/
  | byRoute {rejection : Rejection}
      (hroute : Instruction.route planner.rule instruction = .rejected rejection)
  /-- The screening finds it unsafe. -/
  | byScreen {keyword : String}
      (hroute : Instruction.route planner.rule instruction = .generate)
      (hscreen : Instruction.screen instruction = .ok (.rejected (.unsafeWording keyword)))
  /-- The generated plan touches a file that the rule does not accept. -/
  | byRule {plan : Plan} {item : Item} {target : String}
      (hroute : Instruction.route planner.rule instruction = .generate)
      (hscreen : Instruction.screen instruction = .ok .generate)
      (hplan : planner.generated instruction reply = .ok plan) (hmem : item ∈ plan)
      (hfile : item.context = .file) (htarget : item.target? = some target)
      (hrule : (planner.rule target).isOk = false)

/-- A plan was made and lost all its items, if the model replies in this way. -/
structure Empties (planner : Planner) (instruction : String) (reply : Reply) : Prop where
  route : Instruction.route planner.rule instruction = .generate
  screen : Instruction.screen instruction = .ok .generate
  maker : planner.PhrasebookDecides reply
  /-- All that the phrasebook plans is keystrokes with the save shortcut in them. -/
  shortcuts : ∃ phrase, Phrasebook.plan instruction = .ok phrase ∧
    ∀ item ∈ phrase, item.isSaveShortcut = true
  /-- The instruction does not speak of saving. -/
  unasked : Text.mentions (Instruction.lowered instruction) "save" = false

theorem Empties.generated_eq_nil (h : planner.Empties instruction reply) :
    planner.generated instruction reply = .ok [] := by
  rcases h.shortcuts with ⟨phrase, hphrase, hall⟩
  have hnil : planner.phrasebookPlan instruction = .ok [] :=
    phrasebookPlan_eq_nil_iff.mpr ⟨phrase, hphrase, hall, h.unasked⟩
  exact generated_eq_nil_iff.mpr ⟨h.maker, hnil⟩

/-- No instruction is refused for a plan that has lost its items. -/
theorem Empties.not_refuses (h : planner.Empties instruction reply) :
    ¬ planner.Refuses instruction reply := by
  intro hrefuses
  cases hrefuses with
  | byRoute hroute =>
      -- The instruction got past the route.
      rw [h.route] at hroute
      exact absurd hroute nofun
  | byScreen _ hscreen =>
      -- It got past the screening.
      rw [h.screen] at hscreen
      exact absurd hscreen nofun
  | byRule _ _ hplan hmem _ _ _ =>
      -- And no item was left for the rule to object to.
      rw [h.generated_eq_nil] at hplan
      rw [← Except.ok.inj hplan] at hmem
      exact absurd hmem List.not_mem_nil

theorem yields_nil_iff :
    planner.Yields instruction reply [] ↔
      planner.Refuses instruction reply ∨ planner.Empties instruction reply := by
  constructor
  · intro h
    -- The empty plan is named, so that the way of a confined plan can be taken apart.
    generalize hnil : ([] : Plan) = out at h
    cases h with
    | direct hroute =>
        rcases Instruction.route_direct hroute with ⟨item, hplan, _⟩
        rw [← hnil] at hplan
        exact absurd hplan nofun
    | rejected hroute => exact .inl (.byRoute hroute)
    | screened hroute hscreen => exact .inl (.byScreen hroute hscreen)
    | generated hroute hscreen hplan =>
        rcases confine_eq_nil_iff.mp hnil.symm with rfl | ⟨item, hmem, hitem⟩
        · rcases generated_eq_nil_iff.mp hplan with ⟨hmaker, hphrase⟩
          rcases phrasebookPlan_eq_nil_iff.mp hphrase with ⟨phrase, hphrase, hall, hsave⟩
          exact .inr ⟨hroute, hscreen, hmaker, ⟨phrase, hphrase, hall⟩, hsave⟩
        · rcases permits_eq_false_iff.mp hitem with ⟨hfile, target, htarget, hrule⟩
          exact .inl (.byRule hroute hscreen hplan hmem hfile htarget hrule)
  · rintro (hrefuses | hempties)
    · cases hrefuses with
      | byRoute hroute => exact .rejected hroute
      | byScreen hroute hscreen => exact .screened hroute hscreen
      | byRule hroute hscreen hplan hmem hfile htarget hrule =>
          have hitem := permits_eq_false_iff.mpr ⟨hfile, _, htarget, hrule⟩
          rw [← confine_eq_nil_iff.mpr (.inr ⟨_, hmem, hitem⟩)]
          exact .generated hroute hscreen hplan
    · -- Nothing is left for the rule to object to.
      exact Yields.generated hempties.route hempties.screen hempties.generated_eq_nil

/-- The plan of an instruction is empty if policy refuses the instruction, or if a plan lost
    all its items; and where the latter happens, nothing was refused. So an empty plan tells a
    refusal from everything else as long as no plan is emptied. -/
theorem createPlan_eq_nil_iff {σ : Type} (planner : Planner) (client : Request → StateM σ Reply)
    (s : σ) (instruction : String) (findings : List Finding) :
    (((planner.createPlan client instruction findings).run s).1 = .ok [] ↔
      planner.Refuses instruction (planner.replyIn client s instruction findings) ∨
        planner.Empties instruction (planner.replyIn client s instruction findings)) ∧
    ¬ (planner.Refuses instruction (planner.replyIn client s instruction findings) ∧
        planner.Empties instruction (planner.replyIn client s instruction findings)) := by
  constructor
  · rw [createPlan_eq_ok_iff]
    exact yields_nil_iff
  · rintro ⟨hrefuses, hempties⟩
    exact hempties.not_refuses hrefuses

/-- Typing the keys of the save shortcut loses them, which looks like a refusal. -/
theorem createPlan_nil_without_refusal :
    let planner : Planner := ⟨{}, false, fun path => .ok (.ofText path)⟩
    let client : Request → StateM Unit Reply := fun _ => return .error .timeout
    ((planner.createPlan client "type ^s" []).run ()).1 = .ok [] ∧
      ¬ planner.Refuses "type ^s" (planner.replyIn client () "type ^s" []) := by
  intro planner client
  have hphrase : Phrasebook.plan "type ^s" = .ok [.action (.keystrokes "^s")] := by
    decide +kernel
  -- The one item presses the shortcut, and nothing in the instruction speaks of saving.
  have hall : ∀ item ∈ [Item.action (.keystrokes "^s")], item.isSaveShortcut = true := by
    intro item hmem
    rw [List.mem_singleton.mp hmem]
    rfl
  have hempties : planner.Empties "type ^s" (planner.replyIn client () "type ^s" []) :=
    ⟨rfl, rfl, .noModel rfl, ⟨_, hphrase, hall⟩, rfl⟩
  exact ⟨createPlan_eq_ok_iff.mpr (yields_nil_iff.mpr (.inr hempties)), hempties.not_refuses⟩

end Planner

end ActionPlan
