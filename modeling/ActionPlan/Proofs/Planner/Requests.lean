import ActionPlan.Proofs.Planner.Outcome

/-!
# Requests

Whether the model is asked about an instruction is settled before it is asked: there has to be
a model in use, no route may answer the instruction, and the screening has to pass it.
`Planner.asks` puts the three together. If it says yes, the attempt is one question and what
follows from the reply; if it says no, the attempt is over, and a client in whatever state is
left in that state (`run_createPlan_of_asks`, `run_createPlan_of_not_asks`).

The policy for failures has no part in this. It is looked at when a reply has come.

## Main definitions

* `Planner.asks`: The model is asked about the instruction.

## Theorems

* `asks_eq_true_iff`: What it takes for the model to be asked.
* `attempt_of_asks`: The one question and what follows from the reply.
* `run_createPlan_of_asks`, `run_createPlan_of_not_asks`: What planning does to a client.
-/

namespace ActionPlan

namespace Planner

variable {planner : Planner} {instruction : String} {findings : List Finding}

/-- The model is asked about the instruction: there is one in use, no route answers the
    instruction, and the screening passes it. -/
def asks (planner : Planner) (instruction : String) : Bool :=
  planner.usesModel && Instruction.route planner.rule instruction == .generate &&
    Instruction.screen instruction == .ok .generate

theorem asks_eq_true_iff :
    planner.asks instruction = true ↔ planner.usesModel = true ∧
      Instruction.route planner.rule instruction = .generate ∧
        Instruction.screen instruction = .ok .generate := by
  simp only [asks, Bool.and_eq_true, beq_iff_eq, and_assoc]

theorem attempt_of_asks (h : planner.asks instruction = true) :
    planner.attempt instruction findings =
      .ask (planner.question instruction findings) fun reply =>
        (planner.planFromReply instruction reply).map planner.confine := by
  rcases asks_eq_true_iff.mp h with ⟨hmodel, hroute, hscreen⟩
  unfold attempt
  rw [hroute, hscreen]
  simp only
  unfold generate
  rw [if_pos hmodel]

theorem exists_settled_of_not_asks (h : planner.asks instruction = false) :
    ∃ result, planner.attempt instruction findings = .settled result := by
  rw [← Bool.not_eq_true, asks_eq_true_iff] at h
  unfold attempt
  split
  · exact ⟨_, rfl⟩
  · exact ⟨_, rfl⟩
  · next hroute =>
    split
    · exact ⟨_, rfl⟩
    · exact ⟨_, rfl⟩
    · next outcome hpassed hscreen =>
      -- The screening has passed it, so the model is what is missing.
      have hmodel : ¬ planner.usesModel = true := by
        intro hmodel
        rcases Instruction.eq_of_screen_eq_ok hscreen with rfl | ⟨keyword, rfl⟩
        · exact h ⟨hmodel, hroute, hscreen⟩
        · exact hpassed _ rfl
      unfold generate
      rw [if_neg hmodel]
      exact ⟨_, rfl⟩

variable {σ : Type} {client : Request → StateM σ Reply} {s : σ}

/-- A client that is asked answers the one question and is left in the state after it. -/
theorem run_createPlan_of_asks (h : planner.asks instruction = true) :
    (planner.createPlan client instruction findings).run s =
      ((planner.planFromReply instruction
          (planner.replyIn client s instruction findings)).map planner.confine,
        ((client (planner.question instruction findings)).run s).2) := by
  unfold createPlan
  rw [attempt_of_asks h]
  rfl

/-- A client that is not asked is left as it is. -/
theorem run_createPlan_of_not_asks (h : planner.asks instruction = false) :
    ((planner.createPlan client instruction findings).run s).2 = s := by
  rcases exists_settled_of_not_asks h with ⟨result, hresult⟩
  unfold createPlan
  rw [hresult]
  rfl

end Planner

end ActionPlan
