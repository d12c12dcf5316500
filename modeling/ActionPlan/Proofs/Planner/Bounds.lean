import ActionPlan.Proofs.Model.Answer
import ActionPlan.Proofs.Planner.Requests

/-!
# Raising the Bound

The greatest number of items is asked about in three places: the array in a reply is held against
it, a repaired proposal is, and so is the plan of the phrasebook. The first of them comes before
it is decided whether the phrasebook stands in, so another bound might send a planner another way.
It does not, because having too many items is not a failure of the model, and nothing stands in
for it.

So two runs that differ in the bound are compared step by step, and what is carried along is not
that the results are the same, but that they are the same unless the lower bound was exceeded.
`IsRelaxed` says this of two results, and it is handed on by everything that planning is put
together from (`IsRelaxed.bind`, `IsRelaxed.map`). The three places themselves are one lemma each.

The question to the model names the bound, so it is not the same in the two runs. What is assumed
to be the same is the reply, and only where the model is asked.

## Main definitions

* `IsRelaxed`: Two results that differ only where the first was too complex.
* `Planner.withMaxItems`: The planner with another bound.

## Theorems

* `IsRelaxed.bind`: Steps that are relaxed one by one are relaxed together.
* `Answer.plan_isRelaxed`, `checkCount_isRelaxed`: Where the bound is asked about.
* `planFromReply_isRelaxed`: The way that a reply takes.
* `createPlan_isRelaxed`: Raising the bound only helps plans that were too large.
* `createPlan_withMaxItems`: An accepted plan stays, and so does every other refusal.
-/

namespace ActionPlan

/-- The results are the same, unless the first one was too complex. -/
def IsRelaxed {α : Type} (before after : Except PlanError α) : Prop :=
  before = after ∨ ∃ detail, before = .error (.tooComplex detail)

namespace IsRelaxed

variable {α β : Type} {before after : Except PlanError α}

theorem refl (result : Except PlanError α) : IsRelaxed result result :=
  .inl rfl

/-- Steps that are relaxed one by one are relaxed together. -/
theorem bind {next next' : α → Except PlanError β} (h : IsRelaxed before after)
    (hnext : ∀ a, IsRelaxed (next a) (next' a)) :
    IsRelaxed (before >>= next) (after >>= next') := by
  rcases h with rfl | ⟨detail, rfl⟩
  · rcases before with e | a
    · exact refl _
    · exact hnext a
  · exact .inr ⟨detail, rfl⟩

theorem map (h : IsRelaxed before after) (f : α → β) :
    IsRelaxed (before.map f) (after.map f) := by
  rcases h with rfl | ⟨detail, rfl⟩
  · exact refl _
  · exact .inr ⟨detail, rfl⟩

theorem eq_ok {a : α} (h : IsRelaxed before after) (hok : before = .ok a) : after = .ok a := by
  rcases h with rfl | ⟨detail, rfl⟩
  · exact hok
  · exact absurd hok nofun

theorem eq_error {e : PlanError} (h : IsRelaxed before after) (herror : before = .error e)
    (hother : ∀ detail, e ≠ .tooComplex detail) : after = .error e := by
  rcases h with rfl | ⟨detail, rfl⟩
  · exact herror
  · exact absurd (Except.error.inj herror).symm (hother detail)

end IsRelaxed

variable {low high : Nat}

/-! ### Where the bound is asked about -/

/-- The items of a reply are counted before they are looked at. -/
theorem Answer.plan_isRelaxed (hle : low ≤ high) (text : String) :
    IsRelaxed (Answer.plan text low) (Answer.plan text high) := by
  unfold Answer.plan
  -- Nothing up to the array of the reply depends on the bound.
  split
  · exact .refl _
  · split
    · exact .refl _
    · next values _ =>
      by_cases hne : values = []
      · -- An empty array is refused under either bound.
        rw [hne]
        exact .refl _
      · by_cases hcount : values.length ≤ low
        · -- An array within the lower bound is within the higher one, too.
          rw [Answer.ofArray_of_length_le hne hcount,
            Answer.ofArray_of_length_le hne (hcount.trans hle)]
          exact .refl _
        · -- Above the lower bound the items are not even read, and the excess is all that is said.
          rw [Answer.ofArray_of_lt_length (Nat.lt_of_not_le hcount)]
          exact .inr ⟨_, rfl⟩
    · exact .refl _

namespace Planner

variable {planner : Planner} {instruction : String} {findings : List Finding} {reply : Reply}
  {plan : Plan}

theorem checking_bind {α β : Type} (x : Except PlanFault α) (f : α → Except PlanFault β) :
    checking (x >>= f) = checking x >>= fun a => checking (f a) := by
  cases x with
  | ok a => rfl
  | error fault => rfl

/-- So checks that are relaxed one by one are relaxed together. -/
theorem checking_bind_isRelaxed {α β : Type} {x x' : Except PlanFault α}
    {f f' : α → Except PlanFault β} (h : IsRelaxed (checking x) (checking x'))
    (hnext : ∀ a, IsRelaxed (checking (f a)) (checking (f' a))) :
    IsRelaxed (checking (x >>= f)) (checking (x' >>= f')) := by
  rw [checking_bind, checking_bind]
  exact h.bind hnext

theorem checkCount_isRelaxed (hle : low ≤ high) (plan : Plan) :
    IsRelaxed (checking (plan.checkCount low)) (checking (plan.checkCount high)) := by
  unfold Plan.checkCount
  by_cases hcount : low < plan.length
  · rw [if_pos hcount]
    exact .inr ⟨_, rfl⟩
  · rw [if_neg hcount, if_neg fun hmore => hcount (Nat.lt_of_le_of_lt hle hmore)]
    exact .refl _

/-- Of the checks on a proposal, one knows the bound. -/
theorem validate_isRelaxed (hle : low ≤ high) (plan : Plan) (instruction : String) :
    IsRelaxed (checking (plan.validate instruction low))
      (checking (plan.validate instruction high)) := by
  unfold Plan.validate
  refine checking_bind_isRelaxed (.refl _) fun _ => ?_
  exact checking_bind_isRelaxed (checkCount_isRelaxed hle plan) fun _ => .refl _

/-! ### Two runs -/

/-- The planner with another bound on the number of items. -/
def withMaxItems (planner : Planner) (max : Nat) : Planner :=
  { planner with
    config := { planner.config with planner := { planner.config.planner with maxActions := max } } }

theorem phrasebookPlan_isRelaxed (hle : low ≤ high) :
    IsRelaxed ((planner.withMaxItems low).phrasebookPlan instruction)
      ((planner.withMaxItems high).phrasebookPlan instruction) := by
  unfold phrasebookPlan
  refine (IsRelaxed.refl _).bind fun phrase => ?_
  exact (checkCount_isRelaxed hle _).bind fun _ => .refl _

theorem refine_isRelaxed (hle : low ≤ high) (proposed : Plan) :
    IsRelaxed ((planner.withMaxItems low).refine instruction proposed)
      ((planner.withMaxItems high).refine instruction proposed) := by
  unfold refine
  exact (IsRelaxed.refl _).bind fun repaired => validate_isRelaxed hle repaired instruction

theorem proposed_isRelaxed (hle : low ≤ high) (reply : Reply) :
    IsRelaxed ((planner.withMaxItems low).proposed reply)
      ((planner.withMaxItems high).proposed reply) := by
  unfold proposed
  split
  · exact Answer.plan_isRelaxed hle _
  · exact .refl _

/-- A reply takes the same way with either bound, unless it exceeds the lower one. Then it takes
    no way at all, since nothing stands in for a plan that is too large. -/
theorem planFromReply_isRelaxed (hle : low ≤ high) (reply : Reply) :
    IsRelaxed ((planner.withMaxItems low).planFromReply instruction reply)
      ((planner.withMaxItems high).planFromReply instruction reply) := by
  -- The bound is no part of the policy, so the same is done about a failure.
  have hpolicy : ∀ max, (planner.withMaxItems max).config.onFailure = planner.config.onFailure :=
    fun _ => rfl
  unfold planFromReply
  simp only [hpolicy]
  have hproposed : IsRelaxed ((planner.withMaxItems low).proposed reply)
      ((planner.withMaxItems high).proposed reply) := proposed_isRelaxed hle reply
  rcases hproposed with hsame | ⟨detail, hexcess⟩
  · -- Both planners find the same in the reply. What fails may be left to the phrasebook.
    rw [hsame]
    rcases (planner.withMaxItems high).proposed reply with e | proposed
    · simp only
      split
      · exact phrasebookPlan_isRelaxed hle
      · exact .refl _
    · exact refine_isRelaxed hle proposed
  · -- An excess is an error under any policy.
    rw [hexcess]
    exact .inr ⟨detail, rfl⟩

/-- An attempt without a question is relaxed, whatever would have been replied. -/
theorem attempt_isRelaxed_of_not_asks (hle : low ≤ high) (h : planner.asks instruction = false)
    (answer answer' : Request → Reply) :
    IsRelaxed (((planner.withMaxItems low).attempt instruction findings).resultWith answer)
      (((planner.withMaxItems high).attempt instruction findings).resultWith answer') := by
  -- The bound has no say in the route and the screening, so only making a plan is left.
  have hrule : ∀ max, (planner.withMaxItems max).rule = planner.rule := fun _ => rfl
  unfold attempt
  rw [hrule, hrule]
  rcases hroute : Instruction.route planner.rule instruction with direct | rejection | _
  · -- The plan is direct.
    exact .refl _
  · -- The instruction is rejected.
    exact .refl _
  · rcases hscreen : Instruction.screen instruction with e | outcome
    · -- The screening fails.
      exact .refl _
    · rcases Instruction.eq_of_screen_eq_ok hscreen with rfl | ⟨keyword, rfl⟩
      · -- Only the model could be missing, and then the phrasebook is the maker.
        have hmodel : ¬ planner.usesModel = true := fun hmodel => by
          rw [asks_eq_true_iff.mpr ⟨hmodel, hroute, hscreen⟩] at h
          exact absurd h nofun
        have hboth : ∀ max, ¬ (planner.withMaxItems max).usesModel = true := fun _ => hmodel
        simp only
        unfold generate
        rw [if_neg (hboth low), if_neg (hboth high)]
        exact (phrasebookPlan_isRelaxed hle).map planner.confine
      · -- The wording is unsafe.
        exact .refl _

variable {σ τ : Type} {client : Request → StateM σ Reply} {s : σ}
  {client' : Request → StateM τ Reply} {s' : τ}

/-- A planner with a higher bound plans the same, unless the lower one was exceeded. -/
theorem createPlan_isRelaxed (hle : low ≤ high)
    (hreply : planner.asks instruction = true →
      (planner.withMaxItems low).replyIn client s instruction findings =
        (planner.withMaxItems high).replyIn client' s' instruction findings) :
    IsRelaxed (((planner.withMaxItems low).createPlan client instruction findings).run s).1
      (((planner.withMaxItems high).createPlan client' instruction findings).run s').1 := by
  by_cases hasks : planner.asks instruction = true
  · -- Whether the model is asked does not depend on the bound.
    have hboth : ∀ max, (planner.withMaxItems max).asks instruction = true := fun _ => hasks
    rw [run_createPlan_of_asks (hboth low), run_createPlan_of_asks (hboth high), hreply hasks]
    exact (planFromReply_isRelaxed hle _).map planner.confine
  · -- Without a question the answers do not matter, and neither do the clients.
    rw [Bool.not_eq_true] at hasks
    unfold createPlan
    rw [Attempt.run_stateM, Attempt.run_stateM]
    exact attempt_isRelaxed_of_not_asks hle hasks _ _

/-- With a higher bound an accepted plan is accepted as it is, on whatever way it came about, and
    an error other than that of a plan that is too large stays the same error. -/
theorem createPlan_withMaxItems (hle : low ≤ high)
    (hreply : planner.asks instruction = true →
      (planner.withMaxItems low).replyIn client s instruction findings =
        (planner.withMaxItems high).replyIn client' s' instruction findings) :
    (∀ plan, (((planner.withMaxItems low).createPlan client instruction findings).run s).1 =
        .ok plan →
      (((planner.withMaxItems high).createPlan client' instruction findings).run s').1 =
        .ok plan) ∧
    ∀ e, (((planner.withMaxItems low).createPlan client instruction findings).run s).1 =
        .error e → (∀ detail, e ≠ .tooComplex detail) →
      (((planner.withMaxItems high).createPlan client' instruction findings).run s').1 =
        .error e := by
  have hrelaxed := createPlan_isRelaxed hle hreply
  exact ⟨fun plan => hrelaxed.eq_ok, fun e => hrelaxed.eq_error⟩

/-- The model answers without an array, and the phrasebook stands in with either bound. -/
theorem createPlan_withMaxItems_notepad :
    let planner : Planner :=
      ⟨{ onFailure := .deterministic }, true, fun path => .ok (.ofText path)⟩
    let client : Request → StateM Unit Reply := fun _ => return .ok "I would open it"
    let launch : Action := { kind := .launchApp, context := .desktop, target := some "notepad.exe" }
    1 ≤ 15 ∧
      (planner.asks "open notepad" = true →
        (planner.withMaxItems 1).replyIn client () "open notepad" [] =
          (planner.withMaxItems 15).replyIn client () "open notepad" []) ∧
      (((planner.withMaxItems 1).createPlan client "open notepad" []).run ()).1 =
        .ok [.action launch] ∧
      (((planner.withMaxItems 15).createPlan client "open notepad" []).run ()).1 =
        .ok [.action launch] := by
  intro planner client launch
  have hreply : planner.asks "open notepad" = true →
      (planner.withMaxItems 1).replyIn client () "open notepad" [] =
        (planner.withMaxItems 15).replyIn client () "open notepad" [] := fun _ => rfl
  have hlow : (((planner.withMaxItems 1).createPlan client "open notepad" []).run ()).1 =
      .ok [.action launch] := by decide +kernel
  exact ⟨by decide, hreply, hlow, (createPlan_withMaxItems (by decide) hreply).1 _ hlow⟩

end Planner

end ActionPlan
