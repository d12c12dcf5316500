import ActionPlan.Proofs.Model.Answer
import ActionPlan.Proofs.Planner.Requests

/-!
# Where the Phrasebook Stands In

The policy for failures is one field of the configuration, and it is looked at in one place.
What matters is which errors get there. The kind of an error does not tell: an empty array is
an ambiguous instruction, and so is a plan that loses its last item in the repair, but only the
first of the two comes from the model.

So failures of the model are described by the reply. `Answer.IsFailure` lists them with the
error of each, `Answer.IsProposal` and `Answer.IsExcess` are the other two things that a reply
can be, and nothing in the three definitions refers to kinds of errors. What the planner does
with the error of a failure is then proved, in two runs that differ in the policy and nothing
else: one run goes on as if there were no model, the other ends with that error. Everything
that happens to a proposal happens in both.

## Main definitions

* `Answer.Holds`: The array in a text.
* `Answer.IsFailure`, `Answer.IsProposal`, `Answer.IsExcess`: What a reply can be.
* `Planner.withPolicy`: The planner with another policy for failures.
* `Planner.withoutClient`: The planner without a model.

## Theorems

* `reply_cases`: A reply is a failure, a proposal or an excess.
* `proposed_of_isFailure`, `proposed_of_isProposal`, `proposed_of_isExcess`: What the planner
  makes of it.
* `proposed_eq_ok_iff`: The planner accepts proposals.
* `createPlan_of_isFailure`, `createPlan_of_not_isFailure`: Where the policy decides, and where
  it does not.
* `createPlan_fallback`: What the policy changes, and what it does not.
* `createPlan_fallback_notepad`: A failure and a rejected plan with errors of one kind.
-/

namespace ActionPlan

open Json (Value)

namespace Answer

/-! ### What a reply can be -/

/-- The text holds an array of these values. -/
def Holds (text : String) (values : List Value) : Prop :=
  ∃ span, span? (unfence text.toList) = some span ∧
    Value.ofText? (String.ofList span) = some (.array values)

/-- The model produced no plan: there was no text, the text has no array, or an array that is
    empty or has an element that is no item. -/
inductive IsFailure (maxItems : Nat) : Reply → PlanError → Prop
  | transport (e : ModelError) : IsFailure maxItems (.error e) (.model e)
  | noArray {text : String} (hspan : span? (unfence text.toList) = none) :
      IsFailure maxItems (.ok text) (.malformedOutput "no JSON array found in model response")
  | noValue {text : String} {span : List Char} (hspan : span? (unfence text.toList) = some span)
      (hvalue : Value.ofText? (String.ofList span) = none) :
      IsFailure maxItems (.ok text) (.malformedOutput "invalid JSON")
  | otherValue {text : String} {span : List Char} {value : Value}
      (hspan : span? (unfence text.toList) = some span)
      (hvalue : Value.ofText? (String.ofList span) = some value)
      (hother : ∀ values, value ≠ .array values) :
      IsFailure maxItems (.ok text) (.malformedOutput "model output must be a JSON array")
  | empty {text : String} (hholds : Holds text []) :
      IsFailure maxItems (.ok text) (.ambiguousInstruction
        "model returned an empty plan (ambiguous or unsafe instruction)")
  | noItem {text : String} {before after : List Value} {value : Value} {plan : Plan}
      {e : ItemError} (hholds : Holds text (before ++ value :: after))
      (hcount : (before ++ value :: after).length ≤ maxItems)
      (hbefore : before.mapM Item.ofValue = .ok plan) (hvalue : Item.ofValue value = .error e) :
      IsFailure maxItems (.ok text) (.schemaViolation (before.length + 1) value.compact e)

/-- The model produced a plan: an array of items, and not too many of them. -/
inductive IsProposal (maxItems : Nat) : Reply → Plan → Prop
  | intro {text : String} {values : List Value} {plan : Plan} (hholds : Holds text values)
      (hne : values ≠ []) (hcount : values.length ≤ maxItems)
      (hitems : values.mapM Item.ofValue = .ok plan) : IsProposal maxItems (.ok text) plan

/-- The model produced an array of so many elements, which are too many. -/
inductive IsExcess (maxItems : Nat) : Reply → Nat → Prop
  | intro {text : String} {values : List Value} (hholds : Holds text values)
      (hcount : maxItems < values.length) : IsExcess maxItems (.ok text) values.length

/-- There is nothing else that a reply can be. -/
theorem reply_cases (maxItems : Nat) (reply : Reply) :
    (∃ e, IsFailure maxItems reply e) ∨ (∃ plan, IsProposal maxItems reply plan) ∨
      ∃ count, IsExcess maxItems reply count := by
  rcases reply with e | text
  · exact .inl ⟨_, .transport e⟩
  -- A text has the items of a plan, or there is a reason why not.
  rcases answer_cases text maxItems with
    ⟨span, values, items, hspan, hvalue, hone, hcount, hitems⟩ | ⟨e, hrefusal⟩
  · have hholds : Holds text values := ⟨span, span?_of_isSpan hspan, hvalue⟩
    exact .inr (.inl ⟨items, .intro hholds (List.ne_nil_of_length_pos hone) hcount hitems⟩)
  · -- A refusal is a failure, except for the one that is about the number of items.
    cases hrefusal with
    | noSpan hspan => exact .inl ⟨_, .noArray (span?_eq_none_iff.mpr hspan)⟩
    | @noArray span hspan hvalue =>
        -- The span may not be a value at all, or be one that is no array.
        rcases hread : Value.ofText? (String.ofList span) with _ | value
        · exact .inl ⟨_, .noValue (span?_of_isSpan hspan) hread⟩
        · exact .inl ⟨_, .otherValue (span?_of_isSpan hspan) hread fun values heq =>
            hvalue values (heq ▸ hread)⟩
    | empty hspan hvalue => exact .inl ⟨_, .empty ⟨_, span?_of_isSpan hspan, hvalue⟩⟩
    | tooMany hspan hvalue hcount =>
        -- An array that is too large is no failure of the generator.
        exact .inr (.inr ⟨_, .intro ⟨_, span?_of_isSpan hspan, hvalue⟩ hcount⟩)
    | noItem hspan hvalue hcount hbefore hitem =>
        exact .inl ⟨_, .noItem ⟨_, span?_of_isSpan hspan, hvalue⟩ hcount hbefore hitem⟩

theorem IsFailure.isGeneratorFailure {maxItems : Nat} {reply : Reply} {e : PlanError}
    (h : IsFailure maxItems reply e) : e.isGeneratorFailure = true := by
  cases h with
  | transport _ => rfl
  | noArray _ => rfl
  | noValue _ _ => rfl
  | otherValue _ _ _ => rfl
  | empty _ => rfl
  | noItem _ _ _ _ => rfl

end Answer

open Answer (IsFailure IsProposal IsExcess)

namespace Planner

variable {planner : Planner} {instruction : String} {findings : List Finding} {reply : Reply}
  {plan : Plan} {e : PlanError}

theorem proposed_of_isFailure (h : IsFailure planner.maxItems reply e) :
    planner.proposed reply = .error e := by
  unfold proposed
  cases h with
  | transport e => rfl
  | noArray hspan => exact Answer.plan_of_isRefusal (.noSpan (Answer.span?_eq_none_iff.mp hspan))
  | @noValue text span hspan hvalue =>
      have hnone : ∀ values, Value.ofText? (String.ofList span) ≠ some (.array values) := by
        rw [hvalue]
        exact fun values => nofun
      exact Answer.plan_of_isRefusal (.noArray (Answer.span?_eq_some_iff.mp hspan) hnone)
  | otherValue hspan hvalue hother =>
      -- What begins with a bracket is read as an array.
      rcases Answer.eq_array_of_isSpan (Answer.span?_eq_some_iff.mp hspan) hvalue with
        ⟨values, heq⟩
      exact absurd heq (hother values)
  | empty hholds =>
      rcases hholds with ⟨span, hspan, hvalue⟩
      exact Answer.plan_of_isRefusal (.empty (Answer.span?_eq_some_iff.mp hspan) hvalue)
  | noItem hholds hcount hbefore hitem =>
      rcases hholds with ⟨span, hspan, hvalue⟩
      exact Answer.plan_of_isRefusal
        (.noItem (Answer.span?_eq_some_iff.mp hspan) hvalue hcount hbefore hitem)

theorem proposed_of_isProposal (h : IsProposal planner.maxItems reply plan) :
    planner.proposed reply = .ok plan := by
  cases h with
  | intro hholds hne hcount hitems =>
      rcases hholds with ⟨span, hspan, hvalue⟩
      unfold proposed
      simp only
      exact Answer.plan_of_isItems (Answer.span?_eq_some_iff.mp hspan) hvalue
        (List.length_pos_of_ne_nil hne) hcount hitems

/-- The error that the model proposed so many items. -/
def tooMany (planner : Planner) (count : Nat) : PlanError :=
  .tooComplex (toString count ++ " items (max: " ++ toString planner.maxItems ++
    "), break the task into smaller steps")

theorem proposed_of_isExcess {count : Nat} (h : IsExcess planner.maxItems reply count) :
    planner.proposed reply = .error (planner.tooMany count) := by
  cases h with
  | intro hholds hcount =>
      rcases hholds with ⟨span, hspan, hvalue⟩
      unfold proposed
      simp only
      rw [Answer.plan_of_isRefusal (.tooMany (Answer.span?_eq_some_iff.mp hspan) hvalue hcount)]
      rfl

/-- The planner accepts a proposal and nothing else. -/
theorem proposed_eq_ok_iff :
    planner.proposed reply = .ok plan ↔ IsProposal planner.maxItems reply plan := by
  refine ⟨fun h => ?_, proposed_of_isProposal⟩
  rcases Answer.reply_cases planner.maxItems reply with ⟨e, hfailure⟩ | ⟨plan', hplan⟩ |
    ⟨count, hcount⟩
  · -- A failure would be the outcome.
    rw [proposed_of_isFailure hfailure] at h
    exact absurd h nofun
  · rw [proposed_of_isProposal hplan] at h
    rw [← Except.ok.inj h]
    exact hplan
  · -- And so would an excess.
    rw [proposed_of_isExcess hcount] at h
    exact absurd h nofun

/-! ### Two runs -/

/-- The planner with another policy for failures. -/
def withPolicy (planner : Planner) (policy : OnFailure) : Planner :=
  { planner with config := { planner.config with onFailure := policy } }

/-- The planner without a model. -/
def withoutClient (planner : Planner) : Planner :=
  { planner with hasClient := false }

theorem planFromReply_of_isFailure (h : IsFailure planner.maxItems reply e)
    (instruction : String) :
    (planner.withPolicy .deterministic).planFromReply instruction reply =
        planner.phrasebookPlan instruction ∧
      (planner.withPolicy .abort).planFromReply instruction reply = .error e := by
  -- The policy is not looked at before something has failed.
  have hproposed : ∀ policy, (planner.withPolicy policy).proposed reply = .error e := fun _ =>
    proposed_of_isFailure h
  unfold planFromReply
  constructor
  · rw [hproposed]
    simp only
    -- The failure is one of the generator, and the policy has the phrasebook stand in.
    rw [h.isGeneratorFailure]
    rfl
  · rw [hproposed]
    simp only
    -- The same failure is handed on where the policy is to stop.
    rw [h.isGeneratorFailure]
    rfl

theorem planFromReply_of_isProposal (h : IsProposal planner.maxItems reply plan)
    (policy : OnFailure) : (planner.withPolicy policy).planFromReply instruction reply =
      planner.refine instruction plan := by
  have hproposed : (planner.withPolicy policy).proposed reply = .ok plan :=
    proposed_of_isProposal h
  unfold planFromReply
  rw [hproposed]
  rfl

theorem planFromReply_of_isExcess {count : Nat} (h : IsExcess planner.maxItems reply count)
    (policy : OnFailure) : (planner.withPolicy policy).planFromReply instruction reply =
      .error (planner.tooMany count) := by
  have hproposed : (planner.withPolicy policy).proposed reply = .error (planner.tooMany count) :=
    proposed_of_isExcess h
  unfold planFromReply
  rw [hproposed]
  rfl

/-- Without a question there is no failure, and the policy is not looked at. -/
theorem attempt_withPolicy_of_not_asks (h : planner.asks instruction = false)
    (policy : OnFailure) : (planner.withPolicy policy).attempt instruction findings =
      planner.attempt instruction findings := by
  have hrule : (planner.withPolicy policy).rule = planner.rule := rfl
  unfold attempt
  rw [hrule]
  rcases hroute : Instruction.route planner.rule instruction with plan | rejection | _
  · -- The route has a plan.
    rfl
  · -- The route rejects the instruction.
    rfl
  · rcases hscreen : Instruction.screen instruction with e | outcome
    · -- The screening fails.
      rfl
    · rcases Instruction.eq_of_screen_eq_ok hscreen with rfl | ⟨keyword, rfl⟩
      · -- Only the model could be missing.
        have hmodel : ¬ planner.usesModel = true := fun hmodel => by
          rw [asks_eq_true_iff.mpr ⟨hmodel, hroute, hscreen⟩] at h
          exact absurd h nofun
        have hmodel' : ¬ (planner.withPolicy policy).usesModel = true := hmodel
        simp only
        unfold generate
        rw [if_neg hmodel, if_neg hmodel']
        rfl
      · -- The screening finds the wording unsafe.
        rfl

theorem attempt_withoutClient_of_asks (h : planner.asks instruction = true) :
    planner.withoutClient.attempt instruction findings =
      .settled ((planner.phrasebookPlan instruction).map planner.confine) := by
  rcases asks_eq_true_iff.mp h with ⟨_, hroute, hscreen⟩
  unfold attempt
  have hrule : planner.withoutClient.rule = planner.rule := rfl
  rw [hrule, hroute, hscreen]
  rfl

variable {σ : Type}

/-- A question is asked with any policy, and what follows from the reply is up to it. -/
theorem run_withPolicy_of_asks {client : Request → StateM σ Reply} {s : σ}
    (h : planner.asks instruction = true) (policy : OnFailure) :
    (((planner.withPolicy policy).createPlan client instruction findings).run s).1 =
      ((planner.withPolicy policy).planFromReply instruction
        (planner.replyIn client s instruction findings)).map planner.confine := by
  have hasks : (planner.withPolicy policy).asks instruction = true := h
  rw [run_createPlan_of_asks hasks]
  rfl

section

variable {client : Request → StateM σ Reply} {s : σ}

/-- After a failure, one policy goes on as if there were no model, and the other hands it on. -/
theorem createPlan_of_isFailure (hasks : planner.asks instruction = true)
    (h : IsFailure planner.maxItems (planner.replyIn client s instruction findings) e) :
    (((planner.withPolicy .deterministic).createPlan client instruction findings).run s).1 =
        ((planner.withoutClient.createPlan client instruction findings).run s).1 ∧
      (((planner.withPolicy .abort).createPlan client instruction findings).run s).1 =
        .error e := by
  have hreply := planFromReply_of_isFailure h instruction
  constructor
  · rw [run_withPolicy_of_asks hasks, hreply.1]
    unfold createPlan
    rw [attempt_withoutClient_of_asks hasks]
    rfl
  · rw [run_withPolicy_of_asks hasks, hreply.2]
    rfl

theorem createPlan_of_isProposal (hasks : planner.asks instruction = true)
    (h : IsProposal planner.maxItems (planner.replyIn client s instruction findings) plan)
    (policy : OnFailure) :
    (((planner.withPolicy policy).createPlan client instruction findings).run s).1 =
      (planner.refine instruction plan).map planner.confine := by
  rw [run_withPolicy_of_asks hasks, planFromReply_of_isProposal h]

theorem createPlan_of_isExcess {count : Nat} (hasks : planner.asks instruction = true)
    (h : IsExcess planner.maxItems (planner.replyIn client s instruction findings) count)
    (policy : OnFailure) :
    (((planner.withPolicy policy).createPlan client instruction findings).run s).1 =
      .error (planner.tooMany count) := by
  rw [run_withPolicy_of_asks hasks, planFromReply_of_isExcess h]
  rfl

/-- Where the model does not fail, or is not asked, the policies agree. -/
theorem createPlan_of_not_isFailure
    (h : ∀ e, ¬ (planner.asks instruction = true ∧
      IsFailure planner.maxItems (planner.replyIn client s instruction findings) e)) :
    (((planner.withPolicy .deterministic).createPlan client instruction findings).run s).1 =
      (((planner.withPolicy .abort).createPlan client instruction findings).run s).1 := by
  by_cases hasks : planner.asks instruction = true
  · -- What is no failure is a proposal or an excess, and no policy sees either.
    rcases Answer.reply_cases planner.maxItems (planner.replyIn client s instruction findings) with
      ⟨e, hfailure⟩ | ⟨plan, hplan⟩ | ⟨count, hcount⟩
    · exact absurd ⟨hasks, hfailure⟩ (h e)
    · rw [createPlan_of_isProposal hasks hplan, createPlan_of_isProposal hasks hplan]
    · rw [createPlan_of_isExcess hasks hcount, createPlan_of_isExcess hasks hcount]
  · -- Without a question, planning is the same under both policies.
    rw [Bool.not_eq_true] at hasks
    unfold createPlan
    rw [attempt_withPolicy_of_not_asks hasks, attempt_withPolicy_of_not_asks hasks]

end

/-- The policy for failures changes nothing else. Where the model is asked and fails, one policy
    yields what there would be without a model, and the other the failure itself. Everywhere
    else both yield the same: a proposal is refined, and every error in that is handed on, and
    so is an excess. -/
theorem createPlan_fallback (planner : Planner) (client : Request → StateM σ Reply) (s : σ)
    (instruction : String) (findings : List Finding) :
    let reply := planner.replyIn client s instruction findings
    let result := fun variant : Planner =>
      ((variant.createPlan client instruction findings).run s).1
    (∀ e, planner.asks instruction = true → IsFailure planner.maxItems reply e →
      result (planner.withPolicy .deterministic) = result planner.withoutClient ∧
        result (planner.withPolicy .abort) = .error e) ∧
    ((∀ e, ¬ (planner.asks instruction = true ∧ IsFailure planner.maxItems reply e)) →
      result (planner.withPolicy .deterministic) = result (planner.withPolicy .abort)) ∧
    (∀ policy plan, planner.asks instruction = true → IsProposal planner.maxItems reply plan →
      result (planner.withPolicy policy) =
        (planner.refine instruction plan).map planner.confine) ∧
    ∀ policy count, planner.asks instruction = true → IsExcess planner.maxItems reply count →
      result (planner.withPolicy policy) = .error (planner.tooMany count) := by
  intro reply result
  refine ⟨fun e hasks hfailure => ?_, fun hnone => ?_, fun policy plan hasks hplan => ?_,
    fun policy count hasks hcount => ?_⟩
  · exact createPlan_of_isFailure hasks hfailure
  · exact createPlan_of_not_isFailure hnone
  · exact createPlan_of_isProposal hasks hplan policy
  · exact createPlan_of_isExcess hasks hcount policy

/-- The model times out, and it proposes to close what was to be opened. Both errors are of a
    kind that failures of the model have, but only the first is one. -/
theorem createPlan_fallback_notepad :
    let planner : Planner := ⟨{}, true, fun path => .ok (.ofText path)⟩
    let answer :=
      "[\x7b\"action_type\":\"close_app\",\"context\":\"desktop\",\"target\":\"notepad\"\x7d]"
    let failing : Request → StateM Unit Reply := fun _ => return .error .timeout
    let closing : Request → StateM Unit Reply := fun _ => return .ok answer
    let plan : Plan := [.action ⟨.closeApp, .desktop, some "notepad", none, none⟩]
    let lost := PlanError.ambiguousInstruction "no usable items left in plan"
    planner.asks "open notepad" = true ∧
      (IsFailure planner.maxItems (.error .timeout) (.model .timeout) ∧
        (((planner.withPolicy .deterministic).createPlan failing "open notepad" []).run ()).1 =
          ((planner.withoutClient.createPlan failing "open notepad" []).run ()).1 ∧
        (((planner.withPolicy .abort).createPlan failing "open notepad" []).run ()).1 =
          .error (.model .timeout)) ∧
      IsProposal planner.maxItems (.ok answer) plan ∧ lost.isGeneratorFailure = true ∧
      ∀ policy, (((planner.withPolicy policy).createPlan closing "open notepad" []).run ()).1 =
        .error lost := by
  intro planner answer failing closing plan lost
  have hasks : planner.asks "open notepad" = true := by decide +kernel
  have hproposed : planner.proposed (.ok answer) = .ok plan := by decide +kernel
  have hrefine : planner.refine "open notepad" plan = .error lost := by decide +kernel
  have hfailure := createPlan_fallback planner failing () "open notepad" []
  have hproposal := createPlan_fallback planner closing () "open notepad" []
  have hplan := proposed_eq_ok_iff.mp hproposed
  refine ⟨hasks, ⟨.transport _, hfailure.1 _ hasks (.transport _)⟩, hplan, rfl, fun policy => ?_⟩
  -- The proposal is answered by its refinement, which fails in the same way under any policy.
  have hresult := hproposal.2.2.1 policy plan hasks hplan
  rw [hrefine] at hresult
  exact hresult

end Planner

end ActionPlan
