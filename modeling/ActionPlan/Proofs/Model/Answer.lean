import ActionPlan.Model.Answer
import ActionPlan.Proofs.Item.Fields
import ActionPlan.Proofs.Json.Arrays
import ActionPlan.Proofs.Text.Pieces

/-!
# What an Answer Says

A model wraps its array in chatter and fences, and the array is found by two brackets: the first
one that opens and the last one that closes. Taking a fence off comes before that, in three
attempts with blanks in between, and one would have to follow which of them succeeded. There is
no need to. None of the pieces taken off holds a bracket, so the text is what is left with chatter
around it (`addsChatter_unfence`), and chatter leaves the span alone (`span?_of_addsChatter`):
what opens no bracket in front cannot move its beginning, and what closes none behind cannot move
its end. That covers brackets in strings and nested arrays as well, since nothing about the part
in between is used.

`IsSpan` says what the span is without a scan. It begins with an opening bracket, and reading JSON
from there yields an array or nothing, as the module on arrays shows. So the last case of
`Answer.plan`, where something else was read, never arises, and `IsRefusal` has no constructor for
it.

Whether a span is well formed is left to the reader of JSON. Its limits, such as the depth of
arrays and the range of numbers, count as its grammar.

## Main definitions

* `IsSpan`: From the first opening bracket to the last closing one.
* `AddsChatter`: A text with chatter around one of its parts.
* `IsRefusal`: Why an answer has no plan.

## Theorems

* `span?_eq_some_iff`: What is found is the span.
* `span?_of_addsChatter`: Chatter leaves the span alone.
* `addsChatter_unfence`: What a fence takes up is chatter.
* `items_of_mapM`, `items_of_error`: All elements are items, or the first that is none is named.
* `plan_outcome`: The plan of an answer, the reason why there is none, and that chatter changes
  neither.
-/

namespace ActionPlan

namespace Answer

open Json (Value)

/-! ### Chatter -/

/-- The text is the part with chatter around it: no bracket opens in front of the part, and none
    closes behind it. -/
def AddsChatter (text part : List Char) : Prop :=
  ∃ before after, '[' ∉ before ∧ ']' ∉ after ∧ text = before ++ (part ++ after)

variable {text part : List Char}

theorem AddsChatter.trans {inner : List Char} (h : AddsChatter text part)
    (h' : AddsChatter part inner) : AddsChatter text inner := by
  rcases h with ⟨before, after, hbefore, hafter, rfl⟩
  rcases h' with ⟨before', after', hbefore', hafter', rfl⟩
  refine ⟨before ++ before', after' ++ after, ?_, ?_, ?_⟩
  · exact List.not_mem_append hbefore hbefore'
  · exact List.not_mem_append hafter' hafter
  · simp only [List.append_assoc]

theorem addsChatter_trim (text : List Char) : AddsChatter text (Text.trim text) := by
  rcases Text.trim_spec text with ⟨before, after, hbefore, hafter, htext⟩
  exact ⟨before, after, Text.not_mem_of_isBlankText rfl hbefore, Text.not_mem_of_isBlankText rfl hafter,
    htext⟩

theorem addsChatter_withoutStart {start : String} (hstart : '[' ∉ start.toList)
    (text : List Char) : AddsChatter text (withoutStart start text) := by
  unfold withoutStart
  split
  · next hprefix =>
    rcases List.isPrefixOf_iff_prefix.mp hprefix with ⟨rest, rfl⟩
    refine ⟨start.toList, [], hstart, List.not_mem_nil, ?_⟩
    rw [List.drop_left, List.append_nil]
  · exact ⟨[], [], List.not_mem_nil, List.not_mem_nil, by rw [List.append_nil, List.nil_append]⟩

theorem addsChatter_withoutEnd {finish : String} (hfinish : ']' ∉ finish.toList)
    (text : List Char) : AddsChatter text (withoutEnd finish text) := by
  unfold withoutEnd
  split
  · next hsuffix =>
    rcases List.isSuffixOf_iff_suffix.mp hsuffix with ⟨front, rfl⟩
    refine ⟨[], finish.toList, List.not_mem_nil, hfinish, ?_⟩
    rw [List.length_append, Nat.add_sub_cancel, List.take_left, List.nil_append]
  · exact ⟨[], [], List.not_mem_nil, List.not_mem_nil, by rw [List.append_nil, List.nil_append]⟩

/-- What is taken off with a fence holds no bracket. -/
theorem addsChatter_unfence (text : List Char) : AddsChatter text (unfence text) := by
  have hmark : '[' ∉ (fence ++ "json").toList := by decide
  have hopen : '[' ∉ fence.toList := by decide
  have hclose : ']' ∉ fence.toList := by decide
  exact (addsChatter_trim text).trans <| (addsChatter_withoutStart hmark _).trans <|
    (addsChatter_withoutStart hopen _).trans <| (addsChatter_withoutEnd hclose _).trans <|
      addsChatter_trim _

/-! ### The span -/

/-- The span of a text runs from its first opening bracket to its last closing one. -/
def IsSpan (text span : List Char) : Prop :=
  ∃ before inner after, text = before ++ (span ++ after) ∧ span = '[' :: (inner ++ [']']) ∧
    '[' ∉ before ∧ ']' ∉ after

theorem dropWhile_bne {c : Char} {before : List Char} (hbefore : c ∉ before)
    (rest : List Char) : (before ++ rest).dropWhile (· != c) = rest.dropWhile (· != c) := by
  refine List.dropWhile_append_of_pos fun d hd => ?_
  rw [bne_iff_ne]
  rintro rfl
  exact hbefore hd

theorem dropEnd_bne {c : Char} {after : List Char} (hafter : c ∉ after) (rest : List Char) :
    Text.dropEnd (· != c) (rest ++ after) = Text.dropEnd (· != c) rest := by
  rw [Text.dropEnd, List.reverse_append, dropWhile_bne (List.mem_reverse.not.mpr hafter)]
  rfl

/-- Chatter leaves the span alone. -/
theorem span?_of_addsChatter (h : AddsChatter text part) : span? text = span? part := by
  rcases h with ⟨before, after, hbefore, hafter, rfl⟩
  unfold span?
  simp only
  rw [dropWhile_bne hbefore, List.dropWhile_append]
  split
  · next hnone =>
    -- Without an opening bracket in the part, one behind it has no partner.
    have hrest : Text.dropEnd (· != ']') (after.dropWhile (· != '[')) = [] := by
      have hclose : ']' ∉ after.dropWhile (· != '[') := fun hmem =>
        hafter ((List.dropWhile_suffix _).subset hmem)
      exact dropEnd_bne hclose []
    rw [hrest, List.isEmpty_iff.mp hnone]
    rfl
  · rw [dropEnd_bne hafter]

theorem span?_brackets (inner : List Char) :
    span? ('[' :: (inner ++ [']'])) = some ('[' :: (inner ++ [']'])) := by
  -- There is nothing in front of the opening bracket, and nothing behind the closing one.
  have hopen : ('[' :: (inner ++ [']'])).dropWhile (· != '[') = '[' :: (inner ++ [']']) :=
    List.dropWhile_cons_of_neg (by decide)
  have hclose : Text.dropEnd (· != ']') ('[' :: (inner ++ [']'])) = '[' :: (inner ++ [']']) := by
    rw [Text.dropEnd, ← List.cons_append, List.reverse_concat,
      List.dropWhile_cons_of_neg (by decide), ← List.reverse_concat, List.reverse_reverse]
  unfold span?
  simp only
  rw [hopen, hclose]
  rfl

/-- A character that occurs has a last occurrence. -/
theorem exists_last {c : Char} (h : c ∈ text) :
    ∃ front after, text = front ++ c :: after ∧ c ∉ after := by
  rcases List.eq_append_cons_of_mem (List.mem_reverse.mpr h) with ⟨after, front, hsplit, hafter⟩
  refine ⟨front.reverse, after.reverse, ?_, List.mem_reverse.not.mpr hafter⟩
  rw [← List.reverse_reverse text, hsplit, List.reverse_append, List.reverse_cons,
    List.append_assoc, List.singleton_append]

/-- A text has a span, or no bracket opens in it, or none closes behind the first that opens. -/
theorem span_cases (text : List Char) :
    (∃ span, IsSpan text span) ∨ '[' ∉ text ∨
      ∃ before rest, text = before ++ '[' :: rest ∧ '[' ∉ before ∧ ']' ∉ rest := by
  by_cases hopen : '[' ∈ text
  · rcases List.eq_append_cons_of_mem hopen with ⟨before, rest, rfl, hbefore⟩
    by_cases hclose : ']' ∈ rest
    · rcases exists_last hclose with ⟨inner, after, rfl, hafter⟩
      refine .inl ⟨'[' :: (inner ++ [']']), before, inner, after, ?_, rfl, hbefore, hafter⟩
      rw [List.cons_append, List.append_assoc, List.singleton_append]
    · exact .inr (.inr ⟨before, rest, rfl, hbefore, hclose⟩)
  · exact .inr (.inl hopen)

theorem span?_of_isSpan {span : List Char} (h : IsSpan text span) : span? text = some span := by
  rcases h with ⟨before, inner, after, rfl, rfl, hbefore, hafter⟩
  rw [span?_of_addsChatter ⟨before, after, hbefore, hafter, rfl⟩]
  exact span?_brackets inner

/-- What is found is the span. -/
theorem span?_eq_some_iff {span : List Char} : span? text = some span ↔ IsSpan text span := by
  refine ⟨fun h => ?_, span?_of_isSpan⟩
  rcases span_cases text with ⟨other, hspan⟩ | hopen | ⟨before, rest, rfl, hbefore, hrest⟩
  · rw [span?_of_isSpan hspan] at h
    exact Option.some.inj h ▸ hspan
  · -- The whole text is chatter.
    have hnone : AddsChatter text [] :=
      ⟨text, [], hopen, List.not_mem_nil, (List.append_nil text).symm⟩
    rw [span?_of_addsChatter hnone] at h
    exact absurd h nofun
  · -- A bracket opens, and none closes behind it.
    have hone : AddsChatter (before ++ '[' :: rest) ['['] :=
      ⟨before, rest, hbefore, hrest, rfl⟩
    rw [span?_of_addsChatter hone] at h
    exact absurd h nofun

theorem span?_eq_none_iff : span? text = none ↔ ∀ span, ¬ IsSpan text span := by
  rw [Option.eq_none_iff_forall_ne_some]
  exact forall_congr' fun span => not_congr span?_eq_some_iff

/-- Beyond its fences the text has no other span. -/
theorem isSpan_unfence_iff {span : List Char} : IsSpan (unfence text) span ↔ IsSpan text span := by
  rw [← span?_eq_some_iff, ← span?_eq_some_iff, span?_of_addsChatter (addsChatter_unfence text)]

theorem eq_array_of_isSpan {span : List Char} {v : Value} (hspan : IsSpan text span)
    (hvalue : Value.ofText? (String.ofList span) = some v) : ∃ values, v = .array values := by
  rcases hspan with ⟨_, _, _, _, rfl, _, _⟩
  exact Json.eq_array_of_ofText? hvalue

/-! ### Elements of an array -/

theorem items_of_mapM {position : Nat} {values : List Value} {plan : Plan}
    (h : values.mapM Item.ofValue = .ok plan) : items position values = .ok plan := by
  induction values generalizing position plan with
  | nil => exact congrArg Except.ok (Except.ok.inj h)
  | cons value values ih =>
      rcases mapM_cons_eq_ok_iff.mp h with ⟨item, rest, hitem, hvalues, rfl⟩
      rw [items, hitem, ih hvalues]
      rfl

/-- The first element that is no item is named with its position. -/
theorem items_of_error {position : Nat} {before after : List Value} {value : Value} {plan : Plan}
    {e : ItemError} (hbefore : before.mapM Item.ofValue = .ok plan)
    (hvalue : Item.ofValue value = .error e) :
    items position (before ++ value :: after) =
      .error (.schemaViolation (position + before.length) value.compact e) := by
  induction before generalizing position plan with
  | nil =>
      rw [List.nil_append, items, hvalue]
      rfl
  | cons first before ih =>
      rcases mapM_cons_eq_ok_iff.mp hbefore with ⟨item, rest, hitem, hitems, _⟩
      -- The position is one further for each item that is passed.
      rw [List.cons_append, items, hitem, ih hitems, List.length_cons, Nat.add_right_comm,
        Nat.add_assoc]
      rfl

theorem ofArray_of_length_le {values : List Value} {maxItems : Nat} (hne : values ≠ [])
    (hcount : values.length ≤ maxItems) :
    ofArray values maxItems = items 1 values := by
  unfold ofArray
  rw [if_neg (by rw [List.isEmpty_iff]; exact hne), if_neg (Nat.not_lt.mpr hcount)]

theorem ofArray_of_lt_length {values : List Value} {maxItems : Nat}
    (hcount : maxItems < values.length) :
    ofArray values maxItems = .error (.tooComplex (toString values.length ++ " items (max: " ++
      toString maxItems ++ "), break the task into smaller steps")) := by
  have hne : values ≠ [] := List.ne_nil_of_length_pos (Nat.zero_lt_of_lt hcount)
  unfold ofArray
  rw [if_neg (by rw [List.isEmpty_iff]; exact hne), if_pos hcount]

/-! ### The outcome -/

/-- Why an answer has no plan. Each reason presupposes that the ones before it do not apply. -/
inductive IsRefusal (answer : String) (maxItems : Nat) : PlanError → Prop
  | noSpan (hspan : ∀ span, ¬ IsSpan (unfence answer.toList) span) :
      IsRefusal answer maxItems (.malformedOutput "no JSON array found in model response")
  | noArray {span : List Char} (hspan : IsSpan (unfence answer.toList) span)
      (hvalue : ∀ values, Value.ofText? (String.ofList span) ≠ some (.array values)) :
      IsRefusal answer maxItems (.malformedOutput "invalid JSON")
  | empty {span : List Char} (hspan : IsSpan (unfence answer.toList) span)
      (hvalue : Value.ofText? (String.ofList span) = some (.array [])) :
      IsRefusal answer maxItems (.ambiguousInstruction
        "model returned an empty plan (ambiguous or unsafe instruction)")
  | tooMany {span : List Char} {values : List Value}
      (hspan : IsSpan (unfence answer.toList) span)
      (hvalue : Value.ofText? (String.ofList span) = some (.array values))
      (hcount : maxItems < values.length) :
      IsRefusal answer maxItems (.tooComplex (toString values.length ++ " items (max: " ++
        toString maxItems ++ "), break the task into smaller steps"))
  | noItem {span : List Char} {before after : List Value} {value : Value} {items : Plan}
      {e : ItemError} (hspan : IsSpan (unfence answer.toList) span)
      (hvalue : Value.ofText? (String.ofList span) = some (.array (before ++ value :: after)))
      (hcount : (before ++ value :: after).length ≤ maxItems)
      (hbefore : before.mapM Item.ofValue = .ok items) (hitem : Item.ofValue value = .error e) :
      IsRefusal answer maxItems (.schemaViolation (before.length + 1) value.compact e)

variable {answer : String} {maxItems : Nat}

theorem plan_of_isSpan {span : List Char} {values : List Value}
    (hspan : IsSpan (unfence answer.toList) span)
    (hvalue : Value.ofText? (String.ofList span) = some (.array values)) (maxItems : Nat) :
    plan answer maxItems = ofArray values maxItems := by
  unfold plan
  rw [span?_of_isSpan hspan]
  simp only
  rw [hvalue]

theorem plan_of_isRefusal {e : PlanError} (h : IsRefusal answer maxItems e) :
    plan answer maxItems = .error e := by
  cases h with
  | noSpan hspan =>
      unfold plan
      rw [span?_eq_none_iff.mpr hspan]
  | noArray hspan hvalue =>
      unfold plan
      rw [span?_of_isSpan hspan]
      simp only
      -- It could only have been read as an array.
      cases hread : Value.ofText? (String.ofList _) with
      | none => rfl
      | some v =>
          rcases eq_array_of_isSpan hspan hread with ⟨values, rfl⟩
          exact absurd hread (hvalue values)
  | empty hspan hvalue => exact plan_of_isSpan hspan hvalue maxItems
  | tooMany hspan hvalue hcount =>
      rw [plan_of_isSpan hspan hvalue, ofArray_of_lt_length hcount]
  | noItem hspan hvalue hcount hbefore hitem =>
      rw [plan_of_isSpan hspan hvalue,
        ofArray_of_length_le (List.append_ne_nil_of_right_ne_nil _ (List.cons_ne_nil _ _)) hcount,
        items_of_error hbefore hitem, Nat.add_comm]

theorem plan_of_isItems {span : List Char} {values : List Value} {items : Plan}
    (hspan : IsSpan (unfence answer.toList) span)
    (hvalue : Value.ofText? (String.ofList span) = some (.array values))
    (hone : 1 ≤ values.length) (hcount : values.length ≤ maxItems)
    (hitems : values.mapM Item.ofValue = .ok items) : plan answer maxItems = .ok items := by
  rw [plan_of_isSpan hspan hvalue,
    ofArray_of_length_le (List.ne_nil_of_length_pos hone) hcount, items_of_mapM hitems]

/-- An answer has items, or there is a reason why not. -/
theorem answer_cases (answer : String) (maxItems : Nat) :
    (∃ span values items, IsSpan (unfence answer.toList) span ∧
      Value.ofText? (String.ofList span) = some (.array values) ∧ 1 ≤ values.length ∧
      values.length ≤ maxItems ∧ values.mapM Item.ofValue = .ok items) ∨
    ∃ e, IsRefusal answer maxItems e := by
  by_cases hspan : ∃ span, IsSpan (unfence answer.toList) span
  · rcases hspan with ⟨span, hspan⟩
    by_cases hvalue : ∃ values, Value.ofText? (String.ofList span) = some (.array values)
    · rcases hvalue with ⟨values, hvalue⟩
      by_cases hcount : values.length ≤ maxItems
      · -- The bound comes before the items, so a bad one is named only within it.
        rcases mapM_cases Item.ofValue values with ⟨items, hitems⟩ |
          ⟨before, value, after, items, e, rfl, hbefore, hitem⟩
        · rcases Nat.eq_zero_or_pos values.length with hzero | hone
          · -- An array without items is refused as such.
            rw [List.length_eq_zero_iff.mp hzero] at hvalue
            exact .inr ⟨_, .empty hspan hvalue⟩
          · exact .inl ⟨span, values, items, hspan, hvalue, hone, hcount, hitems⟩
        · exact .inr ⟨_, .noItem hspan hvalue hcount hbefore hitem⟩
      · exact .inr ⟨_, .tooMany hspan hvalue (Nat.lt_of_not_le hcount)⟩
    · -- The span is no JSON, or it is some other value.
      exact .inr ⟨_, .noArray hspan fun values heq => hvalue ⟨values, heq⟩⟩
  · exact .inr ⟨_, .noSpan fun span h => hspan ⟨span, h⟩⟩

theorem plan_eq_ok_iff {items : Plan} : plan answer maxItems = .ok items ↔
    ∃ span values, IsSpan (unfence answer.toList) span ∧
      Value.ofText? (String.ofList span) = some (.array values) ∧ 1 ≤ values.length ∧
      values.length ≤ maxItems ∧ values.mapM Item.ofValue = .ok items := by
  constructor
  · intro h
    rcases answer_cases answer maxItems with
      ⟨span, values, items', hspan, hvalue, hone, hcount, hitems⟩ | ⟨e, hrefusal⟩
    · rw [plan_of_isItems hspan hvalue hone hcount hitems] at h
      exact ⟨span, values, hspan, hvalue, hone, hcount, Except.ok.inj h ▸ hitems⟩
    · -- With a reason against it there would be no plan.
      rw [plan_of_isRefusal hrefusal] at h
      exact absurd h nofun
  · rintro ⟨span, values, hspan, hvalue, hone, hcount, hitems⟩
    exact plan_of_isItems hspan hvalue hone hcount hitems

theorem plan_eq_error_iff {e : PlanError} :
    plan answer maxItems = .error e ↔ IsRefusal answer maxItems e := by
  refine ⟨fun h => ?_, plan_of_isRefusal⟩
  rcases answer_cases answer maxItems with
    ⟨span, values, items, hspan, hvalue, hone, hcount, hitems⟩ | ⟨e', hrefusal⟩
  · rw [plan_of_isItems hspan hvalue hone hcount hitems] at h
    exact absurd h nofun
  · rw [plan_of_isRefusal hrefusal] at h
    exact Except.error.inj h ▸ hrefusal

/-- What an answer says is what its span says. -/
theorem plan_congr {answer' : String} (h : span? answer.toList = span? answer'.toList)
    (maxItems : Nat) : plan answer maxItems = plan answer' maxItems := by
  have hspan : span? (unfence answer.toList) = span? (unfence answer'.toList) := by
    rw [← span?_of_addsChatter (addsChatter_unfence answer.toList), h,
      span?_of_addsChatter (addsChatter_unfence answer'.toList)]
  unfold plan
  rw [hspan]

/-- The plan of an answer consists of the items in the array between its outermost brackets. If
    there is none, the error is the first of the reasons that apply, and that something else than
    an array was read is never among them. Chatter around an answer makes no difference. -/
theorem plan_outcome (answer : String) (maxItems : Nat) :
    (∀ span, IsSpan (unfence answer.toList) span ↔ IsSpan answer.toList span) ∧
      (∀ items, plan answer maxItems = .ok items ↔
        ∃ span values, IsSpan (unfence answer.toList) span ∧
          Value.ofText? (String.ofList span) = some (.array values) ∧ 1 ≤ values.length ∧
          values.length ≤ maxItems ∧ values.mapM Item.ofValue = .ok items) ∧
      (∀ e, plan answer maxItems = .error e ↔ IsRefusal answer maxItems e) ∧
      plan answer maxItems ≠ .error (.malformedOutput "model output must be a JSON array") ∧
      ∀ before after : String, '[' ∉ before.toList → ']' ∉ after.toList →
        plan (before ++ answer ++ after) maxItems = plan answer maxItems := by
  refine ⟨fun span => isSpan_unfence_iff, fun items => plan_eq_ok_iff,
    fun e => plan_eq_error_iff, fun h => ?_, ?_⟩
  · -- No reason has this message, whatever the answer is.
    have hrefusal := plan_eq_error_iff.mp h
    generalize hmessage : PlanError.malformedOutput "model output must be a JSON array" = e
      at hrefusal
    cases hrefusal with
    | noSpan _ => exact absurd (PlanError.malformedOutput.inj hmessage) (by decide)
    | noArray _ _ => exact absurd (PlanError.malformedOutput.inj hmessage) (by decide)
    | empty _ _ => exact absurd hmessage nofun
    | tooMany _ _ _ => exact absurd hmessage nofun
    | noItem _ _ _ _ _ => exact absurd hmessage nofun
  · -- Chatter leaves the span where it is.
    intro before after hbefore hafter
    refine plan_congr (span?_of_addsChatter ⟨before.toList, after.toList, hbefore, hafter, ?_⟩) _
    rw [String.toList_append, String.toList_append, List.append_assoc]

/-- A fence that does not begin the answer, brackets in strings, and brackets in the chatter on
    the sides where they do no harm. The second element is no item. -/
theorem plan_outcome_fenced :
    let answer :=
      "[\x7b\"action_type\":\"wait\",\"context\":\"desktop\",\"target\":\"[1\"\x7d, [\"]\"]]"
    let before := "Sure, see ]:\n```json\n"
    let after := "\n```\n[done"
    '[' ∉ before.toList ∧ ']' ∉ after.toList ∧
      plan (before ++ answer ++ after) 2 = .error (.schemaViolation 2 "[\"]\"]" .notAnObject) := by
  intro answer before after
  have hbefore : '[' ∉ before.toList := by decide
  have hafter : ']' ∉ after.toList := by decide
  have hplan : plan answer 2 = .error (.schemaViolation 2 "[\"]\"]" .notAnObject) := by
    decide +kernel
  refine ⟨hbefore, hafter, ?_⟩
  rw [(plan_outcome answer 2).2.2.2.2 before after hbefore hafter, hplan]

end Answer

end ActionPlan
