import ActionPlan.Proofs.Plan.FileWording
import ActionPlan.Proofs.Text.Pieces

/-!
# What Counts as Repetition

A plan that does the same thing over and over has run away. The same thing is meant to be the same
type, target and text, but what the check compares is a single line in which the three are set side
by side, with colons between them. A colon may also stand in a field, and the word for an absent
field may be the field itself. So the line does not tell all actions apart: `Action.LooksLike` says
which ones it takes for the same, in terms of their fields (`signature_eq_iff`).

Nothing gets lost by this, since actions that are the same look alike, and every real repetition is
found. But the count may be that of several things, none of which is done too often. It is a real
one exactly if everything that looks like the reported action is the same (`checkRepetition_exact`),
and `not_countsRepetitions` has a plan in which it is not.

Several things may be done equally often, and the check reports one of them. Nothing here depends on
which: `MayReport` has all that could be reported, in whatever order they are looked at, and the
count of each of them is a real one under the same condition.

## Main definitions

* `Action.triple`: What makes two actions the same.
* `Action.LooksLike`: What makes the check take two actions for the same.
* `Plan.copies`, `Plan.lookalikes`: How many actions of a plan are the same, or look alike.
* `Plan.MayReport`: What the check could report.
* `Plan.CountsRepetitions`: The check on the plan counts what is the same.

## Theorems

* `signature_eq_iff`: Actions look alike if and only if their signatures agree.
* `exists_mostFrequent?`: The entry that is found has the greatest count.
* `checkRepetition_cases`, `exists_repetition_iff`: When the check fails.
* `mayReport_of_checkRepetition`: What it reports.
* `MayReport.count_eq_iff`: When the count of it is that of one thing.
* `checkRepetition_exact`: What the check counts, and when that is repetition.
* `not_countsRepetitions`: A colon that moves from a text to a target, and a missing target.
-/

namespace ActionPlan

/-! ### Signatures -/

namespace Action

/-- What makes two actions the same: type, target and text. -/
def triple (action : Action) : ActionKind × Option String × Option String :=
  (action.kind, action.target, action.text)

/-- A field as it stands in a signature, with a word in place of what is absent. -/
def written (field : Option String) : List Char :=
  (field.getD "None").toList

/-- What makes the check take two actions for the same. They are of one type, and as they are
    written their targets and texts agree, or the target of one of them ends at a colon that is
    within the target of the other. -/
inductive LooksLike (a b : Action) : Prop
  | agreeing (hkind : a.kind = b.kind) (htarget : written a.target = written b.target)
      (htext : written a.text = written b.text)
  | before {moved : List Char} (hkind : a.kind = b.kind)
      (htarget : written b.target = written a.target ++ ':' :: moved)
      (htext : written a.text = moved ++ ':' :: written b.text)
  | behind {moved : List Char} (hkind : a.kind = b.kind)
      (htarget : written a.target = written b.target ++ ':' :: moved)
      (htext : written b.text = moved ++ ':' :: written a.text)

theorem toList_signature (action : Action) : action.signature.toList =
    action.kind.name.toList ++ ':' :: (written action.target ++ ':' :: written action.text) := by
  unfold signature written
  simp only [String.toList_append, List.append_assoc]
  rfl

theorem colon_not_mem_name (kind : ActionKind) : ':' ∉ kind.name.toList := by
  cases kind <;> decide

theorem name_inj {kind other : ActionKind} (h : kind.name = other.name) : kind = other := by
  revert h
  cases kind <;> cases other <;> decide

variable {a b : Action}

/-- Actions look alike if and only if their signatures agree. The name of a type has no colon, so
    only the two fields behind it can be mistaken for each other. -/
theorem signature_eq_iff : a.signature = b.signature ↔ LooksLike a b := by
  have hfields : a.signature = b.signature ↔ a.kind.name.toList = b.kind.name.toList ∧
      written a.target ++ ':' :: written a.text = written b.target ++ ':' :: written b.text := by
    rw [← String.toList_inj, toList_signature, toList_signature, append_mark_eq_iff]
    constructor
    · -- The one name would be the other with a colon and more behind it.
      rintro (h | ⟨moved, hname, -⟩ | ⟨moved, hname, -⟩)
      · exact h
      · refine absurd ?_ (colon_not_mem_name b.kind)
        rw [hname]
        exact List.mem_append_right _ List.mem_cons_self
      · refine absurd ?_ (colon_not_mem_name a.kind)
        rw [hname]
        exact List.mem_append_right _ List.mem_cons_self
    · exact .inl
  rw [hfields, append_mark_eq_iff, String.toList_inj]
  constructor
  · rintro ⟨hname, ⟨htarget, htext⟩ | ⟨moved, htarget, htext⟩ | ⟨moved, htarget, htext⟩⟩
    · exact .agreeing (name_inj hname) htarget htext
    · exact .before (name_inj hname) htarget htext
    · exact .behind (name_inj hname) htarget htext
  · rintro (⟨hkind, htarget, htext⟩ | ⟨hkind, htarget, htext⟩ | ⟨hkind, htarget, htext⟩)
    · exact ⟨congrArg _ hkind, .inl ⟨htarget, htext⟩⟩
    · exact ⟨congrArg _ hkind, .inr (.inl ⟨_, htarget, htext⟩)⟩
    · exact ⟨congrArg _ hkind, .inr (.inr ⟨_, htarget, htext⟩)⟩

instance (a b : Action) : Decidable (LooksLike a b) :=
  decidable_of_iff (a.signature = b.signature) signature_eq_iff

/-- What is the same looks alike. -/
theorem looksLike_of_triple_eq (h : a.triple = b.triple) : LooksLike a b := by
  rcases Prod.mk.inj h with ⟨hkind, hfields⟩
  rcases Prod.mk.inj hfields with ⟨htarget, htext⟩
  exact .agreeing hkind (by rw [htarget]) (by rw [htext])

end Action

namespace Plan

/-! ### Counting -/

variable {plan : Plan}

/-- How many actions of the plan have the triple. -/
def copies (plan : Plan) (triple : ActionKind × Option String × Option String) : Nat :=
  plan.actions.countP (·.triple = triple)

/-- How many actions of the plan look like the action. -/
def lookalikes (plan : Plan) (action : Action) : Nat :=
  plan.actions.countP (Action.LooksLike action)

/-- Looking alike is having the same signature, so it may be counted there. -/
theorem count_signature (action : Action) :
    (plan.actions.map Action.signature).count action.signature = plan.lookalikes action := by
  unfold lookalikes
  rw [List.count, List.countP_map]
  refine List.countP_congr fun other _ => ?_
  rw [Function.comp_apply, beq_iff_eq, decide_eq_true_iff, ← Action.signature_eq_iff, eq_comm]

theorem mem_signatureCounts_iff {entry : String × Nat} : entry ∈ plan.signatureCounts ↔
    ∃ action ∈ plan.actions, (action.signature, plan.lookalikes action) = entry := by
  unfold signatureCounts
  simp only [List.map_map, List.mem_map, Function.comp_apply, count_signature]

/-- Things that are the same look alike, so there are no more of them. -/
theorem copies_le_lookalikes (action : Action) :
    plan.copies action.triple ≤ plan.lookalikes action := by
  refine List.countP_mono_left fun other _ hsame => ?_
  rw [decide_eq_true_iff] at hsame ⊢
  exact Action.looksLike_of_triple_eq hsame.symm

/-- The count is that of copies if everything that looks alike is the same. -/
theorem copies_eq_lookalikes_iff {action : Action} :
    plan.copies action.triple = plan.lookalikes action ↔
      ∀ other ∈ plan.actions, action.LooksLike other → action.triple = other.triple := by
  constructor
  · intro hcount other hmem hlike
    -- The copies are among the lookalikes, and there are as many of them.
    have hsublist : (plan.actions.filter (·.triple = action.triple)).Sublist
        (plan.actions.filter (Action.LooksLike action)) := by
      refine List.monotone_filter_right _ fun other hsame => ?_
      rw [decide_eq_true_iff] at hsame ⊢
      exact Action.looksLike_of_triple_eq hsame.symm
    have heq := hsublist.eq_of_length <| by
      rw [← List.countP_eq_length_filter, ← List.countP_eq_length_filter]
      exact hcount
    have hfilter : other ∈ plan.actions.filter (Action.LooksLike action) :=
      List.mem_filter.mpr ⟨hmem, decide_eq_true hlike⟩
    rw [← heq, List.mem_filter, decide_eq_true_iff] at hfilter
    exact hfilter.2.symm
  · intro hall
    refine List.countP_congr fun other hmem => ?_
    rw [decide_eq_true_iff, decide_eq_true_iff]
    exact ⟨fun hsame => Action.looksLike_of_triple_eq hsame.symm,
      fun hlike => (hall other hmem hlike).symm⟩

/-- If there are entries, one with the greatest count is found. -/
theorem exists_mostFrequent? {entries : List (String × Nat)} (hne : entries ≠ []) :
    ∃ most ∈ entries, mostFrequent? entries = some most ∧ ∀ entry ∈ entries, entry.2 ≤ most.2 := by
  induction entries with
  | nil => exact absurd rfl hne
  | cons first entries ih =>
      by_cases hrest : entries = []
      · rw [hrest]
        refine ⟨first, List.mem_cons_self, rfl, fun entry hentry => ?_⟩
        exact Nat.le_of_eq (congrArg Prod.snd (List.mem_singleton.mp hentry))
      · rcases ih hrest with ⟨other, hmem, hother, hle⟩
        unfold mostFrequent?
        rw [hother]
        simp only
        split
        · -- The first entry counts for less than the greatest of the others.
          next hless =>
          refine ⟨other, List.mem_cons_of_mem first hmem, rfl, ?_⟩
          intro entry hentry
          rcases List.mem_cons.mp hentry with rfl | hlater
          · exact Nat.le_of_lt hless
          · exact hle entry hlater
        · -- The first entry counts for as much as any other.
          next hless =>
          refine ⟨first, List.mem_cons_self, rfl, ?_⟩
          intro entry hentry
          rcases List.mem_cons.mp hentry with rfl | hlater
          · exact Nat.le_refl _
          · exact Nat.le_trans (hle entry hlater) (Nat.le_of_not_lt hless)

/-! ### The check -/

/-- What the check makes of a plan that is not empty. It passes the plan if no action has too many
    lookalikes, and otherwise it reports one that has the most. -/
theorem checkRepetition_cases (hne : plan ≠ []) :
    ((∀ action ∈ plan.actions, plan.lookalikes action ≤ maxIdentical) ∧
      plan.checkRepetition = .ok ()) ∨
    ∃ action ∈ plan.actions, maxIdentical < plan.lookalikes action ∧
      (∀ other ∈ plan.actions, plan.lookalikes other ≤ plan.lookalikes action) ∧
      plan.checkRepetition = .error (.repetition action.signature (plan.lookalikes action)) := by
  by_cases hidle : plan.signatureCounts = []
  · -- Without actions there is nothing to count.
    refine .inl ⟨fun action hmem => ?_, ?_⟩
    · have hentry := mem_signatureCounts_iff.mpr ⟨action, hmem, rfl⟩
      rw [hidle] at hentry
      exact absurd hentry List.not_mem_nil
    · unfold checkRepetition
      rw [checkNotEmpty_eq_ok_iff.mpr hne, hidle]
      rfl
  · rcases exists_mostFrequent? hidle with ⟨most, hmost, hfound, hle⟩
    rcases mem_signatureCounts_iff.mp hmost with ⟨action, hmem, rfl⟩
    -- Every action has an entry, with the number of its lookalikes.
    have hgreatest : ∀ other ∈ plan.actions, plan.lookalikes other ≤ plan.lookalikes action :=
      fun other hother => hle _ (mem_signatureCounts_iff.mpr ⟨other, hother, rfl⟩)
    have hcheck : plan.checkRepetition = if maxIdentical < plan.lookalikes action
        then .error (.repetition action.signature (plan.lookalikes action)) else .ok () := by
      unfold checkRepetition
      rw [checkNotEmpty_eq_ok_iff.mpr hne, hfound]
      rfl
    rw [hcheck]
    split
    · next hmany => exact .inr ⟨action, hmem, hmany, hgreatest, rfl⟩
    · next hfew =>
      exact .inl ⟨fun other hother => Nat.le_trans (hgreatest other hother) (Nat.le_of_not_lt hfew),
        rfl⟩

/-- The check fails for repetition if and only if some action has too many lookalikes. -/
theorem exists_repetition_iff :
    (∃ signature count, plan.checkRepetition = .error (.repetition signature count)) ↔
      ∃ action ∈ plan.actions, maxIdentical < plan.lookalikes action := by
  by_cases hne : plan = []
  · rw [hne]
    exact iff_of_false (fun ⟨_, _, h⟩ => nomatch h) (fun ⟨_, hmem, _⟩ => nomatch hmem)
  · rcases checkRepetition_cases hne with ⟨hfew, hcheck⟩ | ⟨action, hmem, hmany, -, hcheck⟩
    · -- The plan passes, and then no action has too many.
      rw [hcheck]
      refine iff_of_false (fun ⟨_, _, h⟩ => nomatch h) ?_
      rintro ⟨action, hmem, hmany⟩
      exact absurd hmany (Nat.not_lt_of_le (hfew action hmem))
    · exact iff_of_true ⟨_, _, hcheck⟩ ⟨action, hmem, hmany⟩

/-- The check could report the signature with the count: it is too high, and no other is higher.
    Several signatures may have it, and then the order in which they are looked at decides. -/
structure MayReport (plan : Plan) (signature : String) (count : Nat) : Prop where
  mem : (signature, count) ∈ plan.signatureCounts
  many : maxIdentical < count
  greatest : ∀ entry ∈ plan.signatureCounts, entry.2 ≤ count

/-- What is reported could be reported. -/
theorem mayReport_of_checkRepetition {signature : String} {count : Nat}
    (h : plan.checkRepetition = .error (.repetition signature count)) :
    plan.MayReport signature count := by
  by_cases hne : plan = []
  · -- A plan that is empty fails for another reason.
    rw [hne] at h
    exact absurd h nofun
  · rcases checkRepetition_cases hne with ⟨-, hcheck⟩ | ⟨action, hmem, hmany, hmost, hcheck⟩
    · -- The plan passes, so nothing is reported.
      rw [hcheck] at h
      exact absurd h nofun
    · rw [hcheck] at h
      rcases PlanFault.repetition.inj (Except.error.inj h) with ⟨rfl, rfl⟩
      -- The reported action has an entry, which is the greatest of all.
      refine ⟨mem_signatureCounts_iff.mpr ⟨action, hmem, rfl⟩, hmany, fun entry hentry => ?_⟩
      rcases mem_signatureCounts_iff.mp hentry with ⟨other, hother, rfl⟩
      exact hmost other hother

variable {signature : String} {count : Nat}

/-- What could be reported is the signature of an action, with the number of its lookalikes. -/
theorem MayReport.exists_action (h : plan.MayReport signature count) :
    ∃ action ∈ plan.actions, action.signature = signature ∧ plan.lookalikes action = count := by
  rcases mem_signatureCounts_iff.mp h.mem with ⟨action, hmem, hentry⟩
  rcases Prod.mk.inj hentry with ⟨hsignature, hcount⟩
  exact ⟨action, hmem, hsignature, hcount⟩

/-- Where something could be reported, something is, and with the same count. -/
theorem MayReport.exists_repetition (h : plan.MayReport signature count) :
    ∃ reported, plan.checkRepetition = .error (.repetition reported count) := by
  rcases h.exists_action with ⟨action, hmem, -, hcount⟩
  have hmany : maxIdentical < plan.lookalikes action := hcount ▸ h.many
  rcases exists_repetition_iff.mpr ⟨action, hmem, hmany⟩ with ⟨reported, most, hfails⟩
  have hreported := mayReport_of_checkRepetition hfails
  -- Neither of the two counts is higher than the other.
  have hsame : most = count :=
    Nat.le_antisymm (h.greatest _ hreported.mem) (hreported.greatest _ h.mem)
  exact ⟨reported, hsame ▸ hfails⟩

/-- The count of what could be reported is that of one thing if and only if everything with the
    signature is the same. -/
theorem MayReport.count_eq_iff (h : plan.MayReport signature count) :
    (∃ action ∈ plan.actions, action.signature = signature ∧
        maxIdentical < plan.copies action.triple ∧ count = plan.copies action.triple) ↔
      ∀ action ∈ plan.actions, ∀ other ∈ plan.actions, action.signature = signature →
        action.LooksLike other → action.triple = other.triple := by
  rcases h.exists_action with ⟨reported, hreported, hsame, hlookalikes⟩
  constructor
  · rintro ⟨real, hreal, hsignature, -, hcount⟩
    -- What is counted has as many lookalikes as the action that is reported, so they are all copies.
    have hcopies : plan.copies real.triple = plan.lookalikes real := by
      rw [← hcount, ← hlookalikes, ← count_signature, ← count_signature, hsame, hsignature]
    have hsole := copies_eq_lookalikes_iff.mp hcopies
    intro action hmem other hother haction hlike
    rw [← Action.signature_eq_iff] at hlike
    rw [← hsole action hmem (Action.signature_eq_iff.mp (hsignature.trans haction.symm)),
      ← hsole other hother (Action.signature_eq_iff.mp
        (hsignature.trans (haction.symm.trans hlike)))]
  · intro hreal
    have hcopies : plan.copies reported.triple = plan.lookalikes reported :=
      copies_eq_lookalikes_iff.mpr fun other hother =>
        hreal reported hreported other hother hsame
    have hmany := h.many
    rw [← hlookalikes, ← hcopies] at hmany ⊢
    exact ⟨reported, hreported, hsame, hmany, rfl⟩

/-- What is done too often is done by an action of the plan. -/
theorem exists_of_copies {triple : ActionKind × Option String × Option String}
    (h : maxIdentical < plan.copies triple) :
    ∃ action ∈ plan.actions, action.triple = triple := by
  rcases List.countP_pos_iff.mp (Nat.lt_of_le_of_lt (Nat.zero_le _) h) with ⟨action, hmem, hsame⟩
  exact ⟨action, hmem, decide_eq_true_iff.mp hsame⟩

/-- The check on the plan counts what is the same: it fails for repetition if something is done
    more often than is allowed, and only then, and the count it reports is that of such a thing. -/
structure CountsRepetitions (plan : Plan) : Prop where
  fails_iff : (∃ signature count, plan.checkRepetition = .error (.repetition signature count)) ↔
    ∃ triple, maxIdentical < plan.copies triple
  count_eq : ∀ signature count, plan.checkRepetition = .error (.repetition signature count) →
    ∃ action ∈ plan.actions, action.signature = signature ∧
      maxIdentical < plan.copies action.triple ∧ count = plan.copies action.triple

/-- The check counts lookalikes. No repetition gets past it, but what it reports is a repetition
    only if nothing else looks like it. The same is true of everything that it could report. -/
theorem checkRepetition_exact (plan : Plan) :
    ((∃ signature count, plan.checkRepetition = .error (.repetition signature count)) ↔
      ∃ action ∈ plan.actions, maxIdentical < plan.lookalikes action) ∧
    ((∃ triple, maxIdentical < plan.copies triple) →
      ∃ signature count, plan.checkRepetition = .error (.repetition signature count)) ∧
    (plan.CountsRepetitions ↔
      ∀ signature count, plan.checkRepetition = .error (.repetition signature count) →
        ∀ action ∈ plan.actions, ∀ other ∈ plan.actions, action.signature = signature →
          action.LooksLike other → action.triple = other.triple) ∧
    (∀ signature count, plan.checkRepetition = .error (.repetition signature count) →
      plan.MayReport signature count) ∧
    ∀ signature count, plan.MayReport signature count →
      (∃ reported, plan.checkRepetition = .error (.repetition reported count)) ∧
      ((∃ action ∈ plan.actions, action.signature = signature ∧
          maxIdentical < plan.copies action.triple ∧ count = plan.copies action.triple) ↔
        ∀ action ∈ plan.actions, ∀ other ∈ plan.actions, action.signature = signature →
          action.LooksLike other → action.triple = other.triple) := by
  have hfound : (∃ triple, maxIdentical < plan.copies triple) →
      ∃ signature count, plan.checkRepetition = .error (.repetition signature count) := by
    rintro ⟨triple, hmany⟩
    rcases exists_of_copies hmany with ⟨action, hmem, rfl⟩
    exact exists_repetition_iff.mpr
      ⟨action, hmem, Nat.lt_of_lt_of_le hmany (copies_le_lookalikes action)⟩
  refine ⟨exists_repetition_iff, hfound, ⟨?_, ?_⟩, fun _ _ => mayReport_of_checkRepetition,
    fun _ _ h => ⟨h.exists_repetition, h.count_eq_iff⟩⟩
  · intro hcounts signature count hfails
    exact (mayReport_of_checkRepetition hfails).count_eq_iff.mp
      (hcounts.count_eq signature count hfails)
  · intro hreal
    have hcount : ∀ signature count, plan.checkRepetition = .error (.repetition signature count) →
        ∃ action ∈ plan.actions, action.signature = signature ∧
          maxIdentical < plan.copies action.triple ∧ count = plan.copies action.triple :=
      fun signature count hfails => (mayReport_of_checkRepetition hfails).count_eq_iff.mpr
        (hreal signature count hfails)
    -- A count that is real is that of something done too often.
    refine ⟨⟨?_, hfound⟩, hcount⟩
    rintro ⟨signature, count, hfails⟩
    rcases hcount signature count hfails with ⟨action, -, -, hmany, -⟩
    exact ⟨action.triple, hmany⟩

/-- Two fields of a form, filled in twice each, are taken for one thing that is done four times, and
    so are keystrokes that go to no target and ones that go to a target of that name. -/
theorem not_countsRepetitions :
    let field (target text : String) : Item :=
      .action ⟨.typeText, .web, some target, some text, none⟩
    let form : Plan := [field "a" "b:c", field "a:b" "c", field "a" "b:c", field "a:b" "c"]
    let keys (target : Option String) : Item := .action ⟨.typeText, .desktop, target, some "x", none⟩
    let keyboard : Plan := [keys none, keys (some "None"), keys none, keys (some "None")]
    (form.IsValid ∧ (∀ action ∈ form.actions, form.copies action.triple = 2) ∧
      form.checkRepetition = .error (.repetition "type_text:a:b:c" 4) ∧
      ¬ form.CountsRepetitions) ∧
    (keyboard.IsValid ∧ (∀ action ∈ keyboard.actions, keyboard.copies action.triple = 2) ∧
      keyboard.checkRepetition = .error (.repetition "type_text:None:x" 4) ∧
      ¬ keyboard.CountsRepetitions) := by
  intro field form keys keyboard
  -- Nothing is done more than three times where every action occurs twice.
  have hunreal : ∀ {plan : Plan} {signature : String},
      (∀ action ∈ plan.actions, plan.copies action.triple = 2) →
      plan.checkRepetition = .error (.repetition signature 4) → ¬ plan.CountsRepetitions := by
    intro plan signature htwice hfails hcounts
    rcases hcounts.fails_iff.mp ⟨_, _, hfails⟩ with ⟨triple, hmany⟩
    rcases exists_of_copies hmany with ⟨action, hmem, rfl⟩
    rw [htwice action hmem] at hmany
    exact absurd hmany (by decide)
  have hform : ∀ action ∈ form.actions, form.copies action.triple = 2 := by decide +kernel
  have hkeyboard : ∀ action ∈ keyboard.actions, keyboard.copies action.triple = 2 := by
    decide +kernel
  have hformFails : form.checkRepetition = .error (.repetition "type_text:a:b:c" 4) := by
    decide +kernel
  have hkeyboardFails : keyboard.checkRepetition = .error (.repetition "type_text:None:x" 4) := by
    decide +kernel
  refine ⟨⟨?_, hform, hformFails, hunreal hform hformFails⟩,
    ⟨?_, hkeyboard, hkeyboardFails, hunreal hkeyboard hkeyboardFails⟩⟩
  · intro item hmem
    simp only [form, field, List.mem_cons, List.not_mem_nil, or_false] at hmem
    rcases hmem with rfl | rfl | rfl | rfl
    all_goals exact ⟨rfl, by decide +kernel, by decide +kernel⟩
  · intro item hmem
    simp only [keyboard, keys, List.mem_cons, List.not_mem_nil, or_false] at hmem
    rcases hmem with rfl | rfl | rfl | rfl
    all_goals exact ⟨rfl, by decide +kernel, by decide +kernel⟩

end Plan

end ActionPlan
