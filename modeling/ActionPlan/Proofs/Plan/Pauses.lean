import ActionPlan.Proofs.Plan.Refinement
import Mathlib.Data.List.Chain

/-!
# Pauses in Front of Closes

A close directly behind typing can take away what was just typed, so it gets a pause in front of
it. The pauses are put in between what the model put next to each other, and the closes are moved
to the end afterwards. That order is deliberate, and it has a price: moving a close away from its
pause, or moving what stood between typing and a close, can bring the two together again.

It happens in one case only. Closes leave their pauses behind, so wherever a close followed typing,
the typing is followed by a pause in the end (`pause_stays`). Behind repair only the first close
has something other than a close in front of it, and that is the last item that is no close. Had
a close followed this item, there would be a pause behind it, and the pause would be the last. So
it types only if it was the last item of the plan, and all closes were in front of it
(`hasHastyClose_repair`).

The proof goes from the end of the plan. Completing saves and pausing may change what the last
item is, but not whether it types: a shortcut types, and its completion ends with a key.

## Main definitions

* `Plan.HasHastyClose`: A close comes directly behind typing.
* `Plan.IsPatient`: No close does.
* `Plan.endsTyping`: The last item types.

## Theorems

* `hasHastyClose_iff`: A plan has a hasty close, or it is patient.
* `pauseBeforeCloses_isPatient`: Pausing leaves no close directly behind typing.
* `endsTyping_pauseBeforeCloses`, `endsTyping_completeSaves`: Passes that keep whether the last
  item types.
* `endsTyping_filter`: In a patient plan, the closes may be taken out.
* `hasHastyClose_repair`: The plans that repair leaves with a close directly behind typing.
-/

namespace ActionPlan

namespace Plan

/-- A close comes directly behind typing. -/
def HasHastyClose (plan : Plan) : Prop :=
  ∃ before typing close after, plan = before ++ typing :: close :: after ∧
    typing.isKind .typeText = true ∧ close.isClose = true

/-- No close comes directly behind typing. -/
def IsPatient (plan : Plan) : Prop :=
  plan.IsChain fun item next => item.isKind .typeText = true → next.isClose = false

/-- The last item types. -/
def endsTyping (plan : Plan) : Bool :=
  plan.getLast?.any (·.isKind .typeText)

variable {plan : Plan}

theorem hasHastyClose_iff : plan.HasHastyClose ↔ ¬ plan.IsPatient := by
  unfold IsPatient
  rw [List.isChain_iff_forall_rel_of_append_cons_cons]
  constructor
  · rintro ⟨before, typing, close, after, hplan, htyping, hclose⟩ hpatient
    rw [hpatient hplan htyping] at hclose
    exact absurd hclose nofun
  · -- With no hasty close, no item behind one that types is a close.
    intro hnot
    by_contra hnone
    refine hnot fun typing close before after hplan htyping => ?_
    by_contra hclose
    rw [Bool.not_eq_false] at hclose
    exact hnone ⟨before, typing, close, after, hplan, htyping, hclose⟩

instance : Decidable plan.IsPatient :=
  inferInstanceAs (Decidable (List.IsChain _ plan))

instance : Decidable plan.HasHastyClose :=
  decidable_of_iff _ hasHastyClose_iff.symm

/-! ### Pausing -/

theorem pauseBeforeCloses_isPatient (plan : Plan) : (pauseBeforeCloses plan).IsPatient := by
  unfold IsPatient
  induction plan with
  | nil => exact List.isChain_nil
  | cons item items ih =>
      cases items with
      | nil => exact List.isChain_singleton item
      | cons next items =>
          -- The pass never changes the first item of a plan.
          rcases pauseBeforeCloses_cons "" next items with ⟨rest, hrest, _⟩
          rw [hrest] at ih
          rw [pauseBeforeCloses, hrest]
          split
          · -- The pause is no close, and it does not type.
            have hsilent : ¬ (Item.action (.waitFor "2.0")).isKind .typeText = true :=
              Bool.false_ne_true
            exact List.isChain_cons_cons.mpr
              ⟨fun _ => rfl, List.isChain_cons_cons.mpr ⟨fun h => absurd h hsilent, ih⟩⟩
          · -- No pause was put in, so there is no typing or no close.
            next hcalm =>
            refine List.isChain_cons_cons.mpr ⟨fun htyping => ?_, ih⟩
            rw [htyping, Bool.true_and, Bool.not_eq_true] at hcalm
            exact hcalm

theorem getLast?_pauseBeforeCloses (plan : Plan) :
    (pauseBeforeCloses plan).getLast? = plan.getLast? := by
  induction plan with
  | nil => rfl
  | cons item items ih =>
      cases items with
      | nil => rfl
      | cons next items =>
          -- There is something behind the first item, with a pause in between or not.
          rcases pauseBeforeCloses_cons "" next items with ⟨rest, hrest, _⟩
          rw [hrest] at ih
          rw [pauseBeforeCloses, hrest, List.getLast?_cons_cons, ← ih]
          split
          · rw [List.getLast?_cons_cons, List.getLast?_cons_cons]
          · rw [List.getLast?_cons_cons]

theorem endsTyping_pauseBeforeCloses (plan : Plan) :
    (pauseBeforeCloses plan).endsTyping = plan.endsTyping := by
  unfold endsTyping
  rw [getLast?_pauseBeforeCloses]

/-- Closes that follow typing directly leave a pause where they were. -/
theorem pause_stays (before : Plan) {typing close : Item} (after : Plan)
    (htyping : typing.isKind .typeText = true) (hclose : close.isClose = true) :
    ∃ back, closesLast (pauseBeforeCloses (before ++ typing :: close :: after)) =
      (pauseBeforeCloses before).filter (!·.isClose) ++
        typing :: .action (.waitFor "2.0") :: back := by
  -- What types is no close, so it is not moved to the end, and neither is the pause.
  have hopen : typing.isClose = false := Item.isClose_eq_false_of_typing htyping
  have hpause : pauseBeforeCloses (typing :: close :: after) =
      typing :: .action (.waitFor "2.0") :: pauseBeforeCloses (close :: after) := by
    rw [pauseBeforeCloses, htyping, hclose]
    rfl
  have hfilter : (typing :: .action (.waitFor "2.0") :: pauseBeforeCloses (close :: after)).filter
      (!·.isClose) = typing :: .action (.waitFor "2.0") ::
        (pauseBeforeCloses (close :: after)).filter (!·.isClose) := by
    rw [List.filter_cons_of_pos (by rw [hopen]; rfl), List.filter_cons_of_pos rfl]
  refine ⟨(pauseBeforeCloses (close :: after)).filter (!·.isClose) ++
    (pauseBeforeCloses (before ++ typing :: close :: after)).filter (·.isClose), ?_⟩
  rw [closesLast, pauseBeforeCloses_append before hopen, hpause, List.filter_append, hfilter,
    List.append_assoc, List.cons_append, List.cons_append]

/-! ### The last item -/

theorem endsTyping_concat (items : Plan) (item : Item) :
    endsTyping (items ++ [item]) = item.isKind .typeText := by
  unfold endsTyping
  rw [List.getLast?_concat]
  rfl

/-- What comes in front of something does not matter. -/
theorem endsTyping_append {items : Plan} (h : items ≠ []) (front : Plan) :
    endsTyping (front ++ items) = endsTyping items := by
  unfold endsTyping
  rw [List.getLast?_append_of_ne_nil front h]

/-- In a patient plan the item in front of the closes at the end does not type, so whether the
    last item types is not changed by taking the closes out. -/
theorem endsTyping_filter (h : plan.IsPatient) :
    endsTyping (plan.filter (!·.isClose)) = endsTyping plan := by
  unfold IsPatient at h
  induction plan using List.reverseRecOn with
  | nil => rfl
  | append_singleton items item ih =>
      rcases List.isChain_append.mp h with ⟨hitems, _, hlast⟩
      rw [List.filter_append, endsTyping_concat]
      by_cases hclose : item.isClose = true
      · -- Neither a close at the end types, nor the item in front of it.
        have hsilent : item.isKind .typeText = false := by
          by_contra htypes
          rw [Bool.not_eq_false] at htypes
          rw [Item.isClose_eq_false_of_typing htypes] at hclose
          exact absurd hclose nofun
        have hcalm : endsTyping items = false := by
          by_contra hends
          rw [Bool.not_eq_false] at hends
          rcases (Option.any_eq_true _ _).mp hends with ⟨other, hother, htypes⟩
          rw [hlast other hother item rfl htypes] at hclose
          exact absurd hclose nofun
        rw [List.filter_cons_of_neg (by rw [hclose]; exact nofun), List.filter_nil,
          List.append_nil, ih hitems, hcalm, hsilent]
      · -- The last item stays, and it decides on both sides.
        rw [List.filter_cons_of_pos (by rw [Bool.eq_false_iff.mpr hclose]; rfl), List.filter_nil,
          endsTyping_concat]

theorem IsFilledFrom.endsTyping_eq {original : Plan} (h : plan.IsFilledFrom original) :
    endsTyping plan = endsTyping original := by
  induction h with
  | nil => rfl
  | @cons before after befores afters hitem hitems ih =>
      by_cases hnil : befores = []
      · -- The item is the last one, and filling in a target does not change its kind.
        rw [hnil, List.forall₂_nil_left_iff] at hitems
        rw [hnil, hitems]
        exact Item.IsFilledFrom.eq_of (f := (·.isKind .typeText)) (fun _ _ => rfl) hitem
      · -- There are items behind it, and the last of them decides.
        have hnil' : afters ≠ [] := by
          rintro rfl
          exact hnil (List.forall₂_nil_right_iff.mp hitems)
        have hplan := endsTyping_append hnil' [after]
        have horiginal := endsTyping_append hnil [before]
        exact hplan.trans (ih.trans horiginal.symm)

theorem endsTyping_completeSavesWith (name : String) (plan : Plan) :
    endsTyping (completeSavesWith name plan) = endsTyping plan := by
  induction plan with
  | nil => rfl
  | cons item items ih =>
      cases items with
      | nil =>
          rw [completeSavesWith]
          split
          · next hbare =>
            -- The shortcut types, and so does what is put in last.
            have hshortcut := (Bool.and_eq_true_iff.mp hbare).1
            exact (Item.isKind_of_isSaveShortcut hshortcut).symm
          · rfl
      | cons next items =>
          have hne : completeSavesWith name (next :: items) ≠ [] := fun hnil =>
            List.cons_ne_nil next items (completeSavesWith_eq_nil_iff.mp hnil)
          have hlater := endsTyping_append (List.cons_ne_nil next items) [item]
          rw [List.singleton_append] at hlater
          rw [completeSavesWith, hlater, ← ih]
          split
          · exact endsTyping_append hne (item :: saveCompletion name)
          · exact endsTyping_append hne [item]

/-- Completing the saves does not change whether the last item types, up to shortcuts that are
    dropped. -/
theorem endsTyping_completeSaves (plan : Plan) (instruction : String) :
    endsTyping (completeSaves plan instruction) =
      endsTyping (plan.filter (·.outlivesSaving instruction)) := by
  by_cases hasked : Text.mentions (Instruction.lowered instruction) "save" = true
  · rw [completeSaves_of_asked hasked, filter_outlivesSaving_of_asked hasked,
      endsTyping_completeSavesWith]
  · rw [Bool.not_eq_true] at hasked
    rw [completeSaves_of_unasked hasked, filter_outlivesSaving_of_unasked hasked]

/-! ### Moving the closes -/

/-- With the closes moved, there is one place left where a close can come behind typing. -/
theorem hasHastyClose_closesLast :
    (closesLast plan).HasHastyClose ↔
      endsTyping (plan.filter (!·.isClose)) = true ∧ ∃ item ∈ plan, item.isClose = true := by
  -- Each of the two groups is patient, so all depends on where they meet.
  have hothers : IsPatient (plan.filter (!·.isClose)) := by
    refine List.Pairwise.isChain (List.pairwise_of_forall_mem_list ?_)
    intro item _ next hnext _
    rw [← Bool.not_eq_true']
    exact (List.mem_filter.mp hnext).2
  have hcloses : IsPatient (plan.filter (·.isClose)) := by
    refine List.Pairwise.isChain (List.pairwise_of_forall_mem_list ?_)
    intro item hitem next _ htyping
    have hclose := (List.mem_filter.mp hitem).2
    rw [Item.isClose_eq_false_of_typing htyping] at hclose
    exact absurd hclose nofun
  rw [hasHastyClose_iff, IsPatient, closesLast, List.isChain_append]
  constructor
  · intro hnot
    by_contra hnone
    refine hnot ⟨hothers, hcloses, fun item hitem next hnext htyping => ?_⟩
    refine absurd ⟨?_, next, List.mem_filter.mp (List.mem_of_mem_head? hnext)⟩ hnone
    unfold endsTyping
    rw [Option.mem_def.mp hitem]
    exact htyping
  · rintro ⟨hends, hsome⟩ ⟨_, _, hcalm⟩
    unfold endsTyping at hends
    rcases (Option.any_eq_true _ _).mp hends with ⟨item, hitem, htyping⟩
    -- The first close comes behind the last of the other items, whichever it is.
    have hne : plan.filter (·.isClose) ≠ [] := by
      rcases hsome with ⟨close, hmem⟩
      exact List.ne_nil_of_mem (List.mem_filter.mpr hmem)
    rcases List.exists_cons_of_ne_nil hne with ⟨first, others, hfirst⟩
    have hclose : first.isClose = true :=
      (List.mem_filter.mp (hfirst ▸ List.mem_cons_self : first ∈ plan.filter (·.isClose))).2
    rw [hcalm item hitem first (by rw [hfirst]; rfl) htyping] at hclose
    exact absurd hclose nofun

/-- A close is no shortcut, so it is there to stay. -/
theorem outlivesSaving_of_isClose {item : Item} {instruction : String} (h : item.isClose = true) :
    item.outlivesSaving instruction = true := by
  unfold Item.outlivesSaving
  by_cases hshortcut : item.isSaveShortcut = true
  · rw [Item.isClose_eq_false_of_isSaveShortcut hshortcut] at h
    exact absurd h nofun
  · rw [Bool.eq_false_iff.mpr hshortcut]
    rfl

/-- No close is lost, and none is put in. -/
theorem countP_isClose_repair {out : Plan} {instruction : String}
    (h : plan.repair instruction = .ok out) :
    out.countP (·.isClose) = plan.countP (·.isClose) := by
  have hput : ∀ item : Item, item.IsPutIn instruction → item.isClose = false :=
    fun _ hput => hput.isClose_eq_false
  rw [countP_repair hput (fun _ _ => rfl) h]
  refine List.countP_congr fun item _ => ?_
  rw [Bool.and_eq_true]
  exact and_iff_left_of_imp outlivesSaving_of_isClose

/-- Repair leaves a close directly behind typing if and only if there is a close, and the last
    item types that is not a shortcut nobody asked for. Wherever a close came directly behind
    typing when its pause was put in, the pause stays behind the typing. -/
theorem hasHastyClose_repair {out : Plan} {instruction : String}
    (h : plan.repair instruction = .ok out) :
    (out.HasHastyClose ↔
      (∃ item ∈ plan, item.isClose = true) ∧
        endsTyping (plan.filter (·.outlivesSaving instruction)) = true) ∧
    ∀ resolved before typing close after, plan.resolveCloses = .ok resolved →
      completeSaves resolved instruction = before ++ typing :: close :: after →
      typing.isKind .typeText = true → close.isClose = true →
      ∃ back, out = (pauseBeforeCloses before).filter (!·.isClose) ++
        typing :: .action (.waitFor "2.0") :: back := by
  have hcount := countP_isClose_repair h
  rcases repair_eq_ok_iff.mp h with ⟨resolved, hresolved, hout, _⟩
  constructor
  · -- Closes go to the end, so there is a hasty one if the rest ends with typing.
    have hfilled := (resolveCloses_filled hresolved).filter (p := (·.outlivesSaving instruction))
      fun _ _ => rfl
    have hends : endsTyping ((pauseBeforeCloses (completeSaves resolved instruction)).filter
        (!·.isClose)) = endsTyping (plan.filter (·.outlivesSaving instruction)) := by
      rw [endsTyping_filter (pauseBeforeCloses_isPatient _), endsTyping_pauseBeforeCloses,
        endsTyping_completeSaves, hfilled.endsTyping_eq]
    rw [hout, (closesLast_perm _).countP_eq] at hcount
    rw [hout, hasHastyClose_closesLast, hends, ← List.countP_pos_iff, hcount, List.countP_pos_iff]
    exact and_comm
  · -- The pass puts the pause between the two, and only closes are moved after that.
    intro resolved' before typing close after hresolved' hcut htyping hclose
    have hsame : resolved = resolved' := Except.ok.inj (hresolved.symm.trans hresolved')
    rw [hout, hsame, hcut]
    exact pause_stays before after htyping hclose

/-- The close keeps its distance to the typing, although it moves behind a wait that was there
    before. -/
theorem hasHastyClose_repair_waiting :
    let launch : Item :=
      .action { kind := .launchApp, context := .desktop, target := some "notepad.exe" }
    let close : Action := { kind := .closeApp, context := .desktop }
    let closeNotepad : Item := .action { close with target := some "notepad.exe" }
    let hello : Item := .action (.keystrokes "hello")
    let wait : Item := .action (.waitFor "1.0")
    let plan : Plan := [launch, hello, .action close, wait]
    let out : Plan := [launch, hello, .action (.waitFor "2.0"), wait, closeNotepad]
    plan.repair "open notepad, type hello and close it" = .ok out ∧
      (out.HasHastyClose ↔ (∃ item ∈ plan, item.isClose = true) ∧
        endsTyping (plan.filter (·.outlivesSaving "open notepad, type hello and close it")) =
          true) ∧
      ∃ back, out = (pauseBeforeCloses [launch]).filter (!·.isClose) ++
        hello :: .action (.waitFor "2.0") :: back := by
  intro launch close closeNotepad hello wait plan out
  have hout : plan.repair "open notepad, type hello and close it" = .ok out := by decide +kernel
  have hresolved : plan.resolveCloses = .ok [launch, hello, closeNotepad, wait] := by
    decide +kernel
  rcases hasHastyClose_repair hout with ⟨hiff, hpause⟩
  exact ⟨hout, hiff, hpause _ [launch] hello closeNotepad [wait] hresolved rfl rfl rfl⟩

/-- The key that confirms a save ends up in front of the close that was in front of the save. -/
theorem repair_hasHastyClose :
    let launch : Item :=
      .action { kind := .launchApp, context := .desktop, target := some "notepad.exe" }
    let close : Action := { kind := .closeApp, context := .desktop }
    let hello : Item := .action (.keystrokes "hello")
    let shortcut : Item := .action (.keystrokes "^s")
    let plan : Plan := [launch, hello, .action close, shortcut]
    let out : Plan := [launch, hello, .action (.waitFor "2.0"), shortcut,
      .action (.waitFor "1.0"), .action (.keystrokes "a.txt"),
      .action (.keystrokes "\x7bENTER\x7d"), .action { close with target := some "notepad.exe" }]
    plan.repair "open notepad, type hello, save as a.txt, close" = .ok out ∧
      out.HasHastyClose := by
  decide +kernel

end Plan

end ActionPlan
