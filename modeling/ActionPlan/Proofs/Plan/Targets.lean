import ActionPlan.Proofs.Plan.Candidates
import ActionPlan.Proofs.Plan.Refinement

/-!
# Filling in Targets

The pass that fills in the targets of closes goes through a plan with a list of candidates and may
stop anywhere. As the candidates depend on nothing but the items in front, the pass can be cut at
any item (`resolveCloses_cut`), and what becomes of the item is a matter of the item and of what is
in front of it (`settled`). When the pass succeeds, where it stops and what it fills in are all
read off the cut.

A target that is filled in was the target of a valid item, and is not blank. The close has it from
then on, and as later passes put in no closes, the check at the end of repair has nothing to find
(`repair_eq_error_iff`).

Where the pass stops, the caller gets the candidates. The last of them is the app that was
introduced last, and need not be the one that was used last (`getLast?_candidates`).

## Main definitions

* `Plan.settled`: What becomes of an item behind others.
* `Plan.IsClear`: Every open close means one app.
* `Plan.StopsAt`: The first open close that does not.
* `Plan.IsResolution`: The plan with a target for every open close.

## Theorems

* `exists_settled_iff`: The items that can be settled.
* `resolveClosesFrom_append`, `resolveCloses_cut`: The pass, cut.
* `exists_resolveCloses_iff`, `resolveCloses_eq_error_iff`: When the pass succeeds, and how it
  fails.
* `resolveCloses_isResolution`: What the pass fills in.
* `repair_eq_error_iff`: Repair fails only where this pass does.
* `resolveCloses_exact`: The pass and its place in repair.
* `getLast?_candidates`: What the last candidate is.
-/

namespace ActionPlan

namespace Plan

/-! ### What becomes of one item -/

theorem exists_action_of_isOpenClose {item : Item} (h : item.isOpenClose = true) :
    ∃ action, item = .action action ∧ action.kind = .closeApp ∧ action.target = none := by
  rcases Bool.and_eq_true_iff.mp h with ⟨hclose, hnone⟩
  rcases Item.isKind_iff.mp hclose with ⟨action, rfl, hkind⟩
  exact ⟨action, rfl, hkind, Option.isNone_iff_eq_none.mp hnone⟩

/-- A close introduces nothing. -/
theorem introduces?_of_isOpenClose {item : Item} (h : item.isOpenClose = true) :
    item.introduces? = none := by
  rcases exists_action_of_isOpenClose h with ⟨action, rfl, hkind, _⟩
  unfold Item.introduces?
  simp only [hkind, reduceCtorEq, or_self, if_false]

section Settled

variable {before : Plan} {item : Item}

/-- What becomes of an item behind others: a close without a target gets the one that it can mean,
    and nothing else is changed. -/
def settled (before : Plan) (item : Item) : Except PlanError Item :=
  if item.isOpenClose then
    match before.candidates with
    | [app] => .ok (item.withTarget app)
    | apps => .error (.needsClarification apps)
  else .ok item

theorem settled_of_not_isOpenClose (h : item.isOpenClose = false) :
    before.settled item = .ok item := by
  rw [settled, h, if_neg Bool.false_ne_true]

theorem settled_of_candidates {app : String} (h : item.isOpenClose = true)
    (happ : before.candidates = [app]) : before.settled item = .ok (item.withTarget app) := by
  rw [settled, if_pos h, happ]

theorem settled_of_not_existsUnique (h : item.isOpenClose = true)
    (hnone : ¬ ∃! app, app ∈ before.introductions) :
    before.settled item = .error (.needsClarification before.candidates) := by
  rw [existsUnique_iff_candidates] at hnone
  rw [settled, if_pos h]
  split
  · next app happ => exact absurd ⟨app, happ⟩ hnone
  · rfl

/-- An item can be settled unless it is an open close that means none or several. -/
theorem exists_settled_iff : (∃ out, before.settled item = .ok out) ↔
    (item.isOpenClose = true → ∃! app, app ∈ before.introductions) := by
  cases hopen : item.isOpenClose with
  | false => exact iff_of_true ⟨item, settled_of_not_isOpenClose hopen⟩ nofun
  | true =>
      by_cases hone : ∃! app, app ∈ before.introductions
      · rcases existsUnique_iff_candidates.mp hone with ⟨app, happ⟩
        exact iff_of_true ⟨_, settled_of_candidates hopen happ⟩ fun _ => hone
      · rw [settled_of_not_existsUnique hopen hone]
        exact iff_of_false (fun ⟨_, h⟩ => nomatch h) fun h => hone (h rfl)

end Settled

/-! ### Cutting the pass -/

/-- One step of the pass. The candidates are always those of the items passed so far. -/
theorem resolveClosesFrom_cons (before : Plan) (item : Item) (items : Plan) :
    resolveClosesFrom before.candidates (item :: items) = before.settled item >>= fun out =>
      (resolveClosesFrom (before ++ [item]).candidates items).map (out :: ·) := by
  have hmap : ∀ (out : Item) (rest : Except PlanError Plan),
      (rest >>= fun rest => pure (out :: rest)) = rest.map (out :: ·) := by
    rintro out (_ | _) <;> rfl
  rw [candidates_concat]
  cases hopen : item.isOpenClose with
  | false =>
      rw [settled_of_not_isOpenClose hopen, resolveClosesFrom.eq_def]
      simp only [hopen, Bool.false_eq_true, if_false]
      exact hmap item _
  | true =>
      rw [settled, introduces?_of_isOpenClose hopen, addCandidate, resolveClosesFrom.eq_def]
      simp only [hopen, if_true]
      -- No candidate, one, or several: only one can be filled in.
      rcases before.candidates with _ | ⟨app, _ | ⟨other, apps⟩⟩
      · rfl
      · exact hmap (item.withTarget app) _
      · rfl

/-- The pass over two stretches, the second one in view of the first. -/
theorem resolveClosesFrom_append (before front back : Plan) :
    resolveClosesFrom before.candidates (front ++ back) =
      resolveClosesFrom before.candidates front >>= fun out =>
        (resolveClosesFrom (before ++ front).candidates back).map (out ++ ·) := by
  induction front generalizing before with
  | nil =>
      rw [List.nil_append, List.append_nil]
      rcases resolveClosesFrom before.candidates back with _ | _ <;> rfl
  | cons item items ih =>
      rw [List.cons_append, resolveClosesFrom_cons, resolveClosesFrom_cons, ih,
        List.append_assoc, List.singleton_append]
      -- Whichever of the three steps fails first, it fails on both sides.
      rcases before.settled item with _ | out
      · rfl
      · rcases resolveClosesFrom (before ++ [item]).candidates items with _ | front
        · rfl
        · rcases resolveClosesFrom (before ++ item :: items).candidates back with _ | _ <;> rfl

/-- What the pass does at an item, if it comes that far. -/
theorem resolveCloses_cut (before : Plan) (item : Item) (after : Plan) :
    (before ++ item :: after).resolveCloses = before.resolveCloses >>= fun front =>
      before.settled item >>= fun out =>
        (resolveClosesFrom (before ++ [item]).candidates after).map (front ++ out :: ·) := by
  refine (resolveClosesFrom_append [] before (item :: after)).trans ?_
  change _ = resolveClosesFrom (candidates []) before >>= _
  rw [List.nil_append, resolveClosesFrom_cons]
  rcases resolveClosesFrom (candidates []) before with _ | front
  · rfl
  · rcases before.settled item with _ | out
    · rfl
    · rcases resolveClosesFrom (before ++ [item]).candidates after with _ | _ <;> rfl

theorem resolveCloses_concat (items : Plan) (item : Item) :
    (items ++ [item]).resolveCloses =
      items.resolveCloses >>= fun front => (items.settled item).map (front ++ [·]) := by
  rw [resolveCloses_cut]
  rcases resolveCloses items with _ | front
  · rfl
  · rcases settled items item with _ | out <;> rfl

/-! ### Success and failure -/

/-- Exactly one app came up in front of every open close. -/
def IsClear (plan : Plan) : Prop :=
  ∀ (before : Plan) (close : Item) (after : Plan), plan = before ++ close :: after →
    close.isOpenClose = true → ∃! app, app ∈ before.introductions

/-- The close is the first open one in the plan that has no app in front of it, or several. -/
structure StopsAt (plan before : Plan) (close : Item) (after : Plan) : Prop where
  cut : plan = before ++ close :: after
  isOpenClose : close.isOpenClose = true
  unclear : ¬ ∃! app, app ∈ before.introductions
  /-- It is the first one: those in front of it mean one app each. -/
  clear : before.IsClear

theorem StopsAt.concat {plan before : Plan} {close : Item} {after : Plan}
    (h : plan.StopsAt before close after) (item : Item) :
    (plan ++ [item]).StopsAt before close (after ++ [item]) where
  cut := by rw [h.cut, List.append_assoc, List.cons_append]
  isOpenClose := h.isOpenClose
  unclear := h.unclear
  clear := h.clear

theorem isClear_nil : IsClear [] := by
  intro before close after hcut
  exact absurd hcut.symm (List.append_ne_nil_of_right_ne_nil before (List.cons_ne_nil close after))

theorem isClear_concat {items : Plan} {item : Item} :
    IsClear (items ++ [item]) ↔
      items.IsClear ∧ (item.isOpenClose = true → ∃! app, app ∈ items.introductions) := by
  constructor
  · intro h
    -- A cut of the items in front is a cut of the plan.
    refine ⟨fun before close after hcut => ?_, h items item [] rfl⟩
    exact h before close (after ++ [item]) (by rw [hcut, List.append_assoc, List.cons_append])
  · rintro ⟨hitems, hitem⟩ before close after hcut
    rcases List.eq_nil_or_concat after with rfl | ⟨after, last, rfl⟩
    · -- The close is the last item.
      rcases List.append_inj' hcut rfl with ⟨rfl, hlast⟩
      rw [← List.singleton_inj.mp hlast]
      exact hitem
    · rw [List.concat_eq_append, ← List.cons_append, ← List.append_assoc] at hcut
      exact hitems before close after (List.append_inj' hcut rfl).1

/-- The pass succeeds if and only if every open close means one app. -/
theorem exists_resolveCloses_iff {plan : Plan} :
    (∃ out, plan.resolveCloses = .ok out) ↔ plan.IsClear := by
  induction plan using List.reverseRecOn with
  | nil => exact iff_of_true ⟨[], rfl⟩ isClear_nil
  | append_singleton items item ih =>
      rw [resolveCloses_concat, isClear_concat, ← ih, ← exists_settled_iff]
      rcases resolveCloses items with e | front
      · -- If the items in front cannot be settled, the last one does not matter.
        exact iff_of_false (fun ⟨_, h⟩ => nomatch h) fun ⟨⟨_, h⟩, _⟩ => nomatch h
      · -- The items in front are settled, so the last one decides.
        rw [and_iff_right ⟨front, rfl⟩]
        rcases settled items item with e | out
        · exact iff_of_false (fun ⟨_, h⟩ => nomatch h) fun ⟨_, h⟩ => nomatch h
        · exact iff_of_true ⟨_, rfl⟩ ⟨out, rfl⟩

/-- The pass fails at the first open close that does not mean one app, and hands back what it can
    mean. -/
theorem resolveCloses_eq_error_iff {plan : Plan} {e : PlanError} :
    plan.resolveCloses = .error e ↔ ∃ before close after, plan.StopsAt before close after ∧
      e = .needsClarification before.candidates := by
  constructor
  · intro h
    induction plan using List.reverseRecOn with
    | nil => exact absurd h nofun
    | append_singleton items item ih =>
        rw [resolveCloses_concat] at h
        rcases hitems : resolveCloses items with e' | front
        · rw [hitems] at h
          rcases ih (hitems.trans (congrArg Except.error (Except.error.inj h))) with
            ⟨before, close, after, hstops, he⟩
          exact ⟨before, close, after ++ [item], hstops.concat item, he⟩
        · rw [hitems] at h
          have hclear : IsClear items := exists_resolveCloses_iff.mp ⟨front, hitems⟩
          -- The items in front are settled, so this one is not.
          have hnot : ¬ ∃ out, settled items item = .ok out := by
            rintro ⟨out, hout⟩
            rw [hout] at h
            exact absurd h nofun
          rw [exists_settled_iff, Classical.not_imp] at hnot
          rw [settled_of_not_existsUnique hnot.1 hnot.2] at h
          exact ⟨items, item, [], ⟨rfl, hnot.1, hnot.2, hclear⟩, (Except.error.inj h).symm⟩
  · rintro ⟨before, close, after, hstops, rfl⟩
    rcases exists_resolveCloses_iff.mpr hstops.clear with ⟨front, hfront⟩
    rw [hstops.cut, resolveCloses_cut, hfront,
      settled_of_not_existsUnique hstops.isOpenClose hstops.unclear]
    rfl

/-! ### What is filled in -/

/-- The plan is the other one with a target for every open close, the one app that came up in front
    of it, and with nothing else changed. -/
structure IsResolution (out plan : Plan) : Prop where
  length_eq : out.length = plan.length
  /-- Every other item is where it was, as it was. -/
  kept : ∀ (before : Plan) (item : Item) (after : Plan), plan = before ++ item :: after →
    item.isOpenClose = false → out[before.length]? = some item
  /-- An open close is where it was, with a target and all its other fields. -/
  filled : ∀ (before : Plan) (action : Action) (after : Plan),
    plan = before ++ .action action :: after → (Item.action action).isOpenClose = true →
      ∃ app, before.candidates = [app] ∧
        out[before.length]? = some (.action { action with target := some app })

/-- The apps of a valid plan are not blank. -/
theorem not_blank_of_mem_introductions {plan : Plan} (hvalid : plan.IsValid) {app : String}
    (h : app ∈ plan.introductions) : nonBlank (some app) = some app := by
  rcases List.mem_filterMap.mp h with ⟨item, hmem, happ⟩
  rcases item with action | _
  · change (if _ then action.target else none) = some app at happ
    split at happ
    · rw [← happ]
      exact (hvalid _ hmem).target
    · exact absurd happ nofun
  · exact absurd happ nofun

/-- What is at a place of the result is what becomes of the item that was there. -/
theorem getElem?_of_resolveCloses {before : Plan} {item : Item} {after out : Plan}
    (h : (before ++ item :: after).resolveCloses = .ok out) :
    ∃ x, before.settled item = .ok x ∧ out[before.length]? = some x := by
  rw [resolveCloses_cut] at h
  rcases bind_eq_ok_iff.mp h with ⟨front, hfront, h⟩
  rcases bind_eq_ok_iff.mp h with ⟨x, hx, h⟩
  rcases map_eq_ok_iff.mp h with ⟨back, _, rfl⟩
  refine ⟨x, hx, ?_⟩
  rw [(resolveCloses_filled hfront).length_eq, List.getElem?_append_right (Nat.le_refl _),
    Nat.sub_self]
  rfl

theorem resolveCloses_isResolution {plan out : Plan} (hvalid : plan.IsValid)
    (h : plan.resolveCloses = .ok out) : out.IsResolution plan := by
  refine ⟨(resolveCloses_filled h).length_eq.symm, ?_, ?_⟩
  · rintro before item after rfl hopen
    rcases getElem?_of_resolveCloses h with ⟨x, hx, hout⟩
    rw [settled_of_not_isOpenClose hopen] at hx
    rw [hout, Except.ok.inj hx]
  · rintro before action after rfl hopen
    rcases getElem?_of_resolveCloses h with ⟨x, hx, hout⟩
    have hone := exists_settled_iff.mp ⟨x, hx⟩ hopen
    rcases existsUnique_iff_candidates.mp hone with ⟨app, happ⟩
    -- The app comes from a valid item in front.
    have hbefore : before.IsValid := fun item hmem => hvalid item (List.mem_append_left _ hmem)
    have hblank : nonBlank (some app) = some app :=
      not_blank_of_mem_introductions hbefore (candidates_eq_singleton_iff.mp happ).1
    refine ⟨app, happ, ?_⟩
    rw [settled_of_candidates hopen happ] at hx
    rw [hout, ← Except.ok.inj hx]
    change some (Item.action { action with target := (nonBlank (some app)).or action.target }) = _
    rw [hblank]
    rfl

/-- A close that was given a target is open no more. -/
theorem IsResolution.isOpenClose_of_mem {plan out : Plan} (h : out.IsResolution plan) {item : Item}
    (hmem : item ∈ out) : item.isOpenClose = false := by
  -- The item has a place, and the plan can be cut there.
  rcases List.mem_iff_getElem?.mp hmem with ⟨i, hi⟩
  have hlt : i < plan.length := by
    rw [← h.length_eq]
    exact (List.getElem?_eq_some_iff.mp hi).1
  have hcut : plan = plan.take i ++ plan[i] :: plan.drop (i + 1) := by
    rw [← List.drop_eq_getElem_cons hlt, List.take_append_drop]
  have hlength : (plan.take i).length = i := by
    rw [List.length_take, Nat.min_eq_left (Nat.le_of_lt hlt)]
  rcases hopen : (plan[i]).isOpenClose with _ | _
  · have hkept := h.kept _ _ _ hcut hopen
    rw [hlength, hi] at hkept
    rw [Option.some.inj hkept, hopen]
  · rcases exists_action_of_isOpenClose hopen with ⟨action, haction, _, _⟩
    rw [haction] at hcut hopen
    rcases h.filled _ _ _ hcut hopen with ⟨app, _, hfilled⟩
    rw [hlength, hi] at hfilled
    rw [Option.some.inj hfilled]
    exact Bool.and_false _

/-! ### The end of repair -/

/-- Behind the targets nothing opens a close, so repair fails only where targets are filled in. -/
theorem repair_eq_error_iff {plan : Plan} (hvalid : plan.IsValid) {instruction : String}
    {e : PlanError} : plan.repair instruction = .error e ↔ plan.resolveCloses = .error e := by
  rcases hresolved : plan.resolveCloses with e' | resolved
  · -- Without targets there is nothing to go on with.
    unfold repair
    rw [hresolved]
    exact Iff.rfl
  · -- Whatever is in the end comes from the items with their targets, or closes nothing.
    have hopen : ∀ item ∈ closesLast (pauseBeforeCloses (completeSaves resolved instruction)),
        item.isOpenClose = false := by
      intro item hmem
      rw [(closesLast_perm _).mem_iff] at hmem
      rcases (paused_interleaves resolved instruction).mem hmem with hmem | hput
      · exact (resolveCloses_isResolution hvalid hresolved).isOpenClose_of_mem
          (List.mem_filter.mp hmem).1
      · -- What was put in is no close at all.
        unfold Item.isOpenClose
        rw [hput.isClose_eq_false, Bool.false_and]
    have hok := repair_eq_ok_iff.mpr ⟨resolved, hresolved, rfl, hopen⟩
    rw [hok]
    exact iff_of_false nofun nofun

/-- Targets are filled in if and only if every open close means one app, and then nothing else is
    changed. If they are not, the caller gets what the first unclear close can mean. Repair fails
    for this reason only. -/
theorem resolveCloses_exact {plan : Plan} (hvalid : plan.IsValid) :
    ((∃ out, plan.resolveCloses = .ok out) ↔ plan.IsClear) ∧
    (∀ out, plan.resolveCloses = .ok out → out.IsResolution plan) ∧
    (∀ e, plan.resolveCloses = .error e ↔ ∃ before close after,
      plan.StopsAt before close after ∧ e = .needsClarification before.candidates) ∧
    ∀ instruction e, plan.repair instruction = .error e ↔ plan.resolveCloses = .error e :=
  ⟨exists_resolveCloses_iff, fun _ => resolveCloses_isResolution hvalid,
    fun _ => resolveCloses_eq_error_iff, fun _ _ => repair_eq_error_iff hvalid⟩

/-- An app that is launched and focused is one app, and the close keeps its verification. -/
theorem resolveCloses_exact_refocused :
    let launch : Item :=
      .action { kind := .launchApp, context := .desktop, target := some "notepad.exe" }
    let focus : Item :=
      .action { kind := .focusWindow, context := .desktop, target := some "notepad.exe" }
    let close : Action :=
      { kind := .closeApp, context := .desktop, verification := some { requiresApproval := true } }
    let plan : Plan := [launch, focus, .action close]
    plan.IsValid ∧ plan.IsClear ∧ (∃ out, plan.resolveCloses = .ok out ∧ out.length = 3 ∧
      out[2]? = some (.action { close with target := some "notepad.exe" })) ∧
      ∀ instruction e, plan.repair instruction ≠ .error e := by
  intro launch focus close plan
  have hvalid : plan.IsValid := by
    intro item hmem
    simp only [plan, List.mem_cons, List.not_mem_nil, or_false] at hmem
    rcases hmem with rfl | rfl | rfl
    · exact ⟨rfl, by decide +kernel, rfl⟩
    · exact ⟨rfl, by decide +kernel, rfl⟩
    · exact ⟨rfl, rfl, rfl⟩
  have hout : plan.resolveCloses =
      .ok [launch, focus, .action { close with target := some "notepad.exe" }] := by
    decide +kernel
  rcases resolveCloses_exact hvalid with ⟨hclear, hresolution, _, hrepair⟩
  refine ⟨hvalid, hclear.mp ⟨_, hout⟩, ⟨_, hout, ?_, ?_⟩, ?_⟩
  · exact (hresolution _ hout).length_eq
  · -- The app was introduced twice, and it is one candidate.
    rcases (hresolution _ hout).filled [launch, focus] close [] rfl rfl with ⟨app, happ, hfilled⟩
    have hone : candidates [launch, focus] = ["notepad.exe"] := by decide +kernel
    rw [hone] at happ
    rw [← (List.singleton_inj.mp happ : "notepad.exe" = app)] at hfilled
    exact hfilled
  · intro instruction e he
    rw [hrepair, hout] at he
    exact absurd he nofun

/-! ### The choice that is left -/

/-- If there is a choice, the last candidate is the app that came up for the first time most
    recently. That is the app that was launched or focused last only if no other one came up for
    the first time in between. -/
theorem getLast?_candidates {plan : Plan} {apps : List String}
    (h : plan.resolveCloses = .error (.needsClarification apps)) (hsome : apps ≠ []) :
    ∃ before close after newest latest, plan.StopsAt before close after ∧
      apps = before.candidates ∧ apps.getLast? = some newest ∧
      IsNewest newest before.introductions ∧ before.introductions.getLast? = some latest ∧
      (newest = latest ↔ IsNewest latest before.introductions) := by
  rcases resolveCloses_eq_error_iff.mp h with ⟨before, close, after, hstops, he⟩
  have happs : apps = before.candidates := PlanError.needsClarification.inj he
  -- There is a last candidate, so some app came up, and one of them last.
  have hne : before.introductions ≠ [] := by
    intro hnil
    rw [happs, candidates, hnil, List.eraseDups_nil] at hsome
    exact hsome rfl
  have hnewest : ∀ app, apps.getLast? = some app ↔ IsNewest app before.introductions := by
    intro app
    rw [happs]
    exact getLast?_eraseDups_eq_some_iff
  refine ⟨before, close, after, apps.getLast hsome, before.introductions.getLast hne, hstops,
    happs, List.getLast?_eq_some_getLast hsome, ?_, List.getLast?_eq_some_getLast hne, ?_⟩
  · exact (hnewest _).mp (List.getLast?_eq_some_getLast hsome)
  · rw [← hnewest, List.getLast?_eq_some_getLast hsome, Option.some.injEq]

/-- The calculator came up last and was used last. -/
theorem getLast?_candidates_calculator :
    let app (kind : ActionKind) (target : String) : Item :=
      .action { kind, context := .desktop, target := some target }
    let close : Item := .action { kind := .closeApp, context := .desktop }
    let plan : Plan := [app .launchApp "notepad.exe", app .launchApp "calc.exe",
      app .focusWindow "calc.exe", close]
    let apps := ["notepad.exe", "calc.exe"]
    plan.resolveCloses = .error (.needsClarification apps) ∧ apps ≠ [] ∧
      ∃ before close after newest latest, plan.StopsAt before close after ∧
        apps = before.candidates ∧ apps.getLast? = some newest ∧
        IsNewest newest before.introductions ∧ before.introductions.getLast? = some latest ∧
        (newest = latest ↔ IsNewest latest before.introductions) := by
  intro app close plan apps
  have h : plan.resolveCloses = .error (.needsClarification apps) := by decide +kernel
  have hsome : apps ≠ [] := List.cons_ne_nil _ _
  exact ⟨h, hsome, getLast?_candidates h hsome⟩

/-- With the editor in use again, the calculator is still the last candidate. -/
theorem getLast?_candidates_ne_latest :
    let app (kind : ActionKind) (target : String) : Item :=
      .action { kind, context := .desktop, target := some target }
    let close : Item := .action { kind := .closeApp, context := .desktop }
    let before : Plan := [app .launchApp "notepad.exe", app .launchApp "calc.exe",
      app .focusWindow "notepad.exe"]
    (before ++ [close]).resolveCloses =
        .error (.needsClarification ["notepad.exe", "calc.exe"]) ∧
      before.introductions.getLast? = some "notepad.exe" := by
  decide +kernel

end Plan

end ActionPlan
