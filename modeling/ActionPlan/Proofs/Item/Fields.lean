import ActionPlan.Item.Draft
import Mathlib.Data.List.Basic

/-!
# Items that Keep the Rules

An item is built in one of three ways: from its fields, which are checked, from data, which
goes through the same check, or by the library itself, which checks nothing because it knows
what it writes. `Item.IsValid` is what all three have in common, and what the rest of
planning relies on. It asks more than `Action.check`, which looks for a field without looking
into it: a field that is there must hold more than blanks.

What planning needs most is a consequence. The table of fields lets a target be absent on the
desktop and on the web only, so a valid item of a file always has one (`target_of_isValid`).

A step that may fail is opened by `bind_eq_ok_iff`: two steps succeed if the first one does
and the second one does with its result. Every proof about `Except` goes through it, so none
depends on how a sequence of steps is written.

## Main definitions

* `Action.IsValid`, `Item.IsValid`: The item keeps the rules for its fields.

## Theorems

* `bind_eq_ok_iff`: Two steps succeed one after the other.
* `mapM_cases`, `mem_of_mapM_eq_ok`: The same step for all of a list.
* `nonBlank_eq_some_iff`: A field is kept if it holds more than blanks.
* `make_eq_ok_iff`: The action that is made from fields.
* `target_of_isValid`: A valid item of a file has a target.
* `make_isValid`, `withTarget_isValid`, `waitFor_isValid`, `keystrokes_isValid`: The ways of
  building an action keep the rules.
* `ofValue_isValid`: An item that is read from data keeps the rules.
-/

namespace ActionPlan

/-- Two steps succeed if the first one does, and the second one with its result. -/
theorem bind_eq_ok_iff {ε α β : Type} {x : Except ε α} {f : α → Except ε β} {b : β} :
    x >>= f = .ok b ↔ ∃ a, x = .ok a ∧ f a = .ok b := by
  cases x with
  | error e => exact ⟨nofun, fun ⟨_, h, _⟩ => nomatch h⟩
  | ok a => exact ⟨fun h => ⟨a, rfl, h⟩, fun ⟨_, ha, h⟩ => Except.ok.inj ha ▸ h⟩

theorem map_eq_ok_iff {ε α β : Type} {x : Except ε α} {f : α → β} {b : β} :
    x.map f = .ok b ↔ ∃ a, x = .ok a ∧ f a = b := by
  cases x with
  | error e => exact ⟨nofun, fun ⟨_, h, _⟩ => nomatch h⟩
  | ok a =>
      exact ⟨fun h => ⟨a, rfl, Except.ok.inj h⟩, fun ⟨_, ha, h⟩ => Except.ok.inj ha ▸ h ▸ rfl⟩

theorem mapM_cons_eq_ok_iff {ε α β : Type} {f : α → Except ε β} {x : α} {xs : List α}
    {zs : List β} : (x :: xs).mapM f = .ok zs ↔
      ∃ y ys, f x = .ok y ∧ xs.mapM f = .ok ys ∧ y :: ys = zs := by
  rw [List.mapM_cons]
  simp only [bind_eq_ok_iff]
  constructor
  · rintro ⟨y, hy, ys, hys, hpure⟩
    exact ⟨y, ys, hy, hys, Except.ok.inj hpure⟩
  · rintro ⟨y, ys, hy, hys, rfl⟩
    exact ⟨y, hy, ys, hys, rfl⟩

/-- Every step over a list succeeds, or there is a first one that fails. -/
theorem mapM_cases {ε α β : Type} (f : α → Except ε β) (xs : List α) :
    (∃ ys, xs.mapM f = .ok ys) ∨
      ∃ before x after ys e, xs = before ++ x :: after ∧ before.mapM f = .ok ys ∧
        f x = .error e := by
  induction xs with
  | nil => exact .inl ⟨[], rfl⟩
  | cons x xs ih =>
      rcases hx : f x with e | y
      · exact .inr ⟨[], x, xs, [], e, rfl, rfl, hx⟩
      · rcases ih with ⟨ys, hys⟩ | ⟨before, x', after, ys, e, rfl, hbefore, herror⟩
        · exact .inl ⟨y :: ys, mapM_cons_eq_ok_iff.mpr ⟨y, ys, hx, hys, rfl⟩⟩
        · refine .inr ⟨x :: before, x', after, y :: ys, e, rfl, ?_, herror⟩
          exact mapM_cons_eq_ok_iff.mpr ⟨y, ys, hx, hbefore, rfl⟩

theorem mem_of_mapM_eq_ok {ε α β : Type} {f : α → Except ε β} {xs : List α} {ys : List β}
    (h : xs.mapM f = .ok ys) {x : α} (hx : x ∈ xs) : ∃ y ∈ ys, f x = .ok y := by
  induction xs generalizing ys with
  | nil => exact absurd hx List.not_mem_nil
  | cons first xs ih =>
      rcases mapM_cons_eq_ok_iff.mp h with ⟨y, rest, hy, hxs, rfl⟩
      rcases List.mem_cons.mp hx with rfl | hlater
      · exact ⟨y, List.mem_cons_self, hy⟩
      · rcases ih hxs hlater with ⟨z, hz, hfx⟩
        exact ⟨z, List.mem_cons_of_mem y hz, hfx⟩

theorem nonBlank_eq_some_iff {field : Option String} {s : String} :
    nonBlank field = some s ↔ field = some s ∧ Text.isBlankText s.toList = false := by
  rcases field with _ | t
  · exact ⟨nofun, fun h => nomatch h.1⟩
  · unfold nonBlank
    simp only
    split
    · -- A blank text is dropped.
      next hblank =>
      constructor
      · exact nofun
      · intro h
        rw [Option.some.inj h.1, h.2] at hblank
        exact absurd hblank nofun
    · -- Any other is kept as it stands.
      next hblank =>
      rw [Bool.not_eq_true] at hblank
      constructor
      · intro h
        exact ⟨h, Option.some.inj h ▸ hblank⟩
      · exact fun h => h.1

/-- Looking for blanks a second time finds none. -/
theorem nonBlank_nonBlank (field : Option String) : nonBlank (nonBlank field) = nonBlank field := by
  rcases hfield : nonBlank field with _ | s
  · rfl
  · exact nonBlank_eq_some_iff.mpr ⟨rfl, (nonBlank_eq_some_iff.mp hfield).2⟩

/-- The action passes its check, and none of its fields is blank. -/
structure Action.IsValid (action : Action) : Prop where
  check : action.check = .ok ()
  target : nonBlank action.target = action.target
  text : nonBlank action.text = action.text

/-- The item keeps the rules for its fields. -/
def Item.IsValid : Item → Prop
  | .action a => a.IsValid
  | .observation o => nonBlank (some o.target) = some o.target

namespace Action

theorem make_eq_ok_iff {kind : ActionKind} {context : Context} {target text : Option String}
    {action : Action} : make kind context target text = .ok action ↔
      action = { kind, context, target := nonBlank target, text := nonBlank text } ∧
        action.check = .ok () := by
  unfold make
  rw [bind_eq_ok_iff]
  constructor
  · rintro ⟨_, hcheck, hpure⟩
    have haction := Except.ok.inj hpure
    exact ⟨haction.symm, haction ▸ hcheck⟩
  · rintro ⟨rfl, hcheck⟩
    exact ⟨(), hcheck, rfl⟩

theorem make_isValid {kind : ActionKind} {context : Context} {target text : Option String}
    {action : Action} (h : make kind context target text = .ok action) : action.IsValid := by
  rcases make_eq_ok_iff.mp h with ⟨haction, hcheck⟩
  refine ⟨hcheck, ?_, ?_⟩
  · rw [haction]
    exact nonBlank_nonBlank target
  · rw [haction]
    exact nonBlank_nonBlank text

/-- What is to be checked after an action has no bearing on its fields. -/
theorem IsValid.verified {action : Action} (h : action.IsValid) (v : Option Verification) :
    ({ action with verification := v } : Action).IsValid :=
  ⟨h.check, h.target, h.text⟩

theorem waitFor_isValid {seconds : String} (h : Text.isBlankText seconds.toList = false) :
    (waitFor seconds).IsValid :=
  ⟨rfl, nonBlank_eq_some_iff.mpr ⟨rfl, h⟩, rfl⟩

theorem keystrokes_isValid {text : String} (h : Text.isBlankText text.toList = false) :
    (keystrokes text).IsValid :=
  ⟨rfl, rfl, nonBlank_eq_some_iff.mpr ⟨rfl, h⟩⟩

/-- Closing an app is the one kind that passes its check with any target, wherever it may
    stand at all, so filling in a target keeps the rules. -/
theorem withTarget_isValid {action : Action} (h : action.IsValid) (hkind : action.kind = .closeApp)
    (target : String) : (action.withTarget target).IsValid := by
  -- For this kind the check looks at the context and at nothing else.
  have hcheck : (action.withTarget target).check = action.check := by
    unfold withTarget check
    rw [hkind]
    cases action.context <;> rfl
  refine ⟨hcheck.trans h.check, ?_, h.text⟩
  -- A blank target leaves the old one in place, which is valid already.
  change nonBlank ((nonBlank (some target)).or action.target)
    = (nonBlank (some target)).or action.target
  rcases hblank : nonBlank (some target) with _ | s
  · exact h.target
  · exact nonBlank_eq_some_iff.mpr ⟨rfl, (nonBlank_eq_some_iff.mp hblank).2⟩

end Action

theorem Observation.make_isValid {kind : ObservationKind} {context : Context} {target : String}
    {observation : Observation} (h : Observation.make kind context target = .ok observation) :
    (Item.observation observation).IsValid := by
  unfold Observation.make at h
  split at h
  · next s hs =>
    rw [← Except.ok.inj h]
    exact nonBlank_eq_some_iff.mpr ⟨rfl, (nonBlank_eq_some_iff.mp hs).2⟩
  · exact absurd h nofun

namespace Item

/-- An item of a file has a target. Only closing, focusing and waiting go without one, and
    the file context knows none of them. -/
theorem target_of_isValid {item : Item} (h : item.IsValid) (hfile : item.context = .file) :
    ∃ target, item.target? = some target := by
  rcases item with ⟨kind, context, target, text, verification⟩ | o
  · have hcontext : context = .file := hfile
    subst hcontext
    have hcheck := h.check
    rcases target with _ | target
    · -- Whatever the kind, the check fails: for the target, or for the context.
      cases kind <;> exact absurd hcheck nofun
    · exact ⟨target, rfl⟩
  · exact ⟨o.target, rfl⟩

theorem ofDraft_isValid {draft : Draft} {item : Item} (h : draft.item = .ok item) :
    item.IsValid := by
  unfold Draft.item at h
  simp only at h
  split at h
  · -- Coordinates are refused before anything else is looked at.
    exact absurd h nofun
  · -- The draft has passed each check, and the last of them made the item.
    rcases bind_eq_ok_iff.mp h with ⟨target, _, h⟩
    rcases bind_eq_ok_iff.mp h with ⟨text, _, h⟩
    rcases bind_eq_ok_iff.mp h with ⟨⟨name, asAction⟩, _, h⟩
    simp only at h
    split at h
    · rcases bind_eq_ok_iff.mp h with ⟨context, _, h⟩
      rcases bind_eq_ok_iff.mp h with ⟨observation, hmake, h⟩
      rw [← Except.ok.inj h]
      exact Observation.make_isValid hmake
    · -- The name is that of no observation, so it has to be that of an action.
      split at h
      · exact absurd h nofun
      · rcases bind_eq_ok_iff.mp h with ⟨kind, _, h⟩
        rcases bind_eq_ok_iff.mp h with ⟨context, _, h⟩
        rcases bind_eq_ok_iff.mp h with ⟨action, hmake, h⟩
        rw [← Except.ok.inj h]
        exact (Action.make_isValid hmake).verified draft.verification

/-- An item that is read from data keeps the rules, as the data goes through the check. -/
theorem ofValue_isValid {value : Json.Value} {item : Item} (h : ofValue value = .ok item) :
    item.IsValid := by
  unfold ofValue at h
  split at h
  · split at h
    · exact ofDraft_isValid h
    · exact absurd h nofun
  · exact absurd h nofun

end Item

end ActionPlan
