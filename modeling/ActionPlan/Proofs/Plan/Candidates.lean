import ActionPlan.Plan.Closing
import Mathlib.Data.List.Induction

/-!
# Which Apps a Close Can Mean

A close without a target means an app that was launched or focused in front of it. The pass that
fills in targets keeps a list of these apps as it goes, and an app that comes up again does not get
a second entry. The list can be told at any place of a plan from the items in front of it
(`candidates_concat`), so later proofs speak of `candidates` and not of the list.

Two things are asked of the candidates. There is a single one if a single app came up, however
often (`candidates_eq_singleton_iff`). And if there are several, the last one is the app that came
up for the first time most recently, as an app that comes up again keeps the place it has
(`getLast?_eraseDups_eq_some_iff`).

## Main definitions

* `Plan.IsNewest`: The app that came up for the first time after all others.
* `Plan.introductions`: The apps that items launch or focus, as often as they do.
* `Plan.candidates`: Each of these apps once.

## Theorems

* `eraseDups_concat_of_mem`, `eraseDups_concat_of_not_mem`: One more app, known or new.
* `eraseDups_eq_singleton_iff`: A single app is left if no other one came up.
* `getLast?_eraseDups_eq_some_iff`: The newest app is left as the last one.
* `candidates_concat`: The candidates are what the pass keeps in its list.
* `existsUnique_iff_candidates`: There is one candidate if one app came up.
-/

namespace ActionPlan

namespace Plan

/-! ### Each app once -/

section Apps

variable {app : String} {apps : List String}

theorem eraseDups_concat_of_mem (h : app ∈ apps) : (apps ++ [app]).eraseDups = apps.eraseDups := by
  rw [List.eraseDups_append, List.removeAll, List.filter_cons_of_neg (by simpa using h),
    List.filter_nil, List.eraseDups_nil, List.append_nil]

theorem eraseDups_concat_of_not_mem (h : app ∉ apps) :
    (apps ++ [app]).eraseDups = apps.eraseDups ++ [app] := by
  rw [List.eraseDups_append, List.removeAll, List.filter_cons_of_pos (by simpa using h),
    List.filter_nil, List.eraseDups_cons, List.filter_nil, List.eraseDups_nil]

theorem eraseDups_eq_singleton_iff :
    apps.eraseDups = [app] ↔ app ∈ apps ∧ ∀ other ∈ apps, other = app := by
  constructor
  · intro h
    have hmem : ∀ other, other ∈ apps ↔ other = app := fun other => by
      rw [← List.mem_eraseDups, h, List.mem_singleton]
    exact ⟨(hmem app).mpr rfl, fun other => (hmem other).mp⟩
  · rintro ⟨hmem, hall⟩
    cases apps with
    | nil => exact absurd hmem List.not_mem_nil
    | cons first others =>
        -- The first app is the one that stays, and the others are the same one.
        have hnone : others.filter (fun other => !other == app) = [] := by
          rw [List.filter_eq_nil_iff]
          intro other hother
          rw [hall other (List.mem_cons_of_mem first hother), beq_self_eq_true]
          exact nofun
        rw [hall first List.mem_cons_self, List.eraseDups_cons, hnone, List.eraseDups_nil]

/-- The app came up for the first time after all others had: behind that place there is nothing
    but apps that had come up by then. -/
def IsNewest (app : String) (apps : List String) : Prop :=
  ∃ early late, apps = early ++ app :: late ∧ app ∉ early ∧ ∀ other ∈ late, other ∈ early ++ [app]

/-- With each app once, in the order in which they first came up, the newest comes last. -/
theorem getLast?_eraseDups_eq_some_iff :
    apps.eraseDups.getLast? = some app ↔ IsNewest app apps := by
  constructor
  · intro h
    induction apps using List.reverseRecOn with
    | nil => exact absurd h nofun
    | append_singleton apps last ih =>
        by_cases hmem : last ∈ apps
        · -- The app behind the others is one of them, so it does not move the newest one.
          rw [eraseDups_concat_of_mem hmem] at h
          rcases ih h with ⟨early, late, rfl, hnew, hlate⟩
          refine ⟨early, late ++ [last], by rw [List.append_assoc, List.cons_append], hnew, ?_⟩
          intro other hother
          rcases List.mem_append.mp hother with hother | hother
          · exact hlate other hother
          · rw [List.mem_singleton.mp hother]
            rw [List.append_cons, List.mem_append] at hmem
            exact hmem.elim id (hlate last)
        · -- Nothing has come up behind it yet.
          rw [eraseDups_concat_of_not_mem hmem, List.getLast?_concat] at h
          rw [← Option.some.inj h]
          exact ⟨apps, [], rfl, hmem, nofun⟩
  · rintro ⟨early, late, rfl, hnew, hlate⟩
    -- What comes up late has come up before, so it is as if it had not.
    have hdups : (early ++ app :: late).eraseDups = early.eraseDups ++ [app] := by
      induction late using List.reverseRecOn with
      | nil => exact eraseDups_concat_of_not_mem hnew
      | append_singleton late last ih =>
          have hlast : last ∈ early ++ app :: late := by
            rw [List.append_cons]
            exact List.mem_append_left _ (hlate last (List.mem_append_right _ List.mem_cons_self))
          rw [← List.cons_append, ← List.append_assoc, eraseDups_concat_of_mem hlast,
            ih fun other hother => hlate other (List.mem_append_left _ hother)]
    rw [hdups, List.getLast?_concat]

end Apps

/-! ### What came up -/

/-- The apps that the items launch or focus, in the order of the items. -/
def introductions (items : Plan) : List String :=
  items.filterMap Item.introduces?

/-- The apps that a close behind the items can mean, in the order in which they first came up. -/
def candidates (items : Plan) : List String :=
  items.introductions.eraseDups

theorem candidates_concat (items : Plan) (item : Item) :
    candidates (items ++ [item]) = addCandidate items.candidates item.introduces? := by
  unfold candidates introductions
  rw [List.filterMap_append]
  rcases hitem : item.introduces? with _ | app
  · rw [List.filterMap_cons_none hitem, List.filterMap_nil, List.append_nil]
    rfl
  · rw [List.filterMap_cons_some hitem, List.filterMap_nil]
    change _ = if app ∈ List.eraseDups _ then _ else _
    split
    · -- The app has been introduced before, and it keeps its place.
      next hmem => exact eraseDups_concat_of_mem (List.mem_eraseDups.mp hmem)
    · next hmem => exact eraseDups_concat_of_not_mem fun h => hmem (List.mem_eraseDups.mpr h)

theorem candidates_eq_singleton_iff {items : Plan} {app : String} :
    items.candidates = [app] ↔ app ∈ items.introductions ∧
      ∀ other ∈ items.introductions, other = app :=
  eraseDups_eq_singleton_iff

theorem existsUnique_iff_candidates {items : Plan} :
    (∃! app, app ∈ items.introductions) ↔ ∃ app, items.candidates = [app] :=
  exists_congr fun _ => candidates_eq_singleton_iff.symm

end Plan

end ActionPlan
