import ActionPlan.Proofs.Path.Writing

/-!
# Existing Paths

A path that exists has one location, and there are two ways to it. The walk of the disk takes
the whole path at once: it puts what a link holds in place of the link and goes on. Resolving
looks at the path component by component, asks the disk about each prefix, and deals with
parents by itself, on the text that it has so far.

Taking the last name off a text is wrong where that name is a link, and `Disk.resolve_of_leadsTo?`
says that it never is: what resolving has so far is always the location of what was walked
so far, and a location holds no link. The walk of the whole path may follow a limited number of
links, which its parts share, while resolving starts to count anew with each component. So a
walk is cut where a component ends, with the links that are left to the rest (`walk?_append`),
and a part may as well be walked with more links than it had (`walk?_mono`).

The limit is also why only one direction holds. A path with too many links has no location as a
whole, and still every component of it may be found.

## Main definitions

* `Disk.leadsTo?`: Where the text of a path leads.

## Theorems

* `walk?_mono`: A walk that arrives also arrives with more links to follow.
* `walk?_append`: A walk that arrives can be cut anywhere.
* `foldl_extend_of_walk?`: Resolving goes where a walk goes.
* `resolve_of_leadsTo?`: A path that exists resolves to its location.
* `Sandbox.validate_of_leadsTo?`: A sandbox judges what exists by where it is.
-/

namespace ActionPlan

namespace Disk

open ActionPlan.Path

variable {disk : Disk}

/-- Where the text of an absolute path leads, with every link followed where it is met. There is
    nothing if an entry is missing, if something other than a folder has to be entered, as a slash
    at the end asks for, or if links go in a circle. -/
def leadsTo? (disk : Disk) (text : String) : Option (List String) :=
  if (ofText text).isAbsolute then disk.walk? linkLimit [] (Move.ofText text) else none

/-! ### Parts of a walk -/

/-- A walk that arrives also arrives with more links to follow. -/
theorem walk?_mono {links more : Nat} {here place : List String} {moves : List Move}
    (hle : links ≤ more) (h : disk.walk? links here moves = some place) :
    disk.walk? more here moves = some place := by
  -- The induction follows the walk, with one case for each kind of move.
  induction links, here, moves using walk?.induct generalizing more with
  | case1 links here =>
      rw [walk?] at h ⊢
      exact h
  | case2 links here moves ih =>
      rw [walk?] at h ⊢
      rcases Option.bind_eq_some_iff.mp h with ⟨_, hfolder, hrest⟩
      exact Option.bind_eq_some_iff.mpr ⟨_, hfolder, ih hle hrest⟩
  | case3 links here moves ih =>
      rw [walk?] at h ⊢
      exact ih hle h
  | case4 links here moves ih =>
      rw [walk?] at h ⊢
      rcases Option.bind_eq_some_iff.mp h with ⟨_, hfolder, hrest⟩
      exact Option.bind_eq_some_iff.mpr ⟨_, hfolder, ih hle hrest⟩
  | case5 links here name moves ihlink ihname =>
      rw [walk?] at h ⊢
      rcases Option.bind_eq_some_iff.mp h with ⟨entries, hfolder, hrest⟩
      refine Option.bind_eq_some_iff.mpr ⟨entries, hfolder, ?_⟩
      split at hrest
      · cases hrest
      · -- There was a link to spare for this one, so there is one among more of them.
        next target _ =>
        cases links with
        | zero => cases hrest
        | succ links =>
            cases more with
            | zero => exact absurd hle (Nat.not_succ_le_zero links)
            | succ more => exact ihlink target (Nat.le_of_succ_le_succ hle) hrest
      · -- There is no link here, so all of them are left to the rest.
        exact ihname hle hrest

/-- A walk that arrives can be cut anywhere: its first part arrives, and the rest of it starts
    there, with the links that are left. -/
theorem walk?_append {links : Nat} {here place : List String} {front : List Move}
    (back : List Move) (h : disk.walk? links here (front ++ back) = some place) :
    ∃ between left, left ≤ links ∧ disk.walk? links here front = some between ∧
      disk.walk? left between back = some place := by
  induction links, here, front using walk?.induct with
  | case1 links here => exact ⟨here, links, Nat.le_refl links, by rw [walk?], h⟩
  | case2 links here moves ih =>
      rw [List.cons_append, walk?] at h
      rcases Option.bind_eq_some_iff.mp h with ⟨_, hfolder, hrest⟩
      rcases ih hrest with ⟨between, left, hle, hfront, hback⟩
      refine ⟨between, left, hle, ?_, hback⟩
      rw [walk?]
      exact Option.bind_eq_some_iff.mpr ⟨_, hfolder, hfront⟩
  | case3 links here moves ih =>
      rw [List.cons_append, walk?] at h
      rcases ih h with ⟨between, left, hle, hfront, hback⟩
      refine ⟨between, left, hle, ?_, hback⟩
      rw [walk?]
      exact hfront
  | case4 links here moves ih =>
      rw [List.cons_append, walk?] at h
      rcases Option.bind_eq_some_iff.mp h with ⟨_, hfolder, hrest⟩
      rcases ih hrest with ⟨between, left, hle, hfront, hback⟩
      refine ⟨between, left, hle, ?_, hback⟩
      rw [walk?]
      exact Option.bind_eq_some_iff.mpr ⟨_, hfolder, hfront⟩
  | case5 links here name moves ihlink ihname =>
      rw [List.cons_append, walk?] at h
      rcases Option.bind_eq_some_iff.mp h with ⟨entries, hfolder, hrest⟩
      split at hrest
      · cases hrest
      · next target hlookup =>
        cases links with
        | zero => cases hrest
        | succ links =>
            -- What the link holds belongs to the first part.
            have hsplit : disk.walk? links here ((target ++ moves) ++ back) = some place := by
              rw [List.append_assoc]
              exact hrest
            rcases ihlink target hsplit with ⟨between, left, hle, hfront, hback⟩
            refine ⟨between, left, Nat.le_succ_of_le hle, ?_, hback⟩
            rw [walk?]
            refine Option.bind_eq_some_iff.mpr ⟨entries, hfolder, ?_⟩
            simp only [hlookup]
            exact hfront
      · next entry hlink hlookup =>
        rcases ihname hrest with ⟨between, left, hle, hfront, hback⟩
        refine ⟨between, left, hle, ?_, hback⟩
        rw [walk?]
        refine Option.bind_eq_some_iff.mpr ⟨entries, hfolder, ?_⟩
        cases entry with
        | link target => exact absurd rfl (hlink target)
        | folder inner =>
            simp only [hlookup]
            exact hfront
        | file =>
            simp only [hlookup]
            exact hfront

/-! ### Resolving what exists -/

/-- One component of a walk is what resolving makes of it. -/
theorem extend_of_walk? {links : Nat} {here place : List String} {c : Component}
    (hhere : disk.IsSettled here) (hle : links ≤ linkLimit) (hc : c ≠ .root)
    (h : disk.walk? links here [.along c] = some place) :
    disk.extend (pathOf here) c = pathOf place := by
  cases c with
  | root => exact absurd rfl hc
  | parent =>
      rw [walk?] at h
      rcases Option.bind_eq_some_iff.mp h with ⟨_, _, hrest⟩
      rw [walk?] at hrest
      rw [extend_parent_pathOf, Option.some.inj hrest]
  | name s =>
      -- The disk is asked from the root, and everything up to here is settled.
      have hlocation : disk.location? (pathOf (here ++ [s])) = some place := by
        change disk.walk? linkLimit [] (Move.ofPath (pathOf (here ++ [s]))) = some place
        rw [ofPath_pathOf_append, walk?_pathOf hhere]
        exact walk?_mono hle h
      have hextend : disk.extend (pathOf here) (.name s) =
          disk.settle (pathOf (here ++ [s])) := by
        rw [pathOf_append]
        rfl
      rw [hextend, settle, hlocation]

/-- Resolving goes where a walk goes. -/
theorem foldl_extend_of_walk? {q : Path} (hq : ∀ c ∈ q, c ≠ .root) {links : Nat}
    {here place : List String} (hhere : disk.IsSettled here) (hle : links ≤ linkLimit)
    (h : disk.walk? links here (Move.ofPath q) = some place) :
    q.foldl disk.extend (pathOf here) = pathOf place := by
  induction q generalizing links here with
  | nil =>
      change disk.walk? links here [] = some place at h
      rw [walk?] at h
      rw [List.foldl_nil, Option.some.inj h]
  | cons c q ih =>
      have hsplit : disk.walk? links here ([.along c] ++ Move.ofPath q) = some place := h
      -- The walk is cut behind the first component, where resolving has come to the same place.
      rcases walk?_append (Move.ofPath q) hsplit with ⟨between, left, hleft, hfirst, hrest⟩
      rw [List.foldl_cons, extend_of_walk? hhere hle (hq c List.mem_cons_self) hfirst]
      exact ih (fun d hd => hq d (List.mem_cons_of_mem c hd)) (walk?_isSettled hhere hfirst)
        (hleft.trans hle) hrest

/-- A path that exists resolves to its location. -/
theorem resolve_of_leadsTo? {text : String} {place : List String}
    (h : disk.leadsTo? text = some place) : disk.resolve (ofText text) = pathOf place := by
  unfold leadsTo? at h
  split at h
  · next habs =>
    -- A slash at the end is of no account here: the walk without it ends in the same place.
    have hpath : disk.walk? linkLimit [] (Move.ofPath (ofText text)) = some place := by
      rcases walk?_append _ h with ⟨between, left, _, hfront, hback⟩
      split at hback
      · rw [walk?] at hback
        rcases Option.bind_eq_some_iff.mp hback with ⟨_, _, hrest⟩
        rw [walk?] at hrest
        rw [hfront, hrest]
      · rw [walk?] at hback
        rw [hfront, hback]
    rcases eq_root_cons_of_isAbsolute habs with ⟨q, hq⟩
    have hnames : RootFirst (.root :: q) := hq ▸ rootFirst_ofText text
    rw [hq] at hpath ⊢
    have hwalk : disk.walk? linkLimit [] (Move.ofPath q) = some place := by
      change disk.walk? linkLimit [] (.along .root :: Move.ofPath q) = some place at hpath
      rwa [walk?] at hpath
    have hroot : disk.extend [] .root = pathOf [] := by
      change disk.settle (pathOf []) = _
      rw [settle, location?_pathOf isSettled_root]
    rw [resolve, List.foldl_cons, hroot]
    exact foldl_extend_of_walk? hnames isSettled_root (Nat.le_refl linkLimit) hwalk
  · cases h

end Disk

namespace Sandbox

open ActionPlan.Path

/-- An absolute path that exists resolves to where it leads, and a sandbox below a folder that
    exists accepts it exactly if that is the folder's location or below it. -/
theorem validate_of_leadsTo? {disk : Disk} {text : String} {place : List String}
    (h : disk.leadsTo? text = some place) :
    disk.resolve (ofText text) = Disk.pathOf place ∧
      ∀ folder root, disk.leadsTo? folder = some root →
        (below disk folder).root = Disk.pathOf root ∧
          ∀ r, (below disk folder).validate text = .ok r ↔
            r = Disk.pathOf place ∧ root <+: place := by
  have hresolve := Disk.resolve_of_leadsTo? h
  -- A text that is not absolute leads nowhere.
  have habs : (ofText text).isAbsolute := by
    by_contra hrel
    rw [Disk.leadsTo?, if_neg hrel] at h
    cases h
  refine ⟨hresolve, fun folder root hfolder => ?_⟩
  have hroot : (below disk folder).root = Disk.pathOf root := Disk.resolve_of_leadsTo? hfolder
  refine ⟨hroot, fun r => ?_⟩
  rw [validate_eq_ok_iff, hroot, join, if_pos habs]
  change disk.resolve (ofText text) = r ∧ _ ↔ _
  rw [hresolve]
  constructor
  · rintro ⟨rfl, hprefix⟩
    exact ⟨rfl, prefix_of_pathOf_prefix hprefix⟩
  · rintro ⟨rfl, rest, rfl⟩
    exact ⟨rfl, rest.map Component.name, (Disk.pathOf_append root rest).symm⟩

section

-- What walks come to on a disk that is written out.
attribute [local simp] Disk.linkLimit Disk.walk? Disk.folder? Disk.entry? Disk.entryIn?
  List.lookup_cons

/-- A parent behind a link is that of the folder that the link leads to. The path looks as if it
    stayed in one folder, and it is a path of the other. -/
theorem validate_of_leadsTo?_alias :
    let disk : Disk := ⟨[("srv", .folder [("data", .folder []), ("notes.txt", .file)]),
      ("work", .folder [("alias", .link (Move.ofText "../srv/data/"))])]⟩
    let place := ["srv", "notes.txt"]
    disk.leadsTo? "/work/alias/../notes.txt" = some place ∧
      disk.leadsTo? "/srv/" = some ["srv"] ∧ disk.leadsTo? "/work" = some ["work"] ∧
      (below disk "/srv/").validate "/work/alias/../notes.txt" = .ok (Disk.pathOf place) ∧
      ∀ r, (below disk "/work").validate "/work/alias/../notes.txt" ≠ .ok r := by
  intro disk place
  have hlink : Move.ofText "../srv/data/" =
      [.along .parent, .along (.name "srv"), .along (.name "data"), .stay] := by decide
  have hplace : disk.leadsTo? "/work/alias/../notes.txt" = some place := by
    have htext : Move.ofText "/work/alias/../notes.txt" = [.along .root, .along (.name "work"),
      .along (.name "alias"), .along .parent, .along (.name "notes.txt")] := by decide
    rw [Disk.leadsTo?, if_pos (by decide), htext]
    simp [disk, place, hlink]
  have hsrv : disk.leadsTo? "/srv/" = some ["srv"] := by
    have htext : Move.ofText "/srv/" = [.along .root, .along (.name "srv"), .stay] := by decide
    rw [Disk.leadsTo?, if_pos (by decide), htext]
    simp [disk]
  have hwork : disk.leadsTo? "/work" = some ["work"] := by
    have htext : Move.ofText "/work" = [.along .root, .along (.name "work")] := by decide
    rw [Disk.leadsTo?, if_pos (by decide), htext]
    simp [disk]
  have h := (validate_of_leadsTo? hplace).2
  -- The place is in one of the folders, and it is not below the other.
  refine ⟨hplace, hsrv, hwork, ((h _ _ hsrv).2 _).mpr ⟨rfl, by decide⟩, fun r hok => ?_⟩
  exact absurd (((h _ _ hwork).2 r).mp hok).2 (by decide)

end

end Sandbox

end ActionPlan
