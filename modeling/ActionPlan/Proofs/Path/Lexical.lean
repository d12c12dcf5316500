import ActionPlan.Path.Disk
import Mathlib.Data.List.Basic

/-!
# Lexical Normal Forms

Where a path leads if nobody looks at the disk: a name goes into a folder, a parent leaves
one, and the root starts over. `Disk.resolve` computes something else. It keeps the parents
that it cannot work off, so its result is a path and not yet a location, and it asks the disk
about every prefix. This module relates the two.

`Path.IsNormal` is the shape that resolving leaves behind. Parents come first, then names,
and the root can only stand in front of names. It is stated for pairs of components rather
than as a list of parents followed by a list of names, because every step of resolving adds
or takes away one component at the end, and pairs survive both.

Two paths agree if they lead from every location to the same one, which is what the fold of
`Path.follow` compares. On a disk that holds no links, the location of a path is the one
that its names spell out, so resolving never replaces anything and the resolved path agrees
with the path (`foldl_follow_resolve`).

## Main definitions

* `Path.follow`: The location that one component leads to.
* `Path.normalForm`: The location that a path leads to from the root.
* `Path.IsNormal`: Parents before names, and the root in front of names only.
* `Path.RootFirst`: The root comes first if it comes at all.
* `Disk.IsLinkFree`: No location of the disk holds a link.

## Theorems

* `foldl_follow_join`: Where a path leads that is seen from a folder.
* `rootFirst_ofText`: A path that is read from a text has its root in front.
* `name_of_mem_of_isNormal_append`: Behind a name or the root there are only names.
* `walk?_names`: Without links, a walk along names ends where they spell out.
* `settle_of_isNormal`: Without links, a normal path is already settled.
* `resolve_isNormal`: Without links, resolving a path makes it normal.
* `foldl_follow_resolve`: Without links, resolving a path keeps where it leads.
-/

namespace ActionPlan

namespace Path

/-- The location that a component leads to, if every name is taken for a folder. The root is
    its own parent. -/
def follow (here : List String) : Component → List String
  | .root => []
  | .parent => here.dropLast
  | .name s => here ++ [s]

/-- The location that a path leads to, with points and parents worked off and nothing looked
    up. A relative path is taken to start at the root. -/
def normalForm (p : Path) : List String :=
  p.foldl follow []

/-- Only names come behind a name or the root, and the root comes behind nothing. -/
def IsNormal (p : Path) : Prop :=
  p.Pairwise fun a b => b ≠ .root ∧ (b = .parent → a = .parent)

/-- The root comes first if it comes at all. -/
def RootFirst (p : Path) : Prop :=
  ∀ c ∈ p.tail, c ≠ .root

theorem foldl_follow_names (here names : List String) :
    (names.map Component.name).foldl follow here = here ++ names := by
  induction names generalizing here with
  | nil => rw [List.map_nil, List.foldl_nil, List.append_nil]
  | cons name names ih =>
      rw [List.map_cons, List.foldl_cons, ih]
      simp only [follow, List.append_assoc, List.singleton_append]

theorem normalForm_pathOf (location : List String) :
    normalForm (Disk.pathOf location) = location := by
  rw [normalForm, Disk.pathOf, List.foldl_cons, foldl_follow_names]
  rfl

/-- Parents take away one name each, as long as there are any. -/
theorem length_foldl_follow_parents {p : Path} (hp : ∀ c ∈ p, c = .parent)
    (here : List String) : (p.foldl follow here).length = here.length - p.length := by
  induction p generalizing here with
  | nil => rfl
  | cons c p ih =>
      have hc : c = .parent := hp c List.mem_cons_self
      rw [List.foldl_cons, ih (fun d hd => hp d (List.mem_cons_of_mem _ hd)), hc, follow,
        List.length_dropLast, List.length_cons]
      omega

theorem eq_root_cons_of_isAbsolute {p : Path} (h : p.isAbsolute) : ∃ q, p = .root :: q := by
  rcases p with _ | ⟨c, q⟩
  · exact absurd h (by decide)
  · refine ⟨q, ?_⟩
    simpa only [isAbsolute, List.head?_cons, beq_iff_eq, Option.some.injEq, List.cons.injEq,
      and_true] using h

/-- A path seen from a folder leads where it leads from there. An absolute path starts over
    at the root, so the folder makes no difference to it. -/
theorem foldl_follow_join (folder p : Path) (here : List String) :
    (folder.join p).foldl follow here = p.foldl follow (folder.foldl follow here) := by
  unfold join
  by_cases habs : p.isAbsolute
  · rw [if_pos habs]
    rcases eq_root_cons_of_isAbsolute habs with ⟨q, rfl⟩
    rfl
  · rw [if_neg habs, List.foldl_append]

theorem normalForm_join (folder p : Path) :
    normalForm (folder.join p) = p.foldl follow (normalForm folder) :=
  foldl_follow_join folder p []

theorem component?_ne_root (piece : List Char) : component? piece ≠ some .root := by
  unfold component?
  split
  · exact nofun
  · split
    · exact nofun
    · exact nofun

/-- Reading a text puts the root in front or nowhere, as no piece between slashes denotes
    it. -/
theorem rootFirst_ofText (text : String) : RootFirst (ofText text) := by
  -- The root is no piece of a text, so it can only be in front.
  have hparts : ∀ c ∈ (pieces text.toList).filterMap component?, c ≠ .root := by
    intro c hc hroot
    rcases List.mem_filterMap.mp hc with ⟨piece, _, hpiece⟩
    exact component?_ne_root piece (hroot ▸ hpiece)
  intro c hc
  unfold ofText at hc
  simp only at hc
  split at hc
  · exact hparts c hc
  · exact hparts c (List.mem_of_mem_tail hc)

/-- A relative path whose root would come first has no root. -/
theorem RootFirst.ne_root {p : Path} (h : RootFirst p) (hrel : ¬ p.isAbsolute) :
    ∀ c ∈ p, c ≠ .root := by
  rcases p with _ | ⟨a, q⟩
  · exact fun c hc => absurd hc List.not_mem_nil
  · intro c hc hroot
    rcases List.mem_cons.mp hc with rfl | hq
    · rw [hroot] at hrel
      exact hrel rfl
    · exact h c hq hroot

theorem IsNormal.rootFirst {p : Path} (h : IsNormal p) : RootFirst p := by
  rcases p with _ | ⟨a, p⟩
  · exact fun c hc => absurd hc (List.not_mem_nil)
  · exact fun c hc => ((List.pairwise_cons.mp h).1 c hc).1

/-- A path with its root in front and relative components behind it still has its root in
    front. -/
theorem rootFirst_append {p q : Path} (hp : RootFirst p) (hq : ∀ c ∈ q, c ≠ .root) :
    RootFirst (p ++ q) := by
  rcases p with _ | ⟨a, p⟩
  · exact fun c hc => hq c (List.mem_of_mem_tail hc)
  · intro c hc
    rcases List.mem_append.mp hc with h | h
    · exact hp c h
    · exact hq c h

/-- Behind a component that is no parent there are only names. -/
theorem name_of_mem_of_isNormal_append {p q : Path} (h : IsNormal (p ++ q)) {a : Component}
    (ha : a ∈ p) (hne : a ≠ .parent) : ∃ names : List String, q = names.map Component.name := by
  -- Nothing behind such a component is a root, nor is it a parent.
  have hcross := (List.pairwise_append.mp h).2.2 a ha
  clear h
  induction q with
  | nil => exact ⟨[], rfl⟩
  | cons b q ih =>
      have hb := hcross b List.mem_cons_self
      rcases ih (fun c hc => hcross c (List.mem_cons_of_mem _ hc)) with ⟨names, hnames⟩
      cases b with
      | root => exact absurd rfl hb.1
      | parent => exact absurd (hb.2 rfl) hne
      | name s => exact ⟨s :: names, by rw [hnames, List.map_cons]⟩

/-- An absolute normal path is the path of a location. -/
theorem eq_pathOf_of_isNormal {p : Path} (h : IsNormal p) (habs : p.isAbsolute) :
    ∃ names, p = Disk.pathOf names := by
  rcases eq_root_cons_of_isAbsolute habs with ⟨q, rfl⟩
  have hsplit : IsNormal ([Component.root] ++ q) := h
  rcases name_of_mem_of_isNormal_append hsplit List.mem_cons_self nofun with ⟨names, hnames⟩
  exact ⟨names, by rw [hnames]; rfl⟩

theorem isNormal_append_name {p : Path} (h : IsNormal p) (s : String) :
    IsNormal (p ++ [.name s]) := by
  refine List.pairwise_append.mpr ⟨h, List.pairwise_singleton _ _, ?_⟩
  intro a _ b hb
  rw [List.mem_singleton.mp hb]
  exact ⟨nofun, nofun⟩

theorem isNormal_append_parent {p : Path} (h : IsNormal p) (hall : ∀ a ∈ p, a = .parent) :
    IsNormal (p ++ [.parent]) := by
  refine List.pairwise_append.mpr ⟨h, List.pairwise_singleton _ _, ?_⟩
  intro a ha b hb
  rw [List.mem_singleton.mp hb]
  exact ⟨nofun, fun _ => hall a ha⟩

/-- Nothing but parents comes before a parent. -/
theorem eq_parent_of_getLast? {p : Path} (h : IsNormal p) (hlast : p.getLast? = some .parent) :
    ∀ a ∈ p, a = .parent := by
  rcases List.getLast?_eq_some_iff.mp hlast with ⟨init, rfl⟩
  intro a ha
  rcases List.mem_append.mp ha with hinit | hend
  · exact ((List.pairwise_append.mp h).2.2 a hinit .parent List.mem_cons_self).2 rfl
  · exact List.mem_singleton.mp hend

end Path

namespace Disk

open ActionPlan.Path

/-- No location of the disk holds a link. -/
def IsLinkFree (disk : Disk) : Prop :=
  ∀ location target, disk.entry? location ≠ some (.link target)

/-- The disk that holds nothing below its root has no links. -/
theorem isLinkFree_empty : IsLinkFree {} := by
  intro location target
  rcases location with _ | ⟨name, _ | ⟨next, names⟩⟩
  · exact nofun
  · exact nofun
  · exact nofun

theorem entryIn?_append (name : String) (inner : List (String × Entry)) :
    ∀ (here : List String) (entries : List (String × Entry)),
      entryIn? entries here = some (.folder inner) →
        entryIn? entries (here ++ [name]) = inner.lookup name
  | [], entries, h => by
      simp only [entryIn?, Option.some.injEq, Entry.folder.injEq] at h
      rw [h]
      rfl
  | [first], entries, h => by
      -- The one name leads to the folder, which is then asked for the next name.
      have hfirst : entries.lookup first = some (.folder inner) := h
      simp only [List.cons_append, List.nil_append, entryIn?, hfirst]
  | first :: next :: rest, entries, h => by
      rw [List.cons_append, List.cons_append, entryIn?]
      rw [entryIn?] at h
      · -- The first name leads to a folder, or the location would have no entry.
        cases hlookup : entries.lookup first with
        | none => simp only [hlookup, reduceCtorEq] at h
        | some entry =>
            cases entry with
            | folder inside =>
                simp only [hlookup] at h ⊢
                exact entryIn?_append name inner (next :: rest) inside h
            | file => simp only [hlookup, reduceCtorEq] at h
            | link target => simp only [hlookup, reduceCtorEq] at h
      · exact nofun
      · exact nofun

theorem folder?_eq_some_iff {disk : Disk} {here : List String} {entries : List (String × Entry)} :
    disk.folder? here = some entries ↔ disk.entry? here = some (.folder entries) := by
  unfold folder?
  rcases disk.entry? here with _ | ⟨inner | _ | target⟩
  · exact iff_of_false nofun nofun
  · simp only [Option.some.injEq, Entry.folder.injEq]
  · exact iff_of_false nofun nofun
  · exact iff_of_false nofun nofun

/-- Without links, a walk along names that arrives anywhere arrives where they spell out. -/
theorem walk?_names {disk : Disk} (hdisk : disk.IsLinkFree) (links : Nat)
    (names here place : List String)
    (h : disk.walk? links here (Move.ofPath (names.map Component.name)) = some place) :
    place = here ++ names := by
  induction names generalizing here with
  | nil =>
      rw [List.append_nil]
      simpa only [List.map_nil, Move.ofPath, walk?, Option.some.injEq] using h.symm
  | cons name names ih =>
      rw [List.map_cons, Move.ofPath, List.map_cons, walk?] at h
      -- A walk only passes a name in a folder that has an entry of that name.
      rcases Option.bind_eq_some_iff.mp h with ⟨entries, hfolder, hrest⟩
      have hentry := entryIn?_append name entries here disk.entries
        (folder?_eq_some_iff.mp hfolder)
      cases hlookup : entries.lookup name with
      | none => simp only [hlookup, reduceCtorEq] at hrest
      | some entry =>
          cases entry with
          -- The entry would be a link, and there is none on the disk.
          | link target => exact absurd (hentry.trans hlookup) (hdisk _ target)
          | folder inner =>
              rw [hlookup] at hrest
              rw [ih _ hrest, List.append_assoc]
              rfl
          | file =>
              rw [hlookup] at hrest
              rw [ih _ hrest, List.append_assoc]
              rfl

/-- Without links, a normal path already says where it is, if it exists at all. -/
theorem settle_of_isNormal {disk : Disk} (hdisk : disk.IsLinkFree) {p : Path} (h : p.IsNormal) :
    disk.settle p = p := by
  unfold settle location?
  by_cases habs : p.isAbsolute
  · -- An absolute path in normal form is the path of a location, where its walk arrives.
    rcases eq_pathOf_of_isNormal h habs with ⟨names, rfl⟩
    rw [if_pos habs]
    cases hwalk : disk.walk? linkLimit [] (Move.ofPath (pathOf names)) with
    | none => rfl
    | some place =>
        rw [pathOf, Move.ofPath, List.map_cons, walk?] at hwalk
        rw [walk?_names hdisk linkLimit names [] place hwalk, List.nil_append]
  · -- A relative path has no location.
    rw [if_neg habs]

/-- Extending a normal path by a component other than the root keeps it normal and leads
    where the component does. -/
theorem extend_spec {disk : Disk} (hdisk : disk.IsLinkFree) {p : Path} (h : p.IsNormal)
    {c : Component} (hc : c ≠ .root) :
    (disk.extend p c).IsNormal ∧
      ∀ here, (disk.extend p c).foldl follow here = follow (p.foldl follow here) c := by
  cases c with
  | root => exact absurd rfl hc
  | name s =>
      have hnormal := isNormal_append_name h s
      have hext : disk.extend p (.name s) = p ++ [.name s] := settle_of_isNormal hdisk hnormal
      rw [hext]
      exact ⟨hnormal, fun here => List.foldl_append⟩
  | parent =>
      rcases hlast : p.getLast? with _ | last
      · have hext : disk.extend p .parent = p ++ [.parent] := by simp only [extend, hlast]
        rw [hext]
        rw [List.getLast?_eq_none_iff.mp hlast]
        exact ⟨List.pairwise_singleton _ _, fun here => rfl⟩
      · rcases List.getLast?_eq_some_iff.mp hlast with ⟨init, rfl⟩
        cases last with
        | parent =>
            have hext : disk.extend (init ++ [.parent]) .parent =
                init ++ [.parent] ++ [.parent] := by
              simp only [extend, hlast]
            rw [hext]
            exact ⟨isNormal_append_parent h (eq_parent_of_getLast? h hlast),
              fun here => List.foldl_append⟩
        | root =>
            -- The root is its own parent, for the path and for the location alike.
            have hext : disk.extend (init ++ [.root]) .parent = init ++ [.root] := by
              simp only [extend, hlast]
            rw [hext]
            refine ⟨h, fun here => ?_⟩
            rw [List.foldl_append]
            rfl
        | name s =>
            have hext : disk.extend (init ++ [.name s]) .parent = init := by
              simp only [extend, hlast, List.dropLast_concat]
            rw [hext]
            refine ⟨h.sublist (List.sublist_append_left _ _), fun here => ?_⟩
            rw [List.foldl_append]
            exact List.dropLast_concat.symm

/-- Working off relative components behind a normal path leaves a normal path that leads
    where they do. -/
theorem foldl_extend_spec {disk : Disk} (hdisk : disk.IsLinkFree) :
    ∀ (q : Path) (p : Path), p.IsNormal → (∀ c ∈ q, c ≠ .root) →
      (q.foldl disk.extend p).IsNormal ∧
        ∀ here, (q.foldl disk.extend p).foldl follow here = q.foldl follow (p.foldl follow here)
  | [], p, hp, _ => ⟨hp, fun _ => rfl⟩
  | c :: q, p, hp, hq => by
      have hstep := extend_spec hdisk hp (hq c List.mem_cons_self)
      -- The rest starts from what the first component leaves behind.
      have hrest := foldl_extend_spec hdisk q (disk.extend p c) hstep.1
        fun d hd => hq d (List.mem_cons_of_mem _ hd)
      refine ⟨hrest.1, fun here => ?_⟩
      rw [List.foldl_cons, hrest.2, hstep.2, List.foldl_cons]

/-- Parents cannot be worked off behind parents, so they are kept. -/
theorem foldl_extend_parents (disk : Disk) :
    ∀ (q p : Path), (∀ c ∈ p, c = .parent) → (∀ c ∈ q, c = .parent) →
      q.foldl disk.extend p = p ++ q
  | [], p, _, _ => (List.append_nil p).symm
  | c :: q, p, hp, hq => by
      have hc : c = .parent := hq c List.mem_cons_self
      have hext : disk.extend p c = p ++ [c] := by
        rw [hc]
        -- Nothing is in front of the parent, or another one.
        rcases hlast : p.getLast? with _ | last
        · simp only [extend, hlast]
        · have hparent : last = .parent := hp last (List.mem_of_getLast? hlast)
          rw [hparent] at hlast
          simp only [extend, hlast]
      rw [List.foldl_cons, hext, foldl_extend_parents disk q (p ++ [c]),
        List.append_assoc, List.singleton_append]
      · intro d hd
        rcases List.mem_append.mp hd with h | h
        · exact hp d h
        · rw [List.mem_singleton.mp h, hc]
      · exact fun d hd => hq d (List.mem_cons_of_mem _ hd)

/-- Without links, the resolved path is normal and leads where the path does, from every
    location. -/
theorem resolve_spec {disk : Disk} (hdisk : disk.IsLinkFree) {p : Path} (hp : p.RootFirst) :
    (disk.resolve p).IsNormal ∧
      ∀ here, (disk.resolve p).foldl follow here = p.foldl follow here := by
  unfold resolve
  rcases p with _ | ⟨c, q⟩
  · exact ⟨List.Pairwise.nil, fun _ => rfl⟩
  · by_cases hc : c = .root
    · -- The root is on every disk, and it is where it says.
      subst hc
      have hroot : IsNormal [.root] := List.pairwise_singleton _ _
      have hext : disk.extend [] .root = [.root] := settle_of_isNormal hdisk hroot
      rw [List.foldl_cons, hext]
      exact foldl_extend_spec hdisk q [.root] hroot hp
    · -- Without a root, resolving starts with nothing and meets none.
      refine foldl_extend_spec hdisk (c :: q) [] List.Pairwise.nil fun d hd => ?_
      rcases List.mem_cons.mp hd with rfl | hd
      · exact hc
      · exact hp d hd

theorem resolve_isNormal {disk : Disk} (hdisk : disk.IsLinkFree) {p : Path} (hp : p.RootFirst) :
    (disk.resolve p).IsNormal :=
  (resolve_spec hdisk hp).1

theorem foldl_follow_resolve {disk : Disk} (hdisk : disk.IsLinkFree) {p : Path}
    (hp : p.RootFirst) (here : List String) :
    (disk.resolve p).foldl follow here = p.foldl follow here :=
  (resolve_spec hdisk hp).2 here

end Disk

end ActionPlan
