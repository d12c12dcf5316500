import ActionPlan.Proofs.Path.Lexical

/-!
# Resolved Paths

What resolving makes of an absolute path on a disk that holds links. As far as a path exists it
is replaced by its location, and a location is reached by names alone: a walk goes into a name
only if it is no link. So a resolved path is a location that exists, or one with a name behind
it that leads nowhere and more names behind that.

`Disk.IsResolved` is this shape. A parent takes away one name, which leaves the shape alone
whether the name exists or not, and one more name is either found, with the links behind it
followed, or leads nowhere. That a name leads nowhere does not mean that it is not there. It
may be below a file, and it may be a link to something that does not exist.

Once something is missing on the way, names behind it cannot be found (`walk?_append_none`), so
it is enough to say of the first missing name that it is missing.

## Main definitions

* `Disk.IsSettled`: There is something at the location, and it is no link.
* `Disk.IsResolved`: The location of a resolved path.

## Theorems

* `IsSettled.of_append`: What is settled is reached through folders.
* `walk?_settled`: A walk along a settled location arrives there.
* `walk?_isSettled`: A walk ends at a settled location.
* `walk?_append_none`: A walk that fails does not get better by going on.
* `extend_pathOf`: One more component keeps the shape of resolved paths.
* `resolve_of_isAbsolute`: A resolved path has this shape.
-/

namespace ActionPlan

namespace Disk

open ActionPlan.Path

variable {disk : Disk}

/-- There is something at the location, and it is no link. -/
def IsSettled (disk : Disk) (location : List String) : Prop :=
  ∃ entry, disk.entry? location = some entry ∧ ∀ target, entry ≠ .link target

theorem isSettled_root : disk.IsSettled [] :=
  ⟨.folder disk.entries, rfl, nofun⟩

/-! ### Settled locations -/

theorem entryIn?_cons {first : String} {entries inner : List (String × Entry)}
    (h : entries.lookup first = some (.folder inner)) (rest : List String) :
    entryIn? entries (first :: rest) = entryIn? inner rest := by
  cases rest with
  | nil => exact h
  | cons next names =>
      rw [entryIn?, h]
      exact List.cons_ne_nil next names

/-- Whatever has a name is in a folder. -/
theorem exists_folder_of_entryIn? (name : String) (entry : Entry) :
    ∀ (here : List String) (entries : List (String × Entry)),
      entryIn? entries (here ++ [name]) = some entry →
        ∃ inner, entryIn? entries here = some (.folder inner) ∧ inner.lookup name = some entry
  | [], entries, h => ⟨entries, rfl, h⟩
  | first :: rest, entries, h => by
      rw [List.cons_append, entryIn?] at h
      · -- The first name leads to a folder, and the rest is looked for in there.
        split at h
        · next inside hfirst =>
          rw [entryIn?_cons hfirst]
          exact exists_folder_of_entryIn? name entry rest inside h
        · cases h
      · exact List.append_ne_nil_of_right_ne_nil rest (List.cons_ne_nil name [])

theorem entry?_concat {here : List String} {entries : List (String × Entry)}
    (h : disk.folder? here = some entries) (name : String) :
    disk.entry? (here ++ [name]) = entries.lookup name :=
  entryIn?_append name entries here disk.entries (folder?_eq_some_iff.mp h)

/-- Something with a name is settled if its folder has it and it is no link. -/
theorem isSettled_concat_iff {here : List String} {name : String} :
    disk.IsSettled (here ++ [name]) ↔ ∃ entries entry, disk.folder? here = some entries ∧
      entries.lookup name = some entry ∧ ∀ target, entry ≠ .link target := by
  constructor
  · rintro ⟨entry, hentry, hlink⟩
    rcases exists_folder_of_entryIn? name entry here disk.entries hentry with
      ⟨entries, hfolder, hlookup⟩
    exact ⟨entries, entry, folder?_eq_some_iff.mpr hfolder, hlookup, hlink⟩
  · rintro ⟨entries, entry, hfolder, hlookup, hlink⟩
    exact ⟨entry, (entry?_concat hfolder name).trans hlookup, hlink⟩

theorem isSettled_of_folder? {here : List String} {entries : List (String × Entry)}
    (h : disk.folder? here = some entries) : disk.IsSettled here :=
  ⟨.folder entries, folder?_eq_some_iff.mp h, nofun⟩

/-- What is settled is reached through folders. -/
theorem IsSettled.of_append {here names : List String} (h : disk.IsSettled (here ++ names)) :
    disk.IsSettled here := by
  induction names generalizing here with
  | nil => rwa [List.append_nil] at h
  | cons name names ih =>
      rw [List.append_cons] at h
      rcases isSettled_concat_iff.mp (ih h) with ⟨_, _, hfolder, _⟩
      exact isSettled_of_folder? hfolder

theorem IsSettled.dropLast {here : List String} (h : disk.IsSettled here) :
    disk.IsSettled here.dropLast := by
  rcases List.eq_nil_or_concat' here with rfl | ⟨init, name, rfl⟩
  · exact h
  · rw [List.dropLast_concat]
    exact h.of_append

/-! ### Walks -/

/-- A walk along a settled location follows no link and arrives there. -/
theorem walk?_settled {here names : List String} (h : disk.IsSettled (here ++ names)) (links : Nat)
    (moves : List Move) :
    disk.walk? links here (Move.ofPath (names.map Component.name) ++ moves) =
      disk.walk? links (here ++ names) moves := by
  induction names generalizing here with
  | nil =>
      rw [List.append_nil, List.map_nil]
      rfl
  | cons name names ih =>
      rw [List.append_cons] at h ⊢
      rcases isSettled_concat_iff.mp h.of_append with ⟨entries, entry, hfolder, hlookup, hlink⟩
      -- The name is an entry of the folder around it, so the walk passes it.
      rw [← ih h]
      change disk.walk? links here
        (.along (.name name) :: (Move.ofPath (names.map Component.name) ++ moves)) = _
      rw [walk?, hfolder, Option.bind_eq_bind, Option.bind_some, hlookup]
      cases entry with
      | folder _ => rfl
      | file => rfl
      | link target => exact absurd rfl (hlink target)

/-- A walk ends where there is something, and it does not end at a link. -/
theorem walk?_isSettled {links : Nat} {here place : List String} {moves : List Move}
    (hhere : disk.IsSettled here) (h : disk.walk? links here moves = some place) :
    disk.IsSettled place := by
  -- The induction follows the walk: each move leads from a settled location to one.
  induction links, here, moves using walk?.induct with
  | case1 links here =>
      rw [walk?, Option.some.injEq] at h
      rwa [← h]
  | case2 links here moves ih =>
      rw [walk?] at h
      rcases Option.bind_eq_some_iff.mp h with ⟨_, _, hrest⟩
      exact ih hhere hrest
  | case3 links here moves ih =>
      rw [walk?] at h
      -- The root is a folder, whatever came before.
      exact ih isSettled_root h
  | case4 links here moves ih =>
      rw [walk?] at h
      rcases Option.bind_eq_some_iff.mp h with ⟨_, _, hrest⟩
      exact ih hhere.dropLast hrest
  | case5 links here name moves ihlink ihname =>
      rw [walk?] at h
      rcases Option.bind_eq_some_iff.mp h with ⟨entries, hfolder, hrest⟩
      split at hrest
      · cases hrest
      · -- The link is gone, and what it holds is walked from the folder that it is in.
        next target _ =>
        cases links with
        | zero => cases hrest
        | succ links => exact ihlink target hhere hrest
      · next entry hlink hlookup =>
        -- There is an entry that is no link, which is what the longer location asks for.
        exact ihname (isSettled_concat_iff.mpr ⟨entries, entry, hfolder, hlookup, hlink⟩) hrest

/-- A walk that fails does not get better by going on. -/
theorem walk?_append_none {links : Nat} {here : List String} {moves : List Move}
    (h : disk.walk? links here moves = none) (more : List Move) :
    disk.walk? links here (moves ++ more) = none := by
  -- What fails at some move fails there, whatever comes behind it.
  induction links, here, moves using walk?.induct with
  | case1 links here =>
      rw [walk?] at h
      cases h
  | case2 links here moves ih =>
      rw [walk?] at h
      rw [List.cons_append, walk?]
      cases hfolder : disk.folder? here with
      | none => rfl
      | some entries =>
          rw [hfolder] at h
          exact ih h
  | case3 links here moves ih =>
      rw [walk?] at h
      rw [List.cons_append, walk?]
      exact ih h
  | case4 links here moves ih =>
      rw [walk?] at h
      rw [List.cons_append, walk?]
      cases hfolder : disk.folder? here with
      | none => rfl
      | some entries =>
          rw [hfolder] at h
          exact ih h
  | case5 links here name moves ihlink ihname =>
      rw [walk?] at h
      rw [List.cons_append, walk?]
      cases hfolder : disk.folder? here with
      | none => rfl
      | some entries =>
          rw [hfolder] at h
          rw [Option.bind_eq_bind, Option.bind_some] at h ⊢
          split at h
          · rfl
          · -- The link is replaced by its target, and the added moves come behind that.
            next target _ =>
            cases links with
            | zero => rfl
            | succ links =>
                have hmore := ihlink target h
                rw [List.append_assoc] at hmore
                exact hmore
          · -- The name has been passed, and the failure comes later.
            exact ihname h

/-! ### Locations of paths -/

theorem pathOf_append (here names : List String) :
    pathOf (here ++ names) = pathOf here ++ names.map Component.name := by
  rw [pathOf, List.map_append]
  rfl

theorem ofPath_pathOf_append (here names : List String) :
    Move.ofPath (pathOf (here ++ names)) =
      Move.ofPath (pathOf here) ++ Move.ofPath (names.map Component.name) := by
  rw [pathOf_append, Move.ofPath, List.map_append]
  rfl

theorem walk?_pathOf {here : List String} (h : disk.IsSettled here) (links : Nat)
    (there : List String) (moves : List Move) :
    disk.walk? links there (Move.ofPath (pathOf here) ++ moves) = disk.walk? links here moves := by
  change disk.walk? links there
    (.along .root :: (Move.ofPath (here.map Component.name) ++ moves)) = _
  have hhere : disk.IsSettled ([] ++ here) := h
  rw [walk?, walk?_settled hhere, List.nil_append]

theorem location?_pathOf {here : List String} (h : disk.IsSettled here) :
    disk.location? (pathOf here) = some here := by
  have hwalk := walk?_pathOf h linkLimit [] []
  rw [List.append_nil, walk?] at hwalk
  exact hwalk

/-- Nothing is found behind a name that leads nowhere. -/
theorem location?_pathOf_missing {here : List String} {name : String}
    (h : disk.location? (pathOf (here ++ [name])) = none) (rest : List String) :
    disk.location? (pathOf (here ++ name :: rest)) = none := by
  have hmore := walk?_append_none h (Move.ofPath (rest.map Component.name))
  rw [← ofPath_pathOf_append, List.append_assoc] at hmore
  exact hmore

/-- The location of a resolved path: it is settled, or a name behind something settled leads
    nowhere. -/
inductive IsResolved (disk : Disk) : List String → Prop
  | settled {location : List String} (h : disk.IsSettled location) : IsResolved disk location
  | missing {here : List String} {name : String} (rest : List String) (h : disk.IsSettled here)
      (hmissing : disk.location? (pathOf (here ++ [name])) = none) :
      IsResolved disk (here ++ name :: rest)

theorem IsResolved.dropLast {location : List String} (h : disk.IsResolved location) :
    disk.IsResolved location.dropLast := by
  cases h with
  | settled h => exact .settled h.dropLast
  | @missing here name rest h hmissing =>
      -- Going up from below what is missing, one comes out at its folder or stays below it.
      rcases List.eq_nil_or_concat' rest with rfl | ⟨init, last, rfl⟩
      · rw [List.dropLast_concat]
        exact .settled h
      · have hsplit : here ++ name :: (init ++ [last]) = (here ++ name :: init) ++ [last] :=
          (List.append_assoc here (name :: init) [last]).symm
        rw [hsplit, List.dropLast_concat]
        exact .missing init h hmissing

/-- A name that is not found is missing, or comes behind one that is. -/
theorem IsResolved.concat {location : List String} {name : String}
    (h : disk.IsResolved location) (hnone : disk.location? (pathOf (location ++ [name])) = none) :
    disk.IsResolved (location ++ [name]) := by
  cases h with
  | settled h => exact .missing [] h hnone
  | @missing here first rest h hmissing =>
      rw [List.append_assoc, List.cons_append]
      exact .missing (rest ++ [name]) h hmissing

/-! ### Resolving -/

theorem extend_parent_pathOf (disk : Disk) (location : List String) :
    disk.extend (pathOf location) .parent = pathOf location.dropLast := by
  rcases List.eq_nil_or_concat' location with rfl | ⟨init, name, rfl⟩
  · rfl
  · have hpath : pathOf (init ++ [name]) = pathOf init ++ [.name name] := pathOf_append init [name]
    rw [hpath, extend, List.getLast?_concat, List.dropLast_concat, List.dropLast_concat]

/-- One more component keeps the shape of resolved paths. -/
theorem extend_pathOf {location : List String} (h : disk.IsResolved location) {c : Component}
    (hc : c ≠ .root) :
    ∃ next, disk.extend (pathOf location) c = pathOf next ∧ disk.IsResolved next := by
  cases c with
  | root => exact absurd rfl hc
  | parent => exact ⟨location.dropLast, extend_parent_pathOf disk location, h.dropLast⟩
  | name s =>
      have hextend : disk.extend (pathOf location) (.name s) =
          disk.settle (pathOf (location ++ [s])) := by
        rw [pathOf_append]
        rfl
      rw [hextend, settle]
      -- The longer path exists and is settled, or it is the first thing that is missing.
      cases hplace : disk.location? (pathOf (location ++ [s])) with
      | none => exact ⟨location ++ [s], rfl, h.concat hplace⟩
      | some place => exact ⟨place, rfl, .settled (walk?_isSettled isSettled_root hplace)⟩

theorem foldl_extend_pathOf {q : Path} (hq : ∀ c ∈ q, c ≠ .root) {location : List String}
    (h : disk.IsResolved location) :
    ∃ next, q.foldl disk.extend (pathOf location) = pathOf next ∧ disk.IsResolved next := by
  induction q generalizing location with
  | nil => exact ⟨location, rfl, h⟩
  | cons c q ih =>
      rcases extend_pathOf h (hq c List.mem_cons_self) with ⟨next, hnext, hresolved⟩
      rw [List.foldl_cons, hnext]
      exact ih (fun d hd => hq d (List.mem_cons_of_mem _ hd)) hresolved

/-- An absolute path resolves to the path of a location, and what is missing of it comes last. -/
theorem resolve_of_isAbsolute {p : Path} (hp : p.RootFirst) (habs : p.isAbsolute) :
    ∃ location, disk.resolve p = pathOf location ∧ disk.IsResolved location := by
  rcases eq_root_cons_of_isAbsolute habs with ⟨q, rfl⟩
  have hroot : disk.extend [] .root = pathOf [] := by
    change disk.settle (pathOf []) = _
    rw [settle, location?_pathOf isSettled_root]
  rw [resolve, List.foldl_cons, hroot]
  exact foldl_extend_pathOf hp (.settled isSettled_root)

end Disk

end ActionPlan
