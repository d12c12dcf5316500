import ActionPlan.Proofs.Path.Containment
import ActionPlan.Proofs.Path.Resolution
import Mathlib.Data.List.Infix

/-!
# Where Accepted Files Are Written

A sandbox accepts a path by what it resolves to, and then somebody writes a file there. Writing
follows links once more, and it follows one link that resolving cannot: a link to something
that does not exist has no location, but the file that it names is made when it is written to.

On a disk with any links, an absolute folder resolves to a location, and so does whatever its
sandbox accepts, at or below that location. Writing arrives there too. All names in front of
the last one have to be folders, so a path with something missing in the middle cannot be
written at all, and a walk along folders follows no links. Only at the end can there be one,
and since the path is resolved, it leads nowhere. Then the file is somewhere else, inside or
outside: the sandbox has not looked. `destination_of_validate` says that this is the one way
out.

## Main definitions

* `Disk.IsDangling`: A link that leads nowhere.

## Theorems

* `exists_of_destination?`: What it takes to write a file.
* `entry?_destination?`: A file is never written where a link is.
* `IsResolved.isDangling_iff`: At the end of a resolved path, a link leads nowhere.
* `IsResolved.destination?_eq_iff`: A file is written at the end of its resolved path, or there is
  a link that leads nowhere.
* `destination_of_validate`: Where the files are written that a sandbox accepts.
* `validate_dangling_leaves`: A file outside that a sandbox accepts.
-/

namespace ActionPlan

namespace Disk

open ActionPlan.Path

variable {disk : Disk}

/-- There is a link at the location, and it leads nowhere. -/
def IsDangling (disk : Disk) (location : List String) : Prop :=
  (∃ target, disk.entry? location = some (.link target)) ∧ disk.location? (pathOf location) = none

/-- What it takes to write a file: the last move has a name in an existing folder, and there is
    no link, or a link to a place that can be written. -/
theorem exists_of_destination? {links : Nat} {here place : List String} {moves : List Move}
    (h : disk.destination? links here moves = some place) :
    ∃ (front : List Move) (name : String) (around : List String)
      (entries : List (String × Entry)), moves = front ++ [.along (.name name)] ∧
      disk.walk? links here front = some around ∧ disk.folder? around = some entries ∧
      (place = around ++ [name] ∧ (∀ target, entries.lookup name ≠ some (.link target)) ∨
        ∃ target fewer, entries.lookup name = some (.link target) ∧ links = fewer + 1 ∧
          disk.destination? fewer around target = some place) := by
  unfold destination? at h
  split at h
  · next name hlast =>
    rcases List.getLast?_eq_some_iff.mp hlast with ⟨front, rfl⟩
    rw [List.dropLast_concat] at h
    rcases Option.bind_eq_some_iff.mp h with ⟨around, haround, hwrite⟩
    rcases Option.bind_eq_some_iff.mp hwrite with ⟨entries, hfolder, hrest⟩
    refine ⟨front, name, around, entries, rfl, haround, hfolder, ?_⟩
    split at hrest
    · -- A folder cannot be written to.
      exact absurd hrest nofun
    · next target hlookup =>
      split at hrest
      · -- There are no links left to follow.
        exact absurd hrest nofun
      · next fewer => exact .inr ⟨target, fewer, hlookup, rfl, hrest⟩
    · next hlink => exact .inl ⟨(Option.some.inj hrest).symm, fun target => hlink target⟩
  · -- The moves have no name at their end, so there is nothing to write.
    exact absurd h nofun

/-- Writing goes on until there is no link. -/
theorem entry?_destination? {links : Nat} {here place : List String} {moves : List Move}
    (h : disk.destination? links here moves = some place) (target : List Move) :
    disk.entry? place ≠ some (.link target) := by
  induction links using Nat.strongRecOn generalizing here moves with
  | ind links ih =>
      rcases exists_of_destination? h with ⟨_, name, around, entries, _, _, hfolder, hwrite⟩
      rcases hwrite with ⟨rfl, hnone⟩ | ⟨_, fewer, _, rfl, hrest⟩
      · rw [entry?_concat hfolder]
        exact hnone target
      · exact ih fewer (Nat.lt_succ_self fewer) hrest

/-! ### Resolved paths -/

/-- A resolved path has the location that it says, if it has one. -/
theorem IsResolved.eq_of_location? {location place : List String} (h : disk.IsResolved location)
    (hplace : disk.location? (pathOf location) = some place) : place = location := by
  cases h with
  | settled h =>
      rw [location?_pathOf h] at hplace
      exact (Option.some.inj hplace).symm
  | @missing here name rest h hmissing =>
      rw [location?_pathOf_missing hmissing rest] at hplace
      exact absurd hplace nofun

/-- A link at the end of a resolved path would have been followed if it led anywhere. -/
theorem IsResolved.isDangling_iff {location : List String} (h : disk.IsResolved location) :
    disk.IsDangling location ↔ ∃ target, disk.entry? location = some (.link target) := by
  refine ⟨fun hdangling => hdangling.1, fun hlink => ⟨hlink, ?_⟩⟩
  rcases hlink with ⟨target, htarget⟩
  cases h with
  | settled h =>
      rcases h with ⟨entry, hentry, hsettled⟩
      rw [hentry] at htarget
      exact absurd (Option.some.inj htarget) (hsettled target)
  | @missing here name rest h hmissing => exact location?_pathOf_missing hmissing rest

/-- A file is written at the end of its resolved path, unless there is a link that leads
    nowhere. -/
theorem IsResolved.destination?_eq_iff {location place : List String} (h : disk.IsResolved location)
    (hplace : disk.destination? linkLimit [] (Move.ofPath (pathOf location)) = some place) :
    place = location ↔ ¬ disk.IsDangling location := by
  rw [h.isDangling_iff]
  rcases exists_of_destination? hplace with ⟨front, name, around, entries, hmoves, hwalk, hfolder,
    hwrite⟩
  -- The folder is where the path says, since it is a part of the path and exists.
  have hlocation : location = around ++ [name] := by
    rcases List.eq_nil_or_concat' location with rfl | ⟨init, last, rfl⟩
    · have hroot := congrArg List.getLast? hmoves
      rw [List.getLast?_concat] at hroot
      exact absurd (Option.some.inj hroot) nofun
    · rw [ofPath_pathOf_append] at hmoves
      rcases List.append_inj' hmoves rfl with ⟨hfront, hlast⟩
      have hname : last = name := by
        injection (List.singleton_inj.mp hlast) with hcomponent
        injection hcomponent
      have hinit := h.dropLast
      rw [List.dropLast_concat] at hinit
      rw [← hfront] at hwalk
      rw [hname, hinit.eq_of_location? hwalk]
  have hentry : disk.entry? location = entries.lookup name := by
    rw [hlocation, entry?_concat hfolder]
  rcases hwrite with ⟨hhere, hnone⟩ | ⟨target, _, hlookup, _, _⟩
  · refine iff_of_true (hhere.trans hlocation.symm) ?_
    rintro ⟨target, htarget⟩
    exact hnone target (hentry.symm.trans htarget)
  · have hlink : disk.entry? location = some (.link target) := hentry.trans hlookup
    refine iff_of_false ?_ fun hno => hno ⟨target, hlink⟩
    intro hsame
    rw [← hsame] at hlink
    exact entry?_destination? hplace target hlink

end Disk

namespace Sandbox

open ActionPlan.Path

theorem prefix_of_pathOf_prefix {root location : List String}
    (h : Disk.pathOf root <+: Disk.pathOf location) : root <+: location := by
  rcases (List.cons_prefix_cons.mp h).2 with ⟨rest, hrest⟩
  rcases List.map_eq_append_iff.mp hrest.symm with ⟨front, back, hlocation, hfront, _⟩
  have hinjective : Function.Injective Component.name := fun _ _ hname => by
    injection hname
  rw [hlocation, List.map_injective_iff.mpr hinjective hfront]
  exact List.prefix_append root back

/-- Seen from a location, a path that was read from a text is absolute and has its root in
    front. -/
theorem join_pathOf (root : List String) (path : String) :
    RootFirst ((Disk.pathOf root).join (ofText path)) ∧
      ((Disk.pathOf root).join (ofText path)).isAbsolute := by
  unfold join
  split
  · next habs => exact ⟨rootFirst_ofText path, habs⟩
  · next hrel =>
    -- The components behind the root of a location are names.
    have hroot : RootFirst (Disk.pathOf root) := by
      intro c hc
      rcases List.mem_map.mp hc with ⟨name, _, rfl⟩
      exact nofun
    exact ⟨rootFirst_append hroot ((rootFirst_ofText path).ne_root hrel), rfl⟩

/-- What a sandbox below an absolute folder accepts is a location at or below the location of
    the folder, and a file is written at that location, unless there is a link that leads
    nowhere. -/
theorem destination_of_validate {disk : Disk} {folder path : String} {r : Path}
    (hfolder : (ofText folder).isAbsolute) (hok : (below disk folder).validate path = .ok r) :
    ∃ root location, (below disk folder).root = Disk.pathOf root ∧ r = Disk.pathOf location ∧
      root <+: location ∧
      ∀ place, disk.destination? Disk.linkLimit [] (Move.ofPath r) = some place →
        (place = location ↔ ¬ disk.IsDangling location) := by
  rcases Disk.resolve_of_isAbsolute (rootFirst_ofText folder) hfolder with ⟨root, hroot, _⟩
  rcases (validate_eq_ok_iff _ _ _).mp hok with ⟨hr, hprefix⟩
  have hbelow : (below disk folder).root = Disk.pathOf root := hroot
  rw [hbelow] at hr hprefix
  rcases join_pathOf root path with ⟨hfirst, habs⟩
  rcases Disk.resolve_of_isAbsolute hfirst habs with ⟨location, hlocation, hresolved⟩
  -- What was joined is absolute, so it resolves to a location, and this one was accepted.
  have hpath : r = Disk.pathOf location := hr.symm.trans hlocation
  rw [hpath] at hprefix
  refine ⟨root, location, hbelow, hpath, prefix_of_pathOf_prefix hprefix, ?_⟩
  intro place hplace
  rw [hpath] at hplace
  exact hresolved.destination?_eq_iff hplace

section

-- What walks come to on a disk that is written out.
attribute [local simp] Disk.settle Disk.location? Disk.linkLimit Disk.walk? Disk.folder?
  Disk.entry? Disk.entryIn? Disk.pathOf Move.ofPath isAbsolute List.lookup_cons

/-- A link inside leads to a folder inside, and the file is written there. -/
theorem destination_of_validate_alias :
    let disk : Disk := ⟨[("work", .folder [("real", .folder []),
      ("alias", .link [.along (.name "real")])])]⟩
    let r : Path := Disk.pathOf ["work", "real", "notes.txt"]
    (ofText "/work").isAbsolute = true ∧ (below disk "/work").validate "alias/notes.txt" = .ok r ∧
      disk.destination? Disk.linkLimit [] (Move.ofPath r) = some ["work", "real", "notes.txt"] ∧
      ∃ root location, (below disk "/work").root = Disk.pathOf root ∧ r = Disk.pathOf location ∧
        root <+: location ∧
        ∀ place, disk.destination? Disk.linkLimit [] (Move.ofPath r) = some place →
          (place = location ↔ ¬ disk.IsDangling location) := by
  intro disk r
  have hfolder : (ofText "/work").isAbsolute = true := by decide
  have hok : (below disk "/work").validate "alias/notes.txt" = .ok r := by
    have hwork : ofText "/work" = Disk.pathOf ["work"] := by decide
    have hnotes : ofText "alias/notes.txt" = [.name "alias", .name "notes.txt"] := by decide
    rw [validate, below, hwork, hnotes]
    simp [Disk.resolve, Disk.extend, join, isWithin, disk, r]
  have hplace : disk.destination? Disk.linkLimit [] (Move.ofPath r) =
      some ["work", "real", "notes.txt"] := by
    rw [Disk.destination?]
    simp [disk, r]
  exact ⟨hfolder, hok, hplace, destination_of_validate hfolder hok⟩

/-- A link inside leads to a file outside that does not exist yet. It is accepted as it stands,
    and the file is made when it is written. -/
theorem validate_dangling_leaves :
    let disk : Disk := ⟨[("out", .folder []),
      ("work", .folder [("link", .link (Move.ofPath (Disk.pathOf ["out", "new"])))])]⟩
    disk.location? (ofText "/work") = some ["work"] ∧
      (below disk "/work").root = Disk.pathOf ["work"] ∧
      (below disk "/work").validate "link" = .ok (Disk.pathOf ["work", "link"]) ∧
      disk.destination? Disk.linkLimit [] (Move.ofPath (Disk.pathOf ["work", "link"])) =
        some ["out", "new"] ∧
      ¬ ["work"] <+: ["out", "new"] := by
  intro disk
  have hwork : ofText "/work" = Disk.pathOf ["work"] := by decide
  have hlink : ofText "link" = [.name "link"] := by decide
  refine ⟨?_, ?_, ?_, ?_, by decide⟩
  · rw [hwork]
    simp [disk]
  · rw [below, hwork]
    simp [Disk.resolve, Disk.extend, disk]
  · rw [validate, below, hwork, hlink]
    simp [Disk.resolve, Disk.extend, join, isWithin, disk]
  · -- The first step arrives at the link, and the second one at what the link names.
    rw [Disk.destination?, Disk.linkLimit]
    simp [disk]
    rw [Disk.destination?]
    simp

end

end Sandbox

end ActionPlan
