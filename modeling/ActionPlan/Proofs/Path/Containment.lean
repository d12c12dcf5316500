import ActionPlan.Path.Sandbox
import ActionPlan.Proofs.Path.Lexical

/-!
# What a Sandbox Contains

A sandbox compares resolved paths, and a plan is executed from some current folder that the
sandbox knows nothing about. On a disk without links both can be compared with lexical normal
forms: the folder, the path and what the sandbox makes of it are all seen from the current
folder, and a sandbox confines if nothing that it accepts lies outside.

Resolved paths are compared component by component, and a component that is not a parent can
only be followed by names. So as soon as the resolved folder has such a component, whatever
is accepted adds names to the folder, and adding names leads down. A folder that resolves to
parents alone, such as the current folder or the one around it, has no such component. It is
the beginning of every path that leaves it by one more parent, and the sandbox accepts that
path. `confines_iff` says that there is no other way out.

## Main definitions

* `Sandbox.Confines`: What the sandbox accepts is inside, from every current folder.

## Theorems

* `validate_eq_ok_iff`: What it takes to be accepted.
* `confines_of_exists`: A folder with a component other than a parent confines.
* `validate_parent_of_all`: A folder of parents accepts one more parent.
* `confines_iff`: The folders that confine are those that do not resolve to parents alone.
-/

namespace ActionPlan

namespace Sandbox

open ActionPlan.Path

/-- Seen from every absolute folder, what the sandbox of a folder accepts is where the path
    leads from that folder, and this is the folder or below it. -/
def Confines (disk : Disk) (folder : String) : Prop :=
  ∀ (cwd : Path) (path : String) (r : Path), cwd.isAbsolute →
    (below disk folder).validate path = .ok r →
      normalForm (cwd.join r) = normalForm ((cwd.join (ofText folder)).join (ofText path)) ∧
      normalForm (cwd.join (ofText folder)) <+: normalForm (cwd.join r)

theorem validate_eq_ok_iff (sandbox : Sandbox) (path : String) (r : Path) :
    sandbox.validate path = .ok r ↔
      sandbox.disk.resolve (sandbox.root.join (ofText path)) = r ∧ sandbox.root <+: r := by
  unfold validate isWithin
  simp only
  split
  · next h =>
    rw [List.isPrefixOf_iff_prefix] at h
    constructor
    · intro hok
      rw [Except.ok.injEq] at hok
      exact ⟨hok, hok ▸ h⟩
    · intro hr
      rw [hr.1]
  · next h =>
    constructor
    · exact nofun
    · intro hr
      rw [List.isPrefixOf_iff_prefix, hr.1] at h
      exact absurd hr.2 h

/-- The folder of a sandbox, joined with a path that was read from a text, has its root in
    front. -/
theorem rootFirst_join {disk : Disk} (hdisk : disk.IsLinkFree) (folder path : String) :
    RootFirst ((below disk folder).root.join (ofText path)) := by
  have hroot := (Disk.resolve_isNormal hdisk (rootFirst_ofText folder)).rootFirst
  unfold join
  split
  · exact rootFirst_ofText path
  · next h => exact rootFirst_append hroot ((rootFirst_ofText path).ne_root h)

/-- With a component other than a parent in its resolved folder, a sandbox confines. What is
    accepted continues the folder, and can only do so by names. -/
theorem confines_of_exists {disk : Disk} (hdisk : disk.IsLinkFree) {folder : String}
    (hfolder : ∃ c ∈ (below disk folder).root, c ≠ .parent) : Confines disk folder := by
  intro cwd path r _ hok
  rcases hfolder with ⟨c, hc, hne⟩
  rcases (validate_eq_ok_iff _ _ _).mp hok with ⟨hr, rest, hrest⟩
  have hjoin := rootFirst_join hdisk folder path
  -- What is resolved is in normal form, with parents in front of all names.
  have hnormal : r.IsNormal := hr ▸ Disk.resolve_isNormal hdisk hjoin
  have hroot : ∀ here, (below disk folder).root.foldl follow here
      = (ofText folder).foldl follow here :=
    Disk.foldl_follow_resolve hdisk (rootFirst_ofText folder)
  constructor
  · -- Resolving never changes where a path leads.
    rw [normalForm_join, normalForm_join, normalForm_join, ← hr]
    rw [show (below disk folder).disk = disk from rfl, Disk.foldl_follow_resolve hdisk hjoin,
      foldl_follow_join, hroot]
  · -- Behind the root or a name, a normal form has nothing but names.
    rw [← hrest] at hnormal
    rcases name_of_mem_of_isNormal_append hnormal hc hne with ⟨names, hnames⟩
    rw [normalForm_join, normalForm_join, ← hrest, List.foldl_append, hroot, hnames,
      foldl_follow_names]
    exact List.prefix_append _ _

/-- A folder that resolves to parents alone accepts the path that climbs once more. -/
theorem validate_parent_of_all {disk : Disk} {folder : String}
    (hfolder : ∀ c ∈ (below disk folder).root, c = .parent) :
    (below disk folder).validate ".." = .ok ((below disk folder).root ++ [.parent]) := by
  have hparent : ∀ c ∈ ofText "..", c = .parent := by decide
  rw [validate_eq_ok_iff]
  refine ⟨?_, List.prefix_append _ _⟩
  rw [show (below disk folder).root.join (ofText "..") = (below disk folder).root ++ [.parent]
    from rfl]
  -- A parent is kept where there is no name for it to take away.
  refine Disk.foldl_extend_parents _ _ [] (fun _ h => absurd h List.not_mem_nil) ?_
  intro c hc
  rcases List.mem_append.mp hc with h | h
  · exact hfolder c h
  · exact List.mem_singleton.mp h

/-- On a disk without links, the sandboxes that confine are those of a folder that does not
    resolve to parents alone. -/
theorem confines_iff (disk : Disk) (hdisk : disk.IsLinkFree) (folder : String) :
    Confines disk folder ↔ ∃ c ∈ (below disk folder).root, c ≠ .parent := by
  refine ⟨fun hconf => ?_, confines_of_exists hdisk⟩
  by_contra hnone
  have hall : ∀ c ∈ (below disk folder).root, c = .parent :=
    fun c hc => by_contra fun hne => hnone ⟨c, hc, hne⟩
  -- The current folder is deep enough for the folder, and one more parent leaves the folder.
  set deep : Path := Disk.pathOf (List.replicate ((below disk folder).root.length + 1) "x")
  have hprefix := (hconf deep ".." _ rfl (validate_parent_of_all hall)).2
  have hroot : (ofText folder).foldl follow (normalForm deep)
      = (below disk folder).root.foldl follow (normalForm deep) :=
    (Disk.foldl_follow_resolve hdisk (rootFirst_ofText folder) _).symm
  have hdeep : (normalForm deep).length = (below disk folder).root.length + 1 := by
    rw [normalForm_pathOf, List.length_replicate]
  have hlength := hprefix.length_le
  rw [normalForm_join, normalForm_join, hroot, List.foldl_append, List.foldl_cons, List.foldl_nil,
    follow, List.length_dropLast, length_foldl_follow_parents hall, hdeep] at hlength
  omega

/-- A sandbox below a relative folder accepts a path that leaves a folder and comes back. -/
theorem confines_iff_notes :
    Disk.IsLinkFree {} ∧ (∃ c ∈ (below {} "ws").root, c ≠ .parent) ∧
      (below {} "ws").validate "notes/../a.txt" = .ok [.name "ws", .name "a.txt"] ∧
      normalForm ((Disk.pathOf ["home"]).join (ofText "ws")) <+:
        normalForm ((Disk.pathOf ["home"]).join [.name "ws", .name "a.txt"]) := by
  have hname : ∃ c ∈ (below {} "ws").root, c ≠ .parent := ⟨.name "ws", by decide, nofun⟩
  refine ⟨Disk.isLinkFree_empty, hname, rfl, ?_⟩
  have hconf := (confines_iff {} Disk.isLinkFree_empty "ws").mpr hname
  exact (hconf (Disk.pathOf ["home"]) "notes/../a.txt" _ rfl rfl).2

/-- A sandbox below the current folder accepts a path that leaves it. -/
theorem validate_dot_leaves :
    (below {} ".").validate "../x" = .ok [.parent, .name "x"] ∧
      ¬ normalForm ((Disk.pathOf ["home", "user"]).join (ofText ".")) <+:
        normalForm ((Disk.pathOf ["home", "user"]).join [.parent, .name "x"]) :=
  ⟨rfl, by decide⟩

end Sandbox

end ActionPlan
