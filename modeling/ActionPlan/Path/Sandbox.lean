import ActionPlan.Path.Disk

/-!
# Sandboxes

A plan may touch files below one folder only. A path is accepted if, with links followed
as far as it exists, it continues the resolved path of that folder; a relative path is
seen from the folder. Nothing is created to find out.

Components are compared as wholes, so a neighbour whose name merely starts with the name
of the folder is outside.

## Main definitions

* `Escape`: A path that leads out of its sandbox.
* `PathRule`: A judgement on the paths of a plan.
* `Sandbox`: A folder on a disk.
* `Sandbox.validate`: The judgement of a sandbox.
-/

namespace ActionPlan

/-- A path that leads out of its sandbox. -/
structure Escape where
  path : String
  root : String
  deriving DecidableEq

/-- The text of an escape. -/
def Escape.message (e : Escape) : String :=
  "path '" ++ e.path ++ "' resolves outside workspace " ++ e.root

/-- A judgement on the paths of a plan: where one leads, or that it may not be used. -/
abbrev PathRule := String → Except Escape Path

/-- A folder on a disk, by its resolved path. -/
structure Sandbox where
  disk : Disk
  root : Path

namespace Sandbox

/-- The sandbox below a folder. -/
def below (disk : Disk) (folder : String) : Sandbox :=
  ⟨disk, disk.resolve (.ofText folder)⟩

/-- Where the path leads, if that is inside. -/
def validate (sandbox : Sandbox) (path : String) : Except Escape Path :=
  let resolved := sandbox.disk.resolve (sandbox.root.join (.ofText path))
  if resolved.isWithin sandbox.root then .ok resolved
  else .error ⟨path, sandbox.root.text⟩

end Sandbox

end ActionPlan
