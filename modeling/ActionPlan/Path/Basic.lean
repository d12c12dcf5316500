import ActionPlan.Text.Search

/-!
# Paths

A path is a list of components. The root comes first if it comes at all; a path without
it is relative. Repeated slashes, slashes at the end and single points say nothing about
where a path leads, so reading a path drops them, and two spellings that differ in
nothing else are one path.

## Main definitions

* `Component`, `Path`: Paths and what they are made of.
* `Path.ofText`, `Path.text`: Reading and writing.
* `Path.isWithin`: A path continues another one.
* `Path.join`: A path seen from a folder.
-/

namespace ActionPlan

/-- A component of a path. -/
inductive Component
  | root
  | parent
  | name (s : String)
  deriving DecidableEq

/-- Components from left to right. -/
abbrev Path := List Component

namespace Path

/-- The texts between slashes. -/
def pieces : List Char → List (List Char)
  | [] => [[]]
  | c :: cs =>
    if c == '/' then [] :: pieces cs
    else
      match pieces cs with
      | [] => [[c]]
      | p :: ps => (c :: p) :: ps

/-- The component that the text between two slashes denotes, if any. -/
def component? (piece : List Char) : Option Component :=
  if piece.isEmpty || piece == ['.'] then none
  else if piece == ['.', '.'] then some .parent
  else some (.name (String.ofList piece))

/-- The path that a text denotes. -/
def ofText (text : String) : Path :=
  let cs := text.toList
  let parts := (pieces cs).filterMap component?
  if cs.head? == some '/' then .root :: parts else parts

/-- The text of a component. -/
def componentText : Component → String
  | .root => ""
  | .parent => ".."
  | .name s => s

/-- The text of a path. -/
def text : Path → String
  | .root :: parts => "/" ++ "/".intercalate (parts.map componentText)
  | parts => "/".intercalate (parts.map componentText)

/-- The path starts at the root. -/
def isAbsolute (p : Path) : Bool :=
  p.head? == some .root

/-- The path as seen from a folder: an absolute path is the same from everywhere. -/
def join (folder p : Path) : Path :=
  if isAbsolute p then p else folder ++ p

/-- The path is the other one, or continues it component by component. -/
def isWithin (p folder : Path) : Bool :=
  folder.isPrefixOf p

end Path

end ActionPlan
