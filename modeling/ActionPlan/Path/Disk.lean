import ActionPlan.Path.Basic

/-!
# Disks

A disk is a finite tree of folders, files and links. A link holds the text of a path,
which may be relative to the folder of the link, and may lead to another link, in a
circle, or to nothing.

The location of a path is found by walking it from the root: a name leads to an entry of
the current folder, a link is replaced by the path it holds, and the parent of a folder
is the folder around it. The walk fails where there is no such entry, where something
other than a folder would have to be entered, and behind more links than any useful path
has, which is how circles are noticed.

A path forgets a slash at the end, but a walk may not: a link to a file has a location,
and a link to the same file with a slash behind it has none. So a walk is made of moves, and
one of them stays where it is and only asks for a folder.

Nothing is known about the folder in which relative paths start, so a relative path has
no location.

## Main definitions

* `Move`: What a walk is made of.
* `Entry`, `Disk`: What a disk holds.
* `Disk.entry?`: The entry at a location.
* `Disk.location?`: The location of a path.
* `Disk.resolve`: A path with all that exists of it replaced by its location.
* `Disk.destination?`: The location that a file gets when it is written.
* `Disk.addFolder`, `Disk.addFile`, `Disk.addLink`: A disk with one more entry.
-/

namespace ActionPlan

/-- A move of a walk: along a component, or none at all, where a folder has to be. -/
inductive Move
  | along (c : Component)
  | stay
  deriving DecidableEq

namespace Move

/-- The moves along a path. -/
def ofPath (path : Path) : List Move :=
  path.map .along

/-- The text ends in a slash, or in a single point behind one. -/
def endsInFolder (text : String) : Bool :=
  (Path.pieces text.toList).getLast?.all fun piece => piece.isEmpty || piece == ['.']

/-- The moves that the text of a path asks for. -/
def ofText (text : String) : List Move :=
  ofPath (.ofText text) ++ if endsInFolder text then [.stay] else []

end Move

/-- What a folder can hold. -/
inductive Entry
  | folder (entries : List (String × Entry))
  | file
  | link (target : List Move)

/-- A disk, given by the entries of its root. -/
structure Disk where
  entries : List (String × Entry) := []

namespace Disk

/-- The entry reached by names alone, without following a link. -/
def entryIn? : List (String × Entry) → List String → Option Entry
  | entries, [] => some (.folder entries)
  | entries, [name] => entries.lookup name
  | entries, name :: names =>
    match entries.lookup name with
    | some (.folder inner) => entryIn? inner names
    | _ => none

/-- The entry at a location. -/
def entry? (disk : Disk) (location : List String) : Option Entry :=
  entryIn? disk.entries location

/-- The entries of the folder at a location, if there is one. -/
def folder? (disk : Disk) (location : List String) : Option (List (String × Entry)) :=
  match disk.entry? location with
  | some (.folder entries) => some entries
  | _ => none

/-- How many links one walk may follow. -/
def linkLimit : Nat := 40

/-- The location that a walk ends in, given the links it may still follow, the location
    it has reached, and the moves before it. -/
def walk? (disk : Disk) (links : Nat) (here : List String) : List Move → Option (List String)
  | [] => some here
  | .stay :: moves => do
    let _ ← disk.folder? here
    walk? disk links here moves
  | .along .root :: moves => walk? disk links [] moves
  | .along .parent :: moves => do
    let _ ← disk.folder? here
    walk? disk links here.dropLast moves
  | .along (.name name) :: moves => do
    let entries ← disk.folder? here
    match entries.lookup name with
    | none => none
    | some (.link target) =>
      match links with
      | 0 => none
      | links + 1 => walk? disk links here (target ++ moves)
    | some _ => walk? disk links (here ++ [name]) moves
termination_by moves => (links, moves.length)

/-- The path of a location. -/
def pathOf (location : List String) : Path :=
  .root :: location.map Component.name

/-- The location of a path; none if it does not exist. -/
def location? (disk : Disk) (path : Path) : Option (List String) :=
  if path.isAbsolute then disk.walk? linkLimit [] (Move.ofPath path) else none

/-- What exists of the path replaced by where it is. -/
def settle (disk : Disk) (path : Path) : Path :=
  match disk.location? path with
  | some location => pathOf location
  | none => path

/-- One more component at the end of a resolved path. The parent of a name is what comes
    before it, and the root is its own parent; any other parent stays in the path, so
    that the path never looks as if it stayed inside a folder that it leaves. -/
def extend (disk : Disk) (resolved : Path) : Component → Path
  | .parent =>
    match resolved.getLast? with
    | some (.name _) => resolved.dropLast
    | some .root => resolved
    | _ => resolved ++ [.parent]
  | component => disk.settle (resolved ++ [component])

/-- The path with all that exists of it replaced by its location, component by component,
    so that a parent is that of the folder which a link leads to. -/
def resolve (disk : Disk) (path : Path) : Path :=
  path.foldl disk.extend []

/-- The location that a file gets when it is written at the end of the moves, which start
    in a folder: a link is followed even if nothing is there yet. None if a folder is
    there, or if the folder around it does not exist. -/
def destination? (disk : Disk) (links : Nat) (here : List String) (moves : List Move) :
    Option (List String) :=
  match moves.getLast? with
  | some (.along (.name name)) => do
    let around ← disk.walk? links here moves.dropLast
    let entries ← disk.folder? around
    match entries.lookup name with
    | some (.folder _) => none
    | some (.link target) =>
      match links with
      | 0 => none
      | links + 1 => destination? disk links around target
    | _ => some (around ++ [name])
  | _ => none

/-! ### Building a disk -/

/-- The entries with the named one set. -/
def setEntry (name : String) (entry : Entry) : List (String × Entry) → List (String × Entry)
  | [] => [(name, entry)]
  | (n, e) :: entries =>
    if n = name then (n, entry) :: entries else (n, e) :: setEntry name entry entries

/-- The entries with the one at the end of the names set, if all on the way to it are
    folders. -/
def setIn (entry : Entry) : List String → List (String × Entry) → List (String × Entry)
  | [], entries => entries
  | [name], entries => setEntry name entry entries
  | name :: names, entries =>
    match entries.lookup name with
    | some (.folder inner) => setEntry name (.folder (setIn entry names inner)) entries
    | _ => entries

/-- The disk with the entry at a location set. -/
def set (disk : Disk) (location : List String) (entry : Entry) : Disk :=
  ⟨setIn entry location disk.entries⟩

/-- The disk with the folders on a path that are missing, and the location of the last
    one. None if something other than a folder is in the way. -/
def foldersAlong? (disk : Disk) (here : List String) : Path → Option (Disk × List String)
  | [] => some (disk, here)
  | .root :: path => foldersAlong? disk [] path
  | .parent :: path => foldersAlong? disk here.dropLast path
  | .name name :: path => do
    let entries ← disk.folder? here
    match entries.lookup name with
    | none => foldersAlong? (disk.set (here ++ [name]) (.folder [])) (here ++ [name]) path
    | some _ =>
      let there ← disk.walk? linkLimit here [.along (.name name), .stay]
      foldersAlong? disk there path

/-- The disk with a folder at the end of a path, and the folders on the way. The disk
    stays as it is if something else is in the way. -/
def addFolder (disk : Disk) (path : Path) : Disk :=
  match disk.foldersAlong? [] path with
  | some (disk, _) => disk
  | none => disk

/-- The disk with a file written at the end of a path, and the folders on the way. -/
def addFile (disk : Disk) (path : Path) : Disk :=
  let disk := disk.addFolder path.dropLast
  match disk.destination? linkLimit [] (Move.ofPath path) with
  | some location => disk.set location .file
  | none => disk

/-- The disk with a link at the end of a path, if nothing is there yet, and the folders on
    the way. -/
def addLink (disk : Disk) (path : Path) (target : String) : Disk :=
  match path.getLast?, disk.foldersAlong? [] path.dropLast with
  | some (.name name), some (disk, around) =>
    if (disk.entry? (around ++ [name])).isSome then disk
    else disk.set (around ++ [name]) (.link (Move.ofText target))
  | _, _ => disk

end Disk

end ActionPlan
