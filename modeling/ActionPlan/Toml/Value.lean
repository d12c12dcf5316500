import ActionPlan.Decimal.Binary64

/-!
# TOML Documents

A document is a table, built from statements: a header opens a table, and an assignment
puts a value into the table that was opened last, possibly through keys that open further
tables on the way. No table may be defined twice and no key assigned twice, so a table
remembers how it came about. One that was only mentioned on the way to another can still
be opened by a header; one that dotted keys made can only be extended by dotted keys; and
one that was written in line is complete. In an array of tables the last one is meant,
whatever leads there, but a key cannot be assigned in it from outside.

## Main definitions

* `Origin`: How a table came about.
* `Value`: What a key can be assigned.
* `Statement`: A header or an assignment.
* `Document.ofStatements?`: The table that statements build.
-/

namespace ActionPlan

namespace Toml

/-- How a table came about: by a header, on the way of a header, or by dotted keys. -/
inductive Origin
  | header
  | implied
  | dotted
  deriving DecidableEq

/-- What a key can be assigned, including tables and arrays of tables. A moment is a date,
    a time or both, as it is written. -/
inductive Value
  | string (s : String)
  | integer (n : Int)
  | float (x : Binary64)
  | boolean (b : Bool)
  | moment (s : String)
  | array (items : List Value)
  | inlineTable (dotted : Bool) (entries : List (String × Value))
  | table (origin : Origin) (entries : List (String × Value))
  | tables (all : List (List (String × Value)))

/-- The keys of a table with what they are assigned. -/
abbrev Entries := List (String × Value)

/-- A header of a table or of one more table in an array, or an assignment. -/
inductive Statement
  | header (path : List String)
  | arrayHeader (path : List String)
  | assign (path : List String) (key : String) (value : Value)

/-- The entries with the value of one key replaced, or with a new key at the end. -/
def setEntry (key : String) (value : Value) : Entries → Entries
  | [] => [(key, value)]
  | (k, v) :: entries =>
    if k = key then (k, value) :: entries else (k, v) :: setEntry key value entries

/-- A key that is assigned for the first time. -/
def addEntry? (key : String) (value : Value) (entries : Entries) : Option Entries :=
  match entries.lookup key with
  | some _ => none
  | none => some (entries ++ [(key, value)])

/-- Changes the table at the end of a path. Tables that are missing on the way are made;
    the way of dotted keys may not enter a table that a header opened, except the last one
    of an array of tables. -/
def changeAt? (dotted : Bool) (change : Origin → Entries → Option Entries) (origin : Origin) :
    List String → Entries → Option Entries
  | [], entries => change origin entries
  | key :: path, entries =>
    match entries.lookup key with
    | none => do
      let made := if dotted then Origin.dotted else .implied
      let inner ← changeAt? dotted change made path []
      some (setEntry key (.table made inner) entries)
    | some (.table origin inner) =>
      if dotted && origin == .header then none
      else do
        let inner ← changeAt? dotted change origin path inner
        some (setEntry key (.table origin inner) entries)
    | some (.tables all) => do
      let last ← all.getLast?
      let inner ← changeAt? dotted change .header path last
      some (setEntry key (.tables (all.dropLast ++ [inner])) entries)
    | some _ => none

/-- Assigns a key in the table at the end of the dotted keys. What dotted keys lead to has
    to be a table that dotted keys made. -/
def assignIn? (path : List String) (key : String) (value : Value) (origin : Origin)
    (entries : Entries) : Option Entries :=
  changeAt? true (fun origin entries =>
    if (origin == .dotted) == path.isEmpty then none else addEntry? key value entries)
    origin path entries

/-- Assigns a key in an inline table, where dotted keys make inline tables. -/
def assignInline? (key : String) (value : Value) : List String → Entries → Option Entries
  | [], entries => addEntry? key value entries
  | k :: path, entries =>
    match entries.lookup k with
    | none => do
      let inner ← assignInline? key value path []
      some (setEntry k (.inlineTable true inner) entries)
    | some (.inlineTable true inner) => do
      let inner ← assignInline? key value path inner
      some (setEntry k (.inlineTable true inner) entries)
    | some _ => none

/-- Opens the table with a key. -/
def openTable? (key : String) (entries : Entries) : Option Entries :=
  match entries.lookup key with
  | none => some (entries ++ [(key, .table .header [])])
  | some (.table .implied inner) => some (setEntry key (.table .header inner) entries)
  | some _ => none

/-- Opens one more table in the array with a key. -/
def openArrayTable? (key : String) (entries : Entries) : Option Entries :=
  match entries.lookup key with
  | none => some (entries ++ [(key, .tables [[]])])
  | some (.tables all) => some (setEntry key (.tables (all ++ [[]])) entries)
  | some _ => none

namespace Document

/-- The document after one more statement, and the table that is open then. -/
def step? (root : Entries) (current : List String) : Statement → Option (Entries × List String)
  | .header path => do
    let key ← path.getLast?
    let root ← changeAt? false (fun _ => openTable? key) .header path.dropLast root
    some (root, path)
  | .arrayHeader path => do
    let key ← path.getLast?
    let root ← changeAt? false (fun _ => openArrayTable? key) .header path.dropLast root
    some (root, path)
  | .assign path key value => do
    let root ← changeAt? false (assignIn? path key value) .header current root
    some (root, current)

/-- The table that statements build; none if one of them breaks a rule. -/
def ofStatements? (statements : List Statement) : Option Entries := do
  let (root, _) ← statements.foldlM (fun (root, current) s => step? root current s) ([], [])
  some root

end Document

end Toml

end ActionPlan
