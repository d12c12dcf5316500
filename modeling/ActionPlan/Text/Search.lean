/-!
# Searching a Text

Looking for a keyword: whether it occurs, where it occurs first, and how often.
Occurrences are counted from the left and never overlap, so after one is found
the search goes on behind it. The recursion is on the text throughout; a match
that spans several characters is skipped by a counter rather than by dropping a
piece of the list, which keeps every definition structural.

## Main definitions

* `contains`: The keyword occurs somewhere.
* `index?`: The position of its first occurrence.
* `occurrences`: The number of occurrences, none overlapping another.
* `mentions`: `contains` for a keyword given as a string.
* `mentionsAny`: At least one keyword of a list occurs.
-/

namespace ActionPlan

namespace Text

/-- The keyword occurs as a contiguous part of the text. -/
def contains (keyword : List Char) : List Char → Bool
  | [] => keyword.isEmpty
  | c :: cs => keyword.isPrefixOf (c :: cs) || contains keyword cs

/-- How many characters precede the first occurrence of the keyword. -/
def index? (keyword : List Char) : List Char → Option Nat
  | [] => if keyword.isEmpty then some 0 else none
  | c :: cs =>
    if keyword.isPrefixOf (c :: cs) then some 0
    else (index? keyword cs).map (· + 1)

/-- The occurrences of the keyword behind the first `skip` characters. -/
def occurrencesAfter (keyword : List Char) (skip : Nat) : List Char → Nat
  | [] => 0
  | c :: cs =>
    match skip with
    | k + 1 => occurrencesAfter keyword k cs
    | 0 =>
      if keyword.isPrefixOf (c :: cs) then
        occurrencesAfter keyword (keyword.length - 1) cs + 1
      else occurrencesAfter keyword 0 cs

/-- The number of occurrences, counted from the left without overlaps. -/
def occurrences (keyword : List Char) (text : List Char) : Nat :=
  occurrencesAfter keyword 0 text

/-- The keyword occurs in the text. -/
def mentions (text : List Char) (keyword : String) : Bool :=
  contains keyword.toList text

/-- One of the keywords occurs in the text. -/
def mentionsAny (text : List Char) (keywords : List String) : Bool :=
  keywords.any (mentions text)

end Text

end ActionPlan
