/-!
# Splitting a Text at Separators

A separator is given by its width at the head of a text, zero where there is
none. The text is cut at the leftmost separator, then behind it again, so that
the pieces and the separators between them make up the whole text in order.

## Main definitions

* `split`: The pieces between the separators; always at least one.
-/

namespace ActionPlan

namespace Text

/-- The pieces of the text behind its first `skip` characters. -/
def splitAfter (width : List Char → Nat) (skip : Nat) : List Char → List (List Char)
  | [] => [[]]
  | c :: cs =>
    match skip with
    | k + 1 => splitAfter width k cs
    | 0 =>
      match width (c :: cs) with
      | k + 1 => [] :: splitAfter width k cs
      | 0 =>
        match splitAfter width 0 cs with
        | [] => [[c]]
        | piece :: pieces => (c :: piece) :: pieces

/-- The pieces of the text between the separators that `width` finds. -/
def split (width : List Char → Nat) (text : List Char) : List (List Char) :=
  splitAfter width 0 text

end Text

end ActionPlan
