/-!
# Excerpts

A long text is shown by its beginning. The limit counts characters, and the dots
that mark the cut come on top of it.

## Main definitions

* `excerpt`: The text, cut to a number of characters and marked if it was longer.
-/

namespace ActionPlan

namespace Text

/-- The text itself if it has at most `limit` characters, otherwise its first
    `limit` characters followed by three dots. -/
def excerpt (limit : Nat) (text : String) : String :=
  let cs := text.toList
  if limit < cs.length then String.ofList (cs.take limit) ++ "..." else text

end Text

end ActionPlan
