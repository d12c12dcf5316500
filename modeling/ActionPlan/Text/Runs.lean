/-!
# Character Classes as Runs

A class of characters from the Unicode character database is stored as the list
of its maximal runs of code points, first and last included, in ascending order.

## Main definitions

* `inRuns`: The character lies in one of the runs.
-/

namespace ActionPlan

namespace Text

/-- The character's code point lies in one of the runs. -/
def inRuns (runs : List (Nat × Nat)) (c : Char) : Bool :=
  runs.any fun run => run.1 ≤ c.toNat && c.toNat ≤ run.2

end Text

end ActionPlan
