import ActionPlan.Text.Search
import Mathlib.Data.List.Infix

/-!
# Counting Occurrences

Occurrences are counted by a scan that takes the first one it comes to, goes on behind it and does
not look back. This makes it hard to compare the counts of a text and of a part of it. The scan of
the whole text may be in the middle of an occurrence where the part begins, so that it does not
stop where the scan of the part does, and what follows is counted from another place.

`HoldsApart` takes the scan out of the question. A text holds a keyword so many times apart if that
many occurrences can be chosen in it that do not overlap, no matter how they are chosen. A part
hands its occurrences on to the whole text, and the count is the largest number that can be had:
the occurrence that the scan takes is over no later than the first one of any other choice, so
what is left of the text for the scan holds all the others.

## Main definitions

* `HoldsApart`: So many occurrences that do not overlap.

## Theorems

* `HoldsApart.of_isInfix`: What a part holds apart, the whole holds apart.
* `holdsApart_occurrences`: The occurrences that are counted do not overlap.
* `HoldsApart.le_occurrencesAfter`: No choice has more of them.
* `le_occurrences_iff`: The count is the largest number that can be had.
* `occurrences_le_of_isInfix`: Nothing occurs in a part more often than in the whole.
-/

namespace ActionPlan

namespace Text

variable {keyword text part whole : List Char} {n m : Nat}

/-! ### Choices of occurrences -/

/-- The text holds the keyword so many times, one occurrence behind the other. -/
inductive HoldsApart (keyword : List Char) : Nat → List Char → Prop
  | none (text : List Char) : HoldsApart keyword 0 text
  | next {n : Nat} {rest : List Char} (front : List Char) (h : HoldsApart keyword n rest) :
      HoldsApart keyword (n + 1) (front ++ (keyword ++ rest))

theorem HoldsApart.prepend (h : HoldsApart keyword n text) (before : List Char) :
    HoldsApart keyword n (before ++ text) := by
  cases h with
  | none _ => exact .none _
  | next front hrest =>
      rw [← List.append_assoc]
      exact .next (before ++ front) hrest

theorem HoldsApart.append (h : HoldsApart keyword n text) (after : List Char) :
    HoldsApart keyword n (text ++ after) := by
  induction h with
  | none _ => exact .none _
  | next front _ ih =>
      rw [List.append_assoc, List.append_assoc]
      exact .next front ih

theorem HoldsApart.of_isInfix (h : HoldsApart keyword n part) (hpart : part <:+: whole) :
    HoldsApart keyword n whole := by
  rcases hpart with ⟨before, after, rfl⟩
  exact (h.prepend before).append after

theorem HoldsApart.of_le (h : HoldsApart keyword n text) (hle : m ≤ n) :
    HoldsApart keyword m text := by
  induction h generalizing m with
  | none _ =>
      rw [Nat.le_zero.mp hle]
      exact .none _
  | next front _ ih =>
      cases m with
      | zero => exact .none _
      | succ m => exact .next front (ih (Nat.le_of_succ_le_succ hle))

/-- The first of the chosen occurrences, and what is behind it. -/
theorem HoldsApart.exists_first (h : HoldsApart keyword (n + 1) text) :
    ∃ front rest, text = front ++ (keyword ++ rest) ∧ HoldsApart keyword n rest := by
  cases h with
  | next front hrest => exact ⟨front, _, rfl, hrest⟩

/-! ### The scan -/

/-- What the scan goes on with when it has found the keyword: behind the first character, the
    other characters of the keyword are skipped. -/
theorem drop_of_append_eq {c : Char} {cs rest : List Char} (hkeyword : keyword ≠ [])
    (h : keyword ++ rest = c :: cs) : cs.drop (keyword.length - 1) = rest := by
  cases keyword with
  | nil => exact absurd rfl hkeyword
  | cons d keyword =>
      rw [← (List.cons.inj h).2]
      exact List.drop_left

/-- The occurrences that are counted do not overlap. -/
theorem holdsApart_occurrencesAfter (hkeyword : keyword ≠ []) (skip : Nat) (text : List Char) :
    HoldsApart keyword (occurrencesAfter keyword skip text) (text.drop skip) := by
  -- Behind an occurrence the scan skips characters, so nothing is assumed of their number.
  induction text generalizing skip with
  | nil => exact .none _
  | cons c cs ih =>
      cases skip with
      | succ skip => exact ih skip
      | zero =>
          rw [occurrencesAfter]
          split
          · next hfound =>
            -- What the scan goes on with is the text behind this occurrence.
            rcases List.isPrefixOf_iff_prefix.mp hfound with ⟨rest, hrest⟩
            have hlater := ih (keyword.length - 1)
            rw [drop_of_append_eq hkeyword hrest] at hlater
            rw [List.drop_zero, ← hrest]
            exact .next [] hlater
          · exact (ih 0).prepend [c]

/-- What is left when an occurrence has been cut off at the head of a text contains whatever is
    behind an occurrence that stands anywhere in it. -/
theorem isInfix_drop_of_cut {front rest : List Char} (h : text = front ++ (keyword ++ rest)) :
    rest <:+: text.drop keyword.length := by
  have hle : keyword.length ≤ (front ++ keyword).length := by
    rw [List.length_append]
    exact Nat.le_add_left _ _
  rw [h, ← List.append_assoc, List.drop_append_of_le_length hle]
  exact (List.suffix_append _ _).isInfix

/-- No choice of occurrences has more than are counted. -/
theorem HoldsApart.le_occurrencesAfter (hkeyword : keyword ≠ []) (skip : Nat)
    (h : HoldsApart keyword n (text.drop skip)) : n ≤ occurrencesAfter keyword skip text := by
  induction text generalizing skip n with
  | nil =>
      rw [List.drop_nil] at h
      cases n with
      | zero => exact Nat.zero_le _
      | succ n =>
          -- Only an empty keyword occurs in an empty text.
          rcases h.exists_first with ⟨front, rest, hnil, _⟩
          have hboth := (List.append_eq_nil_iff.mp hnil.symm).2
          exact absurd (List.append_eq_nil_iff.mp hboth).1 hkeyword
  | cons c cs ih =>
      cases skip with
      | succ skip => exact ih skip h
      | zero =>
          cases n with
          | zero => exact Nat.zero_le _
          | succ n =>
              rw [List.drop_zero] at h
              rcases h.exists_first with ⟨front, rest, htext, hrest⟩
              rw [occurrencesAfter]
              split
              · -- The scan takes the occurrence at the head, and behind it are all but the first.
                have hlength : keyword.length = keyword.length - 1 + 1 :=
                  (Nat.succ_pred_eq_of_pos (List.length_pos_of_ne_nil hkeyword)).symm
                have hbehind := isInfix_drop_of_cut htext
                rw [hlength, List.drop_succ_cons] at hbehind
                exact Nat.succ_le_succ (ih _ (hrest.of_isInfix hbehind))
              · next hnone =>
                -- No occurrence stands at the head, so the first one comes later.
                cases front with
                | nil =>
                    refine absurd (List.isPrefixOf_iff_prefix.mpr ?_) hnone
                    exact ⟨rest, htext.symm⟩
                | cons d front =>
                    rcases List.cons.inj htext with ⟨rfl, rfl⟩
                    exact ih 0 (.next front hrest)

theorem holdsApart_occurrences (hkeyword : keyword ≠ []) (text : List Char) :
    HoldsApart keyword (occurrences keyword text) text :=
  holdsApart_occurrencesAfter hkeyword 0 text

/-- The count is the largest number of occurrences that do not overlap. -/
theorem le_occurrences_iff (hkeyword : keyword ≠ []) :
    n ≤ occurrences keyword text ↔ HoldsApart keyword n text :=
  ⟨(holdsApart_occurrences hkeyword text).of_le, HoldsApart.le_occurrencesAfter hkeyword 0⟩

/-- Nothing occurs in a part of a text more often than in the whole text. -/
theorem occurrences_le_of_isInfix (hkeyword : keyword ≠ []) (hpart : part <:+: whole) :
    occurrences keyword part ≤ occurrences keyword whole := by
  rw [le_occurrences_iff hkeyword]
  exact (holdsApart_occurrences hkeyword part).of_isInfix hpart

end Text

end ActionPlan
