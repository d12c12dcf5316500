import ActionPlan.Decimal.Binary64

/-!
# Shortest Decimals

The decimal text of a binary64 value is the one with the fewest digits among those
that read back to the same value, and among these the one nearest to it. Both parts
are settled by comparing natural numbers.

The reals that round to a value form an interval around it, whose ends are halfway
to the neighbours and belong to it when the significand is even. Below a power of
two the neighbour is only half as far away. For one digit, two digits and so on the
decimals of that many digits form a grid; if any of its points lies in the interval,
one of the two next to the value does, so only those two are tried.

## Main definitions

* `Decimal`: Digits times a power of ten.
* `readsBack`: A decimal lies in the interval of a value.
* `shortest`: The decimal that a value is written as.
-/

namespace ActionPlan

/-- The number `digits * 10 ^ exponent`. -/
structure Decimal where
  digits : Nat
  exponent : Int
  deriving DecidableEq

namespace Decimal

/-- Which of two equally near decimals is chosen. -/
inductive Tie
  | toEven
  | upward
  deriving DecidableEq

/-- Compares `a * 10 ^ i` with `n * 2 ^ j` by clearing the denominators. -/
def compareScaled (a : Nat) (i : Int) (n : Nat) (j : Int) : Ordering :=
  compare (a * Nat.pow 10 i.toNat * Nat.pow 2 (-j).toNat)
    (n * Nat.pow 2 j.toNat * Nat.pow 10 (-i).toNat)

/-- The decimal is one of the reals that round to `significand * 2 ^ exponent`. The
    ends of the interval are quarters of a unit in the last place. -/
def readsBack (significand : Nat) (exponent : Int) (d : Decimal) : Bool :=
  let narrow := significand = Nat.pow 2 52 && -1074 < exponent
  let low := if narrow then 4 * significand - 1 else 4 * significand - 2
  let high := 4 * significand + 2
  let closed := significand % 2 == 0
  let atLow := compareScaled d.digits d.exponent low (exponent - 2)
  let atHigh := compareScaled d.digits d.exponent high (exponent - 2)
  (atLow == .gt || (closed && atLow == .eq)) && (atHigh == .lt || (closed && atHigh == .eq))

/-- The least `k` from `start` on, with at most `fuel` steps, such that the value is
    below `10 ^ k`. -/
def scaleFrom (significand : Nat) (exponent : Int) (start : Int) : Nat → Int
  | 0 => start
  | fuel + 1 =>
    if compareScaled 1 start significand exponent == .gt then start
    else scaleFrom significand exponent (start + 1) fuel

/-- The least `k` such that the value is below `10 ^ k`. The binary logarithm gives an
    estimate that is at most three too low and never too high. -/
def scale (significand : Nat) (exponent : Int) : Int :=
  scaleFrom significand exponent (((significand.log2 : Int) + exponent) * 30103 / 100000 - 1) 5

/-- The decimal of the given number of digits that the value is written as, if one of
    the two next to the value reads back. -/
def candidate? (tie : Tie) (significand : Nat) (exponent : Int) (k : Int) (count : Nat) :
    Option Decimal :=
  let grid : Int := k - count
  let num := significand * Nat.pow 2 exponent.toNat * Nat.pow 10 (-grid).toNat
  let den := Nat.pow 2 (-exponent).toNat * Nat.pow 10 grid.toNat
  let below := num / den
  let lower : Decimal := ⟨below, grid⟩
  let upper : Decimal := ⟨below + 1, grid⟩
  match readsBack significand exponent lower, readsBack significand exponent upper with
  | false, false => none
  | true, false => some lower
  | false, true => some upper
  | true, true =>
    match compare (2 * (num % den)) den with
    | .lt => some lower
    | .gt => some upper
    | .eq =>
      match tie with
      | .upward => some upper
      | .toEven => some (if below % 2 = 0 then lower else upper)

/-- The same number without trailing zeros among its digits. -/
def stripZeros (digits : Nat) (exponent : Int) : Decimal :=
  if h : 0 < digits ∧ digits % 10 = 0 then stripZeros (digits / 10) (exponent + 1)
  else ⟨digits, exponent⟩
termination_by digits
decreasing_by omega

/-- The exact value in decimal, which needs no rounding because two divides ten. -/
def exact (significand : Nat) (exponent : Int) : Decimal :=
  ⟨significand * Nat.pow 2 exponent.toNat * Nat.pow 5 (-exponent).toNat, min exponent 0⟩

/-- The decimal that a positive value is written as: the fewest digits that read back.
    Seventeen always suffice; the exact value stands in for a search without result. -/
def shortest (tie : Tie) (significand : Nat) (exponent : Int) : Decimal :=
  let k := scale significand exponent
  let found := (List.range 17).findSome? fun n => candidate? tie significand exponent k (n + 1)
  let d := found.getD (exact significand exponent)
  stripZeros d.digits d.exponent

end Decimal

end ActionPlan
