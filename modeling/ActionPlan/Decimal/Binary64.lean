/-!
# Binary Floating Point

Durations, confidences and temperatures are binary64 numbers. A value is kept as
what it denotes, a sign and a significand times a power of two, so that comparing,
rounding and printing are questions about natural numbers with exact answers.

Every finite value has one form: the significand is below `2 ^ 53`, the exponent is
at least `-1074`, and the significand is at least `2 ^ 52` unless the exponent is
the least one. `nearest` produces that form from any fraction, and the arithmetic
here is `nearest` of the exact result, which is what rounding to nearest with ties
to even asks for.

## Main definitions

* `Binary64`: A binary64 value.
* `nearest`: The value nearest to a fraction.
* `times`, `dividedBy`: Product and quotient, rounded.
* `ofDecimal`: The value nearest to a decimal number.
* `powerOfTen`: A power of ten, rounded.
* `isAtMost`: A comparison with a natural number.
-/

namespace ActionPlan

/-- A binary64 value; a finite one is `significand * 2 ^ exponent` with a sign. -/
inductive Binary64
  | finite (negative : Bool) (significand : Nat) (exponent : Int)
  | infinite (negative : Bool)
  | nan
  deriving DecidableEq

namespace Binary64

/-- The natural number nearest to a quotient; the even one if two are equally near. -/
def roundQuotient (num den : Nat) : Nat :=
  let q := num / den
  let r := num % den
  if 2 * r < den then q
  else if den < 2 * r then q + 1
  else q + q % 2

/-- Zero with a sign. -/
def zero (negative : Bool) : Binary64 :=
  .finite negative 0 (-1074)

/-- The value nearest to `num / den`. The exponent is chosen so that the quotient has
    fifty-three binary digits, or fewer at the least exponent; rounding may carry into
    a fifty-fourth, which moves the exponent up by one. -/
def nearest (negative : Bool) (num den : Nat) : Binary64 :=
  if num = 0 then zero negative
  else
    let guess : Int := (num.log2 : Int) - den.log2 - 53
    let fits : Bool :=
      num * Nat.pow 2 (-guess).toNat / (den * Nat.pow 2 guess.toNat) < Nat.pow 2 53
    let e : Int := max (-1074) (if fits then guess else guess + 1)
    let s := roundQuotient (num * Nat.pow 2 (-e).toNat) (den * Nat.pow 2 e.toNat)
    let (s, e) := if s = Nat.pow 2 53 then (Nat.pow 2 52, e + 1) else (s, e)
    if 971 < e then .infinite negative else .finite negative s e

/-- The numerator of a magnitude. -/
def numerator (significand : Nat) (exponent : Int) : Nat :=
  significand * Nat.pow 2 exponent.toNat

/-- The denominator of a magnitude. -/
def denominator (exponent : Int) : Nat :=
  Nat.pow 2 (-exponent).toNat

/-- The value nearest to a natural number. -/
def ofNat (negative : Bool) (n : Nat) : Binary64 :=
  nearest negative n 1

/-- The product with a positive finite number, rounded. -/
def times (x : Binary64) (n : Nat) : Binary64 :=
  match x with
  | .finite sign s e => nearest sign (numerator s e * n) (denominator e)
  | x => x

/-- The quotient by a positive finite number, rounded. -/
def dividedBy (x : Binary64) (n : Nat) : Binary64 :=
  match x with
  | .finite sign s e => nearest sign (numerator s e) (denominator e * n)
  | x => x

/-- The value nearest to `digits * 10 ^ exponent`. Magnitudes that are far outside the
    range are decided without forming the power of ten. -/
def ofDecimal (negative : Bool) (digits : Nat) (exponent : Int) : Binary64 :=
  let top : Int := (Nat.toDigits 10 digits).length + exponent
  if digits = 0 || top < -330 then zero negative
  else if 310 < top then .infinite negative
  else nearest negative (digits * Nat.pow 10 exponent.toNat) (Nat.pow 10 (-exponent).toNat)

/-- The natural number nearest to a power of ten among those with a binary64 form. -/
def powerOfTen (k : Nat) : Nat :=
  match nearest false (Nat.pow 10 k) 1 with
  | .finite _ s e => numerator s e / denominator e
  | _ => 0

/-- Zero of either sign. -/
def isZero : Binary64 → Bool
  | .finite _ s _ => s == 0
  | _ => false

/-- Neither below zero nor above the bound; zero counts with either sign. -/
def isAtMost (bound : Nat) : Binary64 → Bool
  | .finite negative s e =>
    s == 0 || (!negative && numerator s e ≤ bound * denominator e)
  | _ => false

end Binary64

end ActionPlan
