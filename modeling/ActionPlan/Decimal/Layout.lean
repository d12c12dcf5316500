import ActionPlan.Decimal.Shortest

/-!
# Layout of Decimal Text

Once the digits of a value are chosen, what remains is how they are set: where the
positional form ends and the exponent form begins, whether a whole number keeps a
fraction of zero, and whether a positive exponent carries a sign. The places that
write numbers differ in these decisions only, so each of them has one `Layout`, and
there is one function that follows it.

## Main definitions

* `Layout`: The decisions of one written form.
* `Layout.text`: The text of a value in that form.
-/

namespace ActionPlan

namespace Decimal

/-- The decisions of one written form. -/
structure Layout where
  /-- The exponents of the leading digit that are written positionally, as the first
      one and the first one beyond; without bounds every value is. -/
  positional : Option (Int × Int)
  /-- A whole number in positional form ends in `.0`. -/
  pointZero : Bool
  /-- A positive exponent is written with a plus sign. -/
  plusSign : Bool
  /-- The choice between two equally near decimals. -/
  tie : Tie

/-- Digits with the point set `-exponent` places from their end. -/
def positionalText (pointZero : Bool) (digits : List Char) (exponent : Int) : List Char :=
  if 0 ≤ exponent then
    digits ++ List.replicate exponent.toNat '0' ++ (if pointZero then ['.', '0'] else [])
  else
    let places := (-exponent).toNat
    if places < digits.length then
      digits.take (digits.length - places) ++ '.' :: digits.drop (digits.length - places)
    else ['0', '.'] ++ List.replicate (places - digits.length) '0' ++ digits

/-- Digits with the point behind the first one, and the exponent of that one. -/
def exponentText (plusSign : Bool) (digits : List Char) (leading : Int) : List Char :=
  let mantissa :=
    match digits with
    | d :: e :: ds => d :: '.' :: e :: ds
    | ds => ds
  let sign := if leading < 0 then ['-'] else if plusSign then ['+'] else []
  mantissa ++ 'e' :: sign ++ Nat.toDigits 10 leading.natAbs

/-- The text of a positive magnitude. -/
def Layout.magnitude (layout : Layout) (significand : Nat) (exponent : Int) : List Char :=
  let d := shortest layout.tie significand exponent
  let digits := Nat.toDigits 10 d.digits
  let leading : Int := d.exponent + digits.length - 1
  let plain :=
    match layout.positional with
    | none => true
    | some (first, beyond) => first ≤ leading && leading < beyond
  if plain then positionalText layout.pointZero digits d.exponent
  else exponentText layout.plusSign digits leading

/-- The text of a value in this form. -/
def Layout.text (layout : Layout) : Binary64 → String
  | .nan => "NaN"
  | .infinite negative => if negative then "-inf" else "inf"
  | .finite negative s e =>
    let magnitude :=
      if s = 0 then (if layout.pointZero then ['0', '.', '0'] else ['0'])
      else layout.magnitude s e
    String.ofList (if negative then '-' :: magnitude else magnitude)

end Decimal

end ActionPlan
