import ActionPlan.Decimal.Binary64
import ActionPlan.Text.Digit

/-!
# Reading a Decimal

A decimal text is an optional sign followed by a number, or by the name of an
infinity or of a number that is none. The number may leave out the digits on one
side of its point but not on both, and may end in an exponent. It stands for the
binary64 value nearest to it.

## Main definitions

* `natOfDigits`: The number that decimal digits denote.
* `read?`: The value of a decimal text, if it is one.
-/

namespace ActionPlan

namespace Decimal

/-- The value of an ASCII digit. -/
def digitValue (c : Char) : Nat :=
  c.toNat - '0'.toNat

/-- The number that a row of ASCII digits denotes. -/
def natOfDigits (digits : List Char) : Nat :=
  digits.foldl (fun n c => 10 * n + digitValue c) 0

/-- The exponent that stands at the end of a number: nothing, or a mark, an optional
    sign and at least one digit. -/
def readExponent? : List Char → Option Int
  | [] => some 0
  | mark :: rest =>
    if mark != 'e' && mark != 'E' then none
    else
      let (negative, digits) :=
        match rest with
        | '-' :: ds => (true, ds)
        | '+' :: ds => (false, ds)
        | ds => (false, ds)
      if digits.isEmpty || !digits.all Text.isAsciiDigit then none
      else
        let n : Int := natOfDigits digits
        some (if negative then -n else n)

/-- The value of a number without a sign. -/
def readMagnitude? (negative : Bool) (text : List Char) : Option Binary64 :=
  let whole := text.takeWhile Text.isAsciiDigit
  let (fraction, rest) :=
    match text.dropWhile Text.isAsciiDigit with
    | '.' :: rest => (rest.takeWhile Text.isAsciiDigit, rest.dropWhile Text.isAsciiDigit)
    | rest => ([], rest)
  if whole.isEmpty && fraction.isEmpty then none
  else do
    let exponent ← readExponent? rest
    some (.ofDecimal negative (natOfDigits (whole ++ fraction)) (exponent - fraction.length))

/-- The value of a text without a sign: a name in any casing, or a number. -/
def readUnsigned? (negative : Bool) (text : List Char) : Option Binary64 :=
  let name := String.ofList (text.map Char.toLower)
  if name == "inf" || name == "infinity" then some (.infinite negative)
  else if name == "nan" then some .nan
  else readMagnitude? negative text

/-- The value of a decimal text, if it is one. -/
def read? : List Char → Option Binary64
  | '-' :: rest => readUnsigned? true rest
  | '+' :: rest => readUnsigned? false rest
  | text => readUnsigned? false text

end Decimal

end ActionPlan
