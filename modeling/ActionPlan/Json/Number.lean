import ActionPlan.Decimal.Layout
import ActionPlan.Decimal.Reader

/-!
# Numbers in JSON

A number without fraction and exponent is a whole number as long as it fits into
sixty-four bits, with or without a sign; every other number is a binary64 value.
Negative zero is one of those, because no whole number has its sign.

The binary64 value of a literal is found digit by digit. A significand collects
digits while it stays below `2 ^ 64`; whole digits beyond that only raise the
exponent, and fraction digits beyond it are dropped. The significand is then
rounded to binary64 and scaled by a power of ten, which is itself rounded. So a
literal with many digits may end in a neighbour of the nearest value, and which
one is part of the format. A literal whose value would be infinite is refused.

## Main definitions

* `Number`: A number as JSON tells them apart.
* `Number.text`: Its text.
* `Literal`: The parts of a number literal.
* `Literal.scan?`: A literal at the head of a text, and what follows it.
* `Literal.number?`: The number that a literal denotes.

## Theorems

* `Literal.scan?_length_lt`: What follows a literal is shorter than the text.
-/

namespace ActionPlan

namespace Json

/-- A number as JSON tells them apart: `n`, `-n` with `n` positive, or binary64. -/
inductive Number
  | natural (n : Nat)
  | negative (n : Nat)
  | binary (x : Binary64)
  deriving DecidableEq

/-- Binary64 values are positional from `1e-5` on and below `1e16`, keep a fraction in
    positional form, and carry a plus sign on positive exponents. -/
def numberLayout : Decimal.Layout where
  positional := some (-5, 16)
  pointZero := true
  plusSign := true
  tie := .toEven

/-- The text of a number. -/
def Number.text : Number → String
  | .natural n => String.ofList (Nat.toDigits 10 n)
  | .negative n => String.ofList ('-' :: Nat.toDigits 10 n)
  | .binary x => numberLayout.text x

/-- The parts of a number literal. -/
structure Literal where
  negative : Bool
  whole : List Char
  fraction : Option (List Char)
  exponent : Option (Bool × List Char)

namespace Literal

/-- The digits at the head of a text and what follows them, if there is a digit. -/
def digits? (text : List Char) : Option (List Char × List Char) :=
  let ds := text.takeWhile Text.isAsciiDigit
  if ds.isEmpty then none else some (ds, text.dropWhile Text.isAsciiDigit)

/-- The whole part: one zero, or digits that do not start with a zero. -/
def whole? (text : List Char) : Option (List Char × List Char) := do
  let (ds, rest) ← digits? text
  if ds.head? == some '0' && ds.length != 1 then none else some (ds, rest)

/-- A fraction, if a point stands at the head; a point without digits is refused. -/
def fraction? : List Char → Option (Option (List Char) × List Char)
  | '.' :: text => do
    let (ds, rest) ← digits? text
    some (some ds, rest)
  | text => some (none, text)

/-- An exponent, if its mark stands at the head; a mark without digits is refused. -/
def exponent? : List Char → Option (Option (Bool × List Char) × List Char)
  | [] => some (none, [])
  | c :: text =>
    if c == 'e' || c == 'E' then
      let (negative, text) :=
        match text with
        | '-' :: rest => (true, rest)
        | '+' :: rest => (false, rest)
        | rest => (false, rest)
      do
        let (ds, rest) ← digits? text
        some (some (negative, ds), rest)
    else some (none, c :: text)

/-- A literal at the head of a text, and what follows it. -/
def scan? (text : List Char) : Option (Literal × List Char) := do
  let (negative, text) :=
    match text with
    | '-' :: rest => (true, rest)
    | rest => (false, rest)
  let (whole, text) ← whole? text
  let (fraction, text) ← fraction? text
  let (exponent, text) ← exponent? text
  some (⟨negative, whole, fraction, exponent⟩, text)

theorem digits?_length_lt {text ds rest : List Char} (h : digits? text = some (ds, rest)) :
    rest.length < text.length := by
  simp only [digits?] at h
  split at h
  · cases h
  · rename_i hne
    cases h
    have happ := congrArg List.length
      (List.takeWhile_append_dropWhile (p := Text.isAsciiDigit) (l := text))
    rw [List.length_append] at happ
    have hpos : 0 < (text.takeWhile Text.isAsciiDigit).length := by
      rw [List.length_pos_iff]
      simpa using hne
    omega

theorem whole?_length_lt {text ds rest : List Char} (h : whole? text = some (ds, rest)) :
    rest.length < text.length := by
  simp only [whole?, Option.bind_eq_bind, Option.bind_eq_some_iff] at h
  obtain ⟨⟨ds', rest'⟩, hd, h⟩ := h
  split at h
  · cases h
  · cases h
    exact digits?_length_lt hd

theorem fraction?_length_le {text rest : List Char} {ds : Option (List Char)}
    (h : fraction? text = some (ds, rest)) : rest.length ≤ text.length := by
  unfold fraction? at h
  split at h
  · simp only [Option.bind_eq_bind, Option.bind_eq_some_iff] at h
    obtain ⟨⟨ds', rest'⟩, hd, h⟩ := h
    cases h
    have := digits?_length_lt hd
    simp only [List.length_cons]
    omega
  · cases h
    exact Nat.le_refl _

theorem exponent?_length_le {text rest : List Char} {e : Option (Bool × List Char)}
    (h : exponent? text = some (e, rest)) : rest.length ≤ text.length := by
  cases text with
  | nil => cases h; exact Nat.le_refl _
  | cons c text =>
    simp only [exponent?] at h
    split at h
    · simp only [Option.bind_eq_bind, Option.bind_eq_some_iff] at h
      obtain ⟨⟨ds', rest'⟩, hd, h⟩ := h
      cases h
      have := digits?_length_lt hd
      simp only [List.length_cons]
      split at this <;> simp_all only [List.length_cons] <;> omega
    · cases h
      exact Nat.le_refl _

/-- What follows a literal is shorter than the text it was found in. -/
theorem scan?_length_lt {text rest : List Char} {l : Literal} (h : scan? text = some (l, rest)) :
    rest.length < text.length := by
  simp only [scan?, Option.bind_eq_bind, Option.bind_eq_some_iff] at h
  obtain ⟨⟨w, r₁⟩, h₁, ⟨f, r₂⟩, h₂, ⟨e, r₃⟩, h₃, h⟩ := h
  cases h
  have := whole?_length_lt h₁
  have := fraction?_length_le h₂
  have := exponent?_length_le h₃
  split at * <;> simp_all only [List.length_cons] <;> omega

/-- A significand with as many further digits as keep it below `2 ^ 64`, and the digits
    that are left over. -/
def gather (significand : Nat) : List Char → Nat × List Char
  | [] => (significand, [])
  | c :: cs =>
    let next := 10 * significand + Decimal.digitValue c
    if next < Nat.pow 2 64 then gather next cs else (significand, c :: cs)

/-- The value divided by a power of ten, in steps of at most 308 places. -/
def shiftDown (x : Binary64) (places : Nat) : Binary64 :=
  if places ≤ 308 then x.dividedBy (Binary64.powerOfTen places)
  else if x.isZero then x
  else shiftDown (x.dividedBy (Binary64.powerOfTen 308)) (places - 308)
termination_by places

/-- The significand rounded and then scaled by a power of ten; none if the result is
    infinite. -/
def scaled? (negative : Bool) (significand : Nat) (exponent : Int) : Option Binary64 :=
  let x := Binary64.ofNat negative significand
  if exponent < 0 then some (shiftDown x (-exponent).toNat)
  else if 308 < exponent then (if significand = 0 then some x else none)
  else
    match x.times (Binary64.powerOfTen exponent.toNat) with
    | .infinite _ => none
    | y => some y

/-- The exponent that a literal is written with. -/
def writtenExponent (l : Literal) : Int :=
  match l.exponent with
  | none => 0
  | some (negative, ds) =>
    let n : Int := Decimal.natOfDigits ds
    if negative then -n else n

/-- The number that a literal denotes; none if its value would be infinite. -/
def number? (l : Literal) : Option Number :=
  let (significand, wholeLeft) := gather 0 l.whole
  match l.fraction, l.exponent, wholeLeft with
  | none, none, [] =>
    if !l.negative then some (.natural significand)
    else if 0 < significand && significand ≤ Nat.pow 2 63 then some (.negative significand)
    else some (.binary (.ofNat true significand))
  | _, _, _ =>
    let digits := l.fraction.getD []
    let (significand, left) := gather significand digits
    let exponent : Int := wholeLeft.length - (digits.length - left.length : Nat)
    (scaled? l.negative significand (exponent + l.writtenExponent)).map .binary

end Literal

end Json

end ActionPlan
