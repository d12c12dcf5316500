import ActionPlan.Text.Search
import ActionPlan.Proofs.Instruction.Separators

/-!
# Lower Case in Context

`lower` leaves the letters outside ASCII alone, because no search for an ASCII keyword could see
what becomes of them. A full lower case does change them, and it does not even change them one by
one: a capital sigma has one small form at the end of a word and another one elsewhere, so the
letters around it decide. The full lower case of a part of a text need not be a part of the full
lower case of the text, then, and what is known of `lower` could not be carried over that way.

It is carried over through what a keyword can see. `blur` puts one and the same character in the
place of all those outside ASCII. Searching for an ASCII keyword gives the same in a text and in
the blurred text, and the full lower case of a text and `lower` are the same when blurred, whatever
the tables of letters say (`CaseRules`).

## Main definitions

* `isAscii`: The characters that keywords consist of.
* `blur`: A text in which all characters outside ASCII look alike.
* `CaseRules`: The tables that a full lower case goes by.
* `CaseRules.lower`: The full lower case of a text.
* `CaseRules.greek`: The tables for two of the alphabets.

## Theorems

* `contains_blur`, `occurrences_blur`: What is found in a text is found in the blurred text.
* `CaseRules.blur_lower`: The full lower case is `lower`, when blurred.
-/

namespace ActionPlan

namespace Text

variable {keyword text : List Char}

/-! ### Blurred texts -/

/-- A character of ASCII. -/
def isAscii (c : Char) : Bool :=
  c.toNat < 128

/-- The character itself, or the first one behind ASCII. -/
def blurChar (c : Char) : Char :=
  if isAscii c then c else '\u0080'

/-- The text with the same character in the place of all those outside ASCII. -/
def blur (text : List Char) : List Char :=
  text.map blurChar

theorem blur_append (a b : List Char) : blur (a ++ b) = blur a ++ blur b :=
  List.map_append

theorem beq_blurChar {letter : Char} (hletter : isAscii letter = true) (c : Char) :
    (letter == blurChar c) = (letter == c) := by
  unfold blurChar
  split
  · rfl
  · next hforeign =>
    -- An ASCII letter is neither of the two.
    have hne : ∀ d, ¬ isAscii d = true → (letter == d) = false := by
      rintro d hd
      rw [beq_eq_false_iff_ne]
      rintro rfl
      exact hd hletter
    rw [hne _ hforeign, hne '\u0080' (by decide)]

theorem isPrefixOf_blur (hkeyword : keyword.all isAscii = true) (text : List Char) :
    keyword.isPrefixOf (blur text) = keyword.isPrefixOf text := by
  induction keyword generalizing text with
  | nil => rfl
  | cons letter keyword ih =>
      -- What is blurred was no letter of the keyword, and it is none afterwards.
      rw [List.all_cons, Bool.and_eq_true] at hkeyword
      cases text with
      | nil => rfl
      | cons c text =>
          change (letter == blurChar c && keyword.isPrefixOf (blur text)) = _
          rw [beq_blurChar hkeyword.1, ih hkeyword.2]
          rfl

/-- A keyword is in the blurred text if it is in the text. -/
theorem contains_blur (hkeyword : keyword.all isAscii = true) (text : List Char) :
    contains keyword (blur text) = contains keyword text := by
  induction text with
  | nil => rfl
  | cons c text ih =>
      have hhead := isPrefixOf_blur hkeyword (c :: text)
      rw [contains, ← hhead, ← ih]
      rfl

theorem occurrencesAfter_blur (hkeyword : keyword.all isAscii = true) (skip : Nat)
    (text : List Char) :
    occurrencesAfter keyword skip (blur text) = occurrencesAfter keyword skip text := by
  induction text generalizing skip with
  | nil => rfl
  | cons c text ih =>
      cases skip with
      | succ skip => exact ih skip
      | zero =>
          -- Blurring changes nothing about whether the keyword begins here.
          have hhead := isPrefixOf_blur hkeyword (c :: text)
          rw [occurrencesAfter, ← hhead, ← ih, ← ih]
          rfl

/-- It is in the blurred text as often as in the text. -/
theorem occurrences_blur (hkeyword : keyword.all isAscii = true) (text : List Char) :
    occurrences keyword (blur text) = occurrences keyword text :=
  occurrencesAfter_blur hkeyword 0 text

/-! ### Characters outside ASCII -/

theorem isAscii_toLower {c : Char} (h : isAscii c = false) : isAscii c.toLower = false := by
  unfold isAscii at h ⊢
  rw [decide_eq_false_iff_not] at h ⊢
  rcases toLower_cases c with hsame | ⟨_, hhigh, _⟩
  · rwa [hsame]
  · omega

theorem blur_singleton {c : Char} (h : isAscii c = false) : blur [c] = ['\u0080'] := by
  rw [blur, List.map_singleton, blurChar, h]
  rfl

/-! ### Full lower case -/

/-- The tables of a full lower case: which characters are letters with a case, which may stand
    between two letters of a word, and the small forms of single characters. Those of the Kelvin
    sign and of the dotted I hold ASCII letters and are not in the table; apart from these, a
    character outside ASCII has one small form, which is outside ASCII as well. -/
structure CaseRules where
  isCased : Char → Bool
  isIgnorable : Char → Bool
  form : Char → Char
  isAscii_form : ∀ c, isAscii c = false → isAscii (form c) = false

namespace CaseRules

variable (rules : CaseRules)

/-- The next character that is not ignorable is a letter with a case. -/
def meetsLetter (text : List Char) : Bool :=
  (text.dropWhile rules.isIgnorable).head?.any rules.isCased

/-- The small form of a character. What comes before it is given from the end: a word ends where
    a letter is met in that direction and none in the other. The Kelvin sign and the dotted I have
    the forms that `lower` gives them. -/
def lowerChar (before : List Char) (c : Char) (after : List Char) : List Char :=
  if c == 'Σ' then
    [if rules.meetsLetter before && !rules.meetsLetter after then 'ς' else 'σ']
  else if isAscii c || c == '\u212A' || c == '\u0130' then Text.lowerChar c
  else [rules.form c]

/-- The full lower case of a text, behind the characters that come before it. -/
def lowerAfter (before : List Char) : List Char → List Char
  | [] => []
  | c :: after => rules.lowerChar before c after ++ lowerAfter (c :: before) after

/-- The full lower case of a text. -/
def lower (text : List Char) : List Char :=
  rules.lowerAfter [] text

/-- Every small form of a character is the one of `lower`, when blurred. -/
theorem blur_lowerChar (before : List Char) (c : Char) (after : List Char) :
    blur (rules.lowerChar before c after) = blur (Text.lowerChar c) := by
  unfold lowerChar
  split
  · next hsigma =>
    rw [beq_iff_eq.mp hsigma]
    split
    · decide
    · decide
  · split
    · rfl
    · next hforeign =>
      -- Neither the table nor `lower` leads back into ASCII.
      rw [Bool.or_eq_true, Bool.or_eq_true, not_or, not_or, Bool.not_eq_true] at hforeign
      rcases hforeign with ⟨⟨hascii, hkelvin⟩, hdotted⟩
      rw [Text.lowerChar, if_neg hkelvin, if_neg hdotted, blur_singleton (isAscii_toLower hascii),
        blur_singleton (rules.isAscii_form c hascii)]

theorem blur_lowerAfter (before text : List Char) :
    blur (rules.lowerAfter before text) = blur (Text.lower text) := by
  -- What came before decides between forms that look alike, so it may be anything.
  induction text generalizing before with
  | nil => rfl
  | cons c text ih =>
      change blur (rules.lowerChar before c text ++ rules.lowerAfter (c :: before) text) =
        blur (Text.lowerChar c ++ Text.lower text)
      rw [blur_append, blur_append, rules.blur_lowerChar, ih]

/-- The full lower case of a text and `lower` look alike to an ASCII keyword. -/
theorem blur_lower (text : List Char) : blur (rules.lower text) = blur (Text.lower text) :=
  rules.blur_lowerAfter [] text

/-- The tables for texts in English and in Greek without accents. -/
def greek : CaseRules where
  isCased c := c.isAlpha || (0x391 ≤ c.toNat && c.toNat ≤ 0x3C9)
  isIgnorable c := c == '\'' || c == '.' || c == ':'
  form c := if 0x391 ≤ c.toNat && c.toNat ≤ 0x3A9 then Char.ofNat (c.toNat + 32) else c
  isAscii_form := by
    intro c h
    split
    · next hcapital =>
      rw [Bool.and_eq_true, decide_eq_true_eq, decide_eq_true_eq] at hcapital
      have hvalid : (c.toNat + 32).isValidChar := .inl (by omega)
      have hsmall : (Char.ofNat (c.toNat + 32)).toNat = c.toNat + 32 := by
        rw [Char.ofNat, dif_pos hvalid]
        rfl
      rw [isAscii, decide_eq_false_iff_not, hsmall]
      omega
    · exact h

/-- The last sigma of a word has a form of its own, and it is not the last any more when the word
    goes on. -/
example : greek.lower "Ο ΣΟΣ".toList = "ο σος".toList ∧
    greek.lower "Ο ΣΟΣΟ".toList = "ο σοσο".toList := by
  decide +kernel

end CaseRules

end Text

end ActionPlan
