import ActionPlan.Proofs.Instruction.Separators
import ActionPlan.Text.Phrase
import Mathlib.Data.List.Basic

/-!
# What Is Taken from a Text

Phrases are looked for in a copy of the text with small ASCII letters, and what they announce is
taken from the text itself. This works because the copy differs from the text in single characters
only, each of which stays in its place and keeps its size. So the copy and the text may be cut at
the same positions (`isValid_lowerAscii_iff`), and what is cut off behind a phrase is a part of the
text, in its own casing (`afterPhrase?_eq_some`).

A part may also be taken from the copy. If it holds no small letter, there is nothing in it that the
copy could have changed, and it is in the text as well (`infix_of_lowerAscii`).

A part that goes into an item must hold more than blanks, and `IsTaken` keeps the two together.

## Main definitions

* `IsBehind`: What stands behind the first place of a phrase.
* `IsTaken`: A contiguous part of a text that holds more than blanks.

## Theorems

* `isValid_lowerAscii_iff`: The copy in small letters has the positions of the text.
* `infix_of_lowerAscii`: Parts of the copy that are parts of the text.
* `strip_isInfix`: What is left between the ends of a text is a part of it.
* `trim_not_blank`: A text without blanks around it is empty or not blank.
* `index?_eq_some`, `afterPhrase?_eq_some`: What stands in front of a phrase and behind it.
* `index?_le`, `isBehind_of_afterPhrase?`: No place of the phrase comes before the one that is
  found.
-/

namespace ActionPlan

namespace Text

variable {text rest part whole : List Char}

/-! ### The copy in small letters -/

theorem utf8Size_toLower (c : Char) : c.toLower.utf8Size = c.utf8Size := by
  rcases toLower_cases c with h | ⟨hlow, hhigh, hsmall⟩
  · rw [h]
  · have hascii : ∀ d : Char, d.toNat ≤ 127 → d.utf8Size = 1 := fun d hd =>
      Char.utf8Size_eq_one_iff.mpr hd
    rw [hascii c (by omega), hascii c.toLower (by omega)]

theorem utf8ByteSize_lowerAscii (text : List Char) :
    (String.ofList (lowerAscii text)).utf8ByteSize = (String.ofList text).utf8ByteSize := by
  induction text with
  | nil => rfl
  | cons c text ih =>
      change (String.ofList (c.toLower :: lowerAscii text)).utf8ByteSize = _
      simp only [String.ofList_cons, String.utf8ByteSize_append, String.utf8ByteSize_singleton, ih,
        utf8Size_toLower]

/-- Between the bytes of the same characters the copy and the text may be cut, and nowhere else. -/
theorem isValid_lowerAscii_iff {position : String.Pos.Raw} :
    position.IsValid (String.ofList (lowerAscii text)) ↔ position.IsValid (String.ofList text) := by
  rw [String.Pos.Raw.isValid_ofList, String.Pos.Raw.isValid_ofList]
  refine exists_congr fun i => ?_
  have htake : (lowerAscii text).take i = lowerAscii (text.take i) := List.map_take.symm
  rw [htake, utf8ByteSize_lowerAscii]

/-- A part of the copy without small letters is a part of the text. -/
theorem infix_of_lowerAscii (hplain : ∀ c ∈ part, ¬ (97 ≤ c.toNat ∧ c.toNat ≤ 122))
    (h : part <:+: lowerAscii text) : part <:+: text := by
  rcases h with ⟨front, back, h⟩
  rcases List.map_eq_append_iff.mp h.symm with ⟨lead, back, rfl, hlead, -⟩
  rcases List.map_eq_append_iff.mp hlead with ⟨front, same, rfl, -, hsame⟩
  have hkeep : same.map Char.toLower = same.map id := by
    refine List.map_congr_left fun c hc => ?_
    -- A capital would have left a small letter.
    rcases toLower_cases c with h | ⟨hlow, hhigh, hsmall⟩
    · exact h
    · refine absurd ?_ (hplain c.toLower (hsame ▸ List.mem_map_of_mem hc))
      omega
  rw [← hsame, hkeep, List.map_id, List.append_assoc]
  exact List.infix_append' _ _ _

/-! ### Between the ends -/

theorem dropEnd_isPrefix (p : Char → Bool) (text : List Char) : dropEnd p text <+: text := by
  unfold dropEnd
  rw [← List.reverse_suffix, List.reverse_reverse]
  exact List.dropWhile_suffix p

/-- What is left when the ends are stripped is a part of the text. -/
theorem strip_isInfix (p : Char → Bool) (text : List Char) : strip p text <:+: text :=
  (dropEnd_isPrefix p _).isInfix.trans (List.dropWhile_suffix p).isInfix

theorem isFlush_reverse_trim (text : List Char) : IsFlush (trim text).reverse := by
  unfold trim strip dropEnd
  rw [List.reverse_reverse]
  exact isFlush_dropWhile _

/-- Trimming stops at the first character that is no blank, on both ends. -/
theorem trim_append {before after : List Char} (hbefore : isBlankText before = true)
    (hafter : isBlankText after = true) (hfirst : IsFlush text) (hlast : IsFlush text.reverse)
    (hne : text ≠ []) : trim (before ++ (text ++ after)) = text := by
  have hstart : dropStart isBlank (before ++ (text ++ after)) = text ++ after := by
    unfold dropStart
    rw [dropWhile_blank_append hbefore, dropWhile_of_isFlush (hfirst.append hne after)]
  unfold trim strip
  rw [hstart, dropEnd, List.reverse_append, dropWhile_blank_append (isBlankText_reverse hafter),
    dropWhile_of_isFlush hlast, List.reverse_reverse]

/-- A text without blanks around it ends in a character that is none. -/
theorem trim_not_blank (h : trim text ≠ []) : isBlankText (trim text) = false := by
  rw [← Bool.not_eq_true, ← trim_eq_nil_iff, trim_trim]
  exact h

/-! ### Behind a phrase -/

/-- In front of the position that is found there are so many characters, and behind it there is the
    keyword. -/
theorem index?_eq_some {keyword : List Char} {i : Nat} (h : index? keyword text = some i) :
    ∃ front back, text = front ++ (keyword ++ back) ∧ front.length = i := by
  induction text generalizing i with
  | nil =>
      unfold index? at h
      split at h
      · -- Only the empty keyword is found in nothing.
        next hempty =>
        rw [List.isEmpty_iff.mp hempty, ← Option.some.inj h]
        exact ⟨[], [], rfl, rfl⟩
      · exact absurd h nofun
  | cons c text ih =>
      unfold index? at h
      split at h
      · next hhere =>
        rcases List.isPrefixOf_iff_prefix.mp hhere with ⟨back, hback⟩
        rw [← Option.some.inj h, ← hback]
        exact ⟨[], back, rfl, rfl⟩
      · -- The keyword is found in the rest, one position earlier.
        rcases Option.map_eq_some_iff.mp h with ⟨j, hj, rfl⟩
        rcases ih hj with ⟨front, back, rfl, rfl⟩
        exact ⟨c :: front, back, rfl, rfl⟩

/-- What follows a phrase stands behind the position at which the phrase is found in the copy. -/
theorem afterPhrase?_cut {phrase : String} (h : afterPhrase? phrase text = some rest) :
    ∃ front found, text = front ++ (found ++ rest) ∧ lowerAscii found = phrase.toList ∧
      index? phrase.toList (lowerAscii text) = some front.length := by
  rcases Option.map_eq_some_iff.mp h with ⟨i, hi, rfl⟩
  -- The phrase was found in the copy, which has a character for each one of the text.
  rcases index?_eq_some hi with ⟨front, back, htext, rfl⟩
  rcases List.map_eq_append_iff.mp htext with ⟨front', tail, rfl, rfl, htail⟩
  rcases List.map_eq_append_iff.mp htail with ⟨found, rest, rfl, hfound, -⟩
  -- What was found is as long as the phrase, so the text is cut where the copy is.
  have hlength : found.length = phrase.toList.length := by rw [← hfound, List.length_map]
  rw [List.length_map] at hi
  refine ⟨front', found, ?_, hfound, hi⟩
  rw [List.length_map, ← hlength, ← List.length_append, ← List.append_assoc, List.drop_left,
    List.append_assoc]

/-- What follows a phrase is what stands in the text behind the phrase, in whatever casing that is
    written there. -/
theorem afterPhrase?_eq_some {phrase : String} (h : afterPhrase? phrase text = some rest) :
    ∃ front found, text = front ++ (found ++ rest) ∧ lowerAscii found = phrase.toList := by
  rcases afterPhrase?_cut h with ⟨front, found, htext, hfound, -⟩
  exact ⟨front, found, htext, hfound⟩

/-- No keyword begins in front of the position that is found. -/
theorem index?_le {keyword front back : List Char} {i : Nat} (h : index? keyword text = some i)
    (htext : text = front ++ (keyword ++ back)) : i ≤ front.length := by
  induction text generalizing front i with
  | nil =>
      unfold index? at h
      split at h
      · rw [← Option.some.inj h]
        exact Nat.zero_le _
      · exact absurd h nofun
  | cons c text ih =>
      unfold index? at h
      split at h
      · -- It is found at the very beginning.
        rw [← Option.some.inj h]
        exact Nat.zero_le _
      · next hlater =>
        rcases Option.map_eq_some_iff.mp h with ⟨j, hj, rfl⟩
        cases front with
        | nil =>
            -- The keyword begins here, where it was not found.
            refine absurd (List.isPrefixOf_iff_prefix.mpr ?_) hlater
            exact ⟨back, htext.symm⟩
        | cons d front => exact Nat.succ_le_succ (ih hj (List.cons.inj htext).2)

/-- The rest stands in the text behind the first place where the phrase is written, in whatever
    casing. -/
def IsBehind (phrase : String) (text rest : List Char) : Prop :=
  ∃ front found, text = front ++ (found ++ rest) ∧ lowerAscii found = phrase.toList ∧
    ∀ front' found' rest', text = front' ++ (found' ++ rest') →
      lowerAscii found' = phrase.toList → front.length ≤ front'.length

theorem isBehind_of_afterPhrase? {phrase : String} (h : afterPhrase? phrase text = some rest) :
    IsBehind phrase text rest := by
  rcases afterPhrase?_cut h with ⟨front, found, htext, hfound, hindex⟩
  refine ⟨front, found, htext, hfound, fun front' found' rest' htext' hfound' => ?_⟩
  -- The other place has one in the copy, at the same position.
  have hcopy : lowerAscii text = lowerAscii front' ++ (phrase.toList ++ lowerAscii rest') := by
    rw [htext', lowerAscii_append, lowerAscii_append, hfound']
  have hle := index?_le hindex hcopy
  rwa [lowerAscii, List.length_map] at hle

theorem index?_eq_none_iff {keyword : List Char} :
    index? keyword text = none ↔ contains keyword text = false := by
  induction text with
  | nil =>
      unfold index? contains
      cases keyword.isEmpty
      · exact iff_of_true rfl rfl
      · exact iff_of_false (Option.some_ne_none 0) Bool.false_ne_true.symm
  | cons c text ih =>
      unfold index? contains
      cases keyword.isPrefixOf (c :: text)
      · -- The keyword does not begin here, so the rest decides on both sides.
        rw [if_neg Bool.false_ne_true, Bool.false_or, Option.map_eq_none_iff, ih]
      · exact iff_of_false (Option.some_ne_none 0) Bool.false_ne_true.symm

theorem afterPhrase?_eq_none_iff {phrase : String} :
    afterPhrase? phrase text = none ↔ mentions (lowerAscii text) phrase = false := by
  unfold afterPhrase? mentions
  rw [Option.map_eq_none_iff, index?_eq_none_iff]

theorem afterPhrase?_suffix {phrase : String} (h : afterPhrase? phrase text = some rest) :
    rest <:+ text := by
  rcases afterPhrase?_eq_some h with ⟨front, found, rfl, -⟩
  exact ⟨front ++ found, List.append_assoc _ _ _⟩

/-- If the keyword never begins in front of a text, the first one is found in the text. -/
theorem index?_append {keyword front : List Char}
    (h : ∀ back, keyword ++ back <:+ front ++ text → keyword ++ back <:+ text) :
    index? keyword (front ++ text) = (index? keyword text).map (front.length + ·) := by
  induction front with
  | nil => simp
  | cons c front ih =>
      -- At the first character the keyword does not begin, or it would begin in front of the text.
      have hlater : ¬ keyword.isPrefixOf (c :: (front ++ text)) = true := by
        intro hhere
        rcases List.isPrefixOf_iff_prefix.mp hhere with ⟨back, hback⟩
        have hlength := (h back (hback ▸ List.suffix_rfl)).length_le
        rw [hback, List.length_cons, List.length_append] at hlength
        omega
      rw [List.cons_append, index?, if_neg hlater,
        ih fun back hback => h back (hback.trans (List.suffix_cons c _)), Option.map_map]
      refine Option.map_congr fun i _ => ?_
      rw [Function.comp_apply, List.length_cons]
      omega

/-- So what follows a phrase does not depend on what stands in front, if the phrase never begins
    there. -/
theorem afterPhrase?_append {phrase : String} {front : List Char}
    (h : ∀ back, phrase.toList ++ back <:+ lowerAscii (front ++ text) →
      phrase.toList ++ back <:+ lowerAscii text) :
    afterPhrase? phrase (front ++ text) = afterPhrase? phrase text := by
  rw [lowerAscii_append] at h
  unfold afterPhrase?
  rw [lowerAscii_append, index?_append h, Option.map_map]
  refine Option.map_congr fun i _ => ?_
  have hlength : (lowerAscii front).length = front.length := List.length_map _
  rw [Function.comp_apply, hlength, Nat.add_assoc, List.drop_length_add_append]

/-! ### Parts for items -/

/-- A contiguous part of the text that holds more than blanks. -/
structure IsTaken (part text : List Char) : Prop where
  isInfix : part <:+: text
  filled : isBlankText part = false

/-- What is taken from a part of a text is taken from the text. -/
theorem IsTaken.of_isInfix (h : IsTaken part text) (htext : text <:+: whole) : IsTaken part whole :=
  ⟨h.isInfix.trans htext, h.filled⟩

theorem isTaken_trim (h : ¬ (trim text).isEmpty = true) : IsTaken (trim text) text :=
  ⟨trim_isInfix text, trim_not_blank fun hnil => h (List.isEmpty_iff.mpr hnil)⟩

end Text

end ActionPlan
