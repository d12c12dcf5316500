import ActionPlan.Text.Blank
import ActionPlan.Text.Split
import Mathlib.Data.List.TakeWhile

/-!
# Pieces of a Text

What is left of a text when its blank ends are taken off, and what it falls into when it is
cut at separators. Both are contiguous parts of the text, and most of what is known about a
text is handed down to its parts.

Splitting is written as one scan that carries a counter, which is a good way to run and a bad
one to reason about. `IsSplit` is the same thing read from the result: a piece in which no
separator begins, the separator behind it, and the split of the rest. `isSplit_split` says
that the scan produces it, and no later proof opens the scan again.

A separator is searched for by its width, but what is to be said about separators is which
texts they are. `Finds` ties the two together: the width is positive exactly where a text of
the language begins, and it measures one. From then on, "no separator begins here" and "no
part of the piece is a separator" are the same (`IsSplit.not_separator`).

## Main definitions

* `IsFlush`: A text that does not begin with a blank.
* `IsSplit`: The pieces of a text, with the separators between them.
* `Finds`: A width that finds the texts of a language.

## Theorems

* `append_mark_eq_iff`: Two cuts of a text at the same mark.
* `trim_spec`: The ends that trimming takes off are blank.
* `infix_of_blank_ends`: A part without blanks at its ends does not reach into blanks around.
* `isSplit_split`: Splitting yields a split.
* `IsSplit.infix_of_mem`: The pieces are parts of the text.
* `IsSplit.not_separator`: No part of a piece is a separator.
-/

namespace ActionPlan

/-- A text can be cut at a mark in another place only if the mark occurs once more in between. -/
theorem append_mark_eq_iff {α : Type} {mark : α} {front back front' back' : List α} :
    front ++ mark :: back = front' ++ mark :: back' ↔
      (front = front' ∧ back = back') ∨
      (∃ moved, front' = front ++ mark :: moved ∧ back = moved ++ mark :: back') ∨
      (∃ moved, front = front' ++ mark :: moved ∧ back' = moved ++ mark :: back) := by
  constructor
  · intro h
    rcases List.append_eq_append_iff.mp h with ⟨gap, hfront, hback⟩ | ⟨gap, hfront, hback⟩
    · -- The second front is the longer one. If it is no longer at all, the cuts are the same.
      cases gap with
      | nil =>
          rw [List.append_nil] at hfront
          exact .inl ⟨hfront.symm, (List.cons.inj hback).2⟩
      | cons c moved =>
          -- What the second front has more begins with the first mark.
          rcases List.cons.inj hback with ⟨rfl, hmoved⟩
          exact .inr (.inl ⟨moved, hfront, hmoved⟩)
    · -- The first front is the longer one, and all is the other way round.
      cases gap with
      | nil =>
          rw [List.append_nil] at hfront
          exact .inl ⟨hfront, (List.cons.inj hback).2.symm⟩
      | cons c moved =>
          rcases List.cons.inj hback with ⟨rfl, hmoved⟩
          exact .inr (.inr ⟨moved, hfront, hmoved⟩)
  · rintro (⟨rfl, rfl⟩ | ⟨moved, rfl, rfl⟩ | ⟨moved, rfl, rfl⟩)
    · rfl
    · rw [List.append_assoc, List.cons_append]
    · rw [List.append_assoc, List.cons_append]

namespace Text

variable {text part : List Char}

/-! ### Blank ends -/

/-- The text does not begin with a blank. -/
def IsFlush (text : List Char) : Prop :=
  ∀ c ∈ text.head?, isBlank c = false

instance (text : List Char) : Decidable (IsFlush text) :=
  decidable_of_iff (text.head?.all (!isBlank ·) = true) <| by
    unfold IsFlush
    cases text.head? with
    | none => exact iff_of_true rfl nofun
    | some c =>
        rw [Option.all_some, Bool.not_eq_true']
        exact ⟨fun h d hd => Option.some.inj hd ▸ h, fun h => h c rfl⟩

theorem IsFlush.append (h : IsFlush text) (hne : text ≠ []) (rest : List Char) :
    IsFlush (text ++ rest) := by
  obtain ⟨c, cs, rfl⟩ := List.exists_cons_of_ne_nil hne
  exact fun d hd => h d hd

theorem isBlankText_iff : isBlankText text = true ↔ ∀ c ∈ text, isBlank c = true := by
  unfold isBlankText
  rw [List.all_eq_true]

theorem not_blank_of_mem {c : Char} (hmem : c ∈ text) (hc : isBlank c = false) :
    isBlankText text = false := by
  unfold isBlankText
  rw [List.all_eq_false]
  exact ⟨c, hmem, by rw [hc]; decide⟩

theorem not_mem_of_isBlankText {c : Char} (hc : isBlank c = false)
    (h : isBlankText text = true) : c ∉ text := by
  intro hmem
  rw [isBlankText_iff.mp h c hmem] at hc
  exact absurd hc nofun

theorem isFlush_dropWhile (text : List Char) : IsFlush (text.dropWhile isBlank) := by
  intro c hc
  have hhead := List.head?_dropWhile_not isBlank text
  rw [Option.mem_def] at hc
  rw [hc] at hhead
  simpa using hhead

theorem isBlankText_takeWhile (text : List Char) :
    isBlankText (text.takeWhile isBlank) = true :=
  isBlankText_iff.mpr fun _ hc => List.mem_takeWhile_imp hc

theorem isBlankText_append {rest : List Char} (h : isBlankText text = true)
    (hrest : isBlankText rest = true) : isBlankText (text ++ rest) = true := by
  rw [isBlankText, List.all_append, Bool.and_eq_true]
  exact ⟨h, hrest⟩

theorem isBlankText_reverse (h : isBlankText text = true) : isBlankText text.reverse = true := by
  rw [isBlankText, List.all_reverse]
  exact h

/-- The ends that trimming takes off are blank, and nothing else is taken. -/
theorem trim_spec (text : List Char) :
    ∃ before after, isBlankText before = true ∧ isBlankText after = true ∧
      text = before ++ (trim text ++ after) := by
  -- The end is stripped from the reverse of what the start left over.
  set rest := text.dropWhile isBlank with hrest
  refine ⟨text.takeWhile isBlank, (rest.reverse.takeWhile isBlank).reverse,
    isBlankText_takeWhile text, isBlankText_reverse (isBlankText_takeWhile rest.reverse), ?_⟩
  have hend : trim text ++ (rest.reverse.takeWhile isBlank).reverse = rest := by
    rw [trim, strip, dropEnd, dropStart, ← hrest, ← List.reverse_append,
      List.takeWhile_append_dropWhile, List.reverse_reverse]
  rw [hend, hrest, List.takeWhile_append_dropWhile]

theorem trim_isInfix (text : List Char) : trim text <:+: text := by
  rcases trim_spec text with ⟨before, after, _, _, htext⟩
  exact ⟨before, after, by rw [List.append_assoc, ← htext]⟩

theorem mem_trim {c : Char} (hmem : c ∈ text) (hc : isBlank c = false) : c ∈ trim text := by
  rcases trim_spec text with ⟨before, after, hbefore, hafter, htext⟩
  rw [htext, List.mem_append, List.mem_append] at hmem
  exact (hmem.resolve_left (not_mem_of_isBlankText hc hbefore)).resolve_right
    (not_mem_of_isBlankText hc hafter)

theorem isFlush_trim (text : List Char) : IsFlush (trim text) := by
  intro c hc
  -- What trimming keeps is a prefix of a text that is flush already.
  have hprefix : trim text <+: text.dropWhile isBlank := by
    rw [trim, strip, dropEnd, dropStart, ← List.reverse_suffix, List.reverse_reverse]
    exact List.dropWhile_suffix isBlank
  rcases hprefix with ⟨after, hafter⟩
  have hhead : c ∈ (text.dropWhile isBlank).head? := by
    rw [Option.mem_def] at hc ⊢
    rw [← hafter, List.head?_append, hc]
    rfl
  exact isFlush_dropWhile text c hhead

theorem dropWhile_of_isFlush (h : IsFlush text) : text.dropWhile isBlank = text := by
  cases text with
  | nil => rfl
  | cons c text =>
      have hc : isBlank c = false := h c rfl
      rw [List.dropWhile_cons_of_neg (by rw [hc]; exact nofun)]

/-- A trimmed text has nothing left to trim. -/
theorem trim_trim (text : List Char) : trim (trim text) = trim text := by
  have hstart : dropStart isBlank (trim text) = trim text :=
    dropWhile_of_isFlush (isFlush_trim text)
  change dropEnd isBlank (dropStart isBlank (trim text)) = trim text
  rw [hstart, trim, strip, dropEnd, dropEnd, List.reverse_reverse,
    dropWhile_of_isFlush (isFlush_dropWhile _)]

/-- What does not begin with a blank begins behind the blanks. -/
theorem suffix_of_gap {before : List Char} (hbefore : isBlankText before = true)
    (hflush : IsFlush part) (hne : part ≠ []) (hpart : part <:+ before ++ text) : part <:+ text := by
  rw [isBlankText_iff] at hbefore
  induction before with
  | nil => exact hpart
  | cons b before ih =>
      rcases List.suffix_cons_iff.mp hpart with rfl | hlater
      · -- The part would begin with a blank.
        have hb : isBlank b = false := hflush b rfl
        rw [hbefore b List.mem_cons_self] at hb
        exact absurd hb nofun
      · exact ih (fun c hc => hbefore c (List.mem_cons_of_mem b hc)) hlater

/-- Blanks in front of a text hold no part of it that is flush. -/
theorem infix_of_infix_append {before : List Char} (hbefore : isBlankText before = true)
    (hflush : IsFlush part) (hpart : part <:+: before ++ text) : part <:+: text := by
  by_cases hne : part = []
  · rw [hne]
    exact List.nil_infix
  · rcases hpart with ⟨front, back, hpart⟩
    have hsuffix : part ++ back <:+ before ++ text := ⟨front, by rw [← List.append_assoc, hpart]⟩
    have hrest := suffix_of_gap hbefore (hflush.append hne back)
      (List.append_ne_nil_of_left_ne_nil hne back) hsuffix
    exact (List.prefix_append part back).isInfix.trans hrest.isInfix

/-- A part without blanks at its ends lies between the blanks around a text. -/
theorem infix_of_blank_ends {before after : List Char} (hbefore : isBlankText before = true)
    (hafter : isBlankText after = true) (hfirst : IsFlush part) (hlast : IsFlush part.reverse)
    (hpart : part <:+: before ++ (text ++ after)) : part <:+: text := by
  have hrest := infix_of_infix_append hbefore hfirst hpart
  -- The blanks behind are blanks in front of the text read backwards.
  rw [← List.reverse_infix, List.reverse_append] at hrest
  exact List.reverse_infix.mp (infix_of_infix_append (isBlankText_reverse hafter) hlast hrest)

theorem trim_eq_nil_iff : trim text = [] ↔ isBlankText text = true := by
  rcases trim_spec text with ⟨before, after, hbefore, hafter, htext⟩
  constructor
  · intro hnil
    rw [htext, hnil, List.nil_append]
    exact isBlankText_append hbefore hafter
  · intro hblank
    by_contra hne
    -- The first character of what is left would be a blank of the text.
    have hhead := isFlush_trim text _ (List.head_mem_head? hne)
    rw [isBlankText_iff] at hblank
    rw [hblank _ ((trim_isInfix text).subset (List.head_mem hne))] at hhead
    exact absurd hhead nofun

/-! ### Separators -/

/-- The width finds the texts of a language: it is positive where one of them begins, and then
    it measures one. -/
structure Finds (width : List Char → Nat) (language : List Char → Prop) : Prop where
  ne_nil : ∀ {word}, language word → word ≠ []
  pos : ∀ {word} rest, language word → 0 < width (word ++ rest)
  take : ∀ {text}, 0 < width text → language (text.take (width text))
  le_length : ∀ text, width text ≤ text.length

/-- No separator begins in the piece, if `following` is what comes behind it. -/
def IsClear (width : List Char → Nat) (piece following : List Char) : Prop :=
  ∀ part, part ≠ [] → part <:+ piece → width (part ++ following) = 0

/-- The pieces of a text: one in which no separator begins, the separator behind it, and so on
    up to a piece that nothing follows. -/
inductive IsSplit (width : List Char → Nat) : List Char → List (List Char) → Prop
  | last {piece : List Char} (hclear : IsClear width piece []) : IsSplit width piece [piece]
  | cut {piece separator rest : List Char} {pieces : List (List Char)}
      (hclear : IsClear width piece (separator ++ rest)) (hne : separator ≠ [])
      (hwidth : width (separator ++ rest) = separator.length) (hrest : IsSplit width rest pieces) :
      IsSplit width (piece ++ (separator ++ rest)) (piece :: pieces)

variable {width : List Char → Nat} {language : List Char → Prop} {pieces : List (List Char)}

/-! ### Splitting -/

/-- The counter of the scan passes over so many characters. -/
theorem splitAfter_eq (skip : Nat) (text : List Char) :
    splitAfter width skip text = split width (text.drop skip) := by
  induction text generalizing skip with
  | nil => rw [List.drop_nil]; rfl
  | cons c cs ih =>
      cases skip with
      | zero => rfl
      | succ k => rw [splitAfter, List.drop_succ_cons, ih]

theorem split_ne_nil (text : List Char) : split width text ≠ [] := by
  unfold split
  cases text with
  | nil => exact nofun
  | cons c cs =>
      -- A separator begins here, or else the character goes into a piece, old or new.
      rw [splitAfter]
      split
      · exact nofun
      · split
        · exact nofun
        · exact nofun

theorem split_cons_of_pos {c : Char} {cs : List Char} {k : Nat} (h : width (c :: cs) = k + 1) :
    split width (c :: cs) = [] :: split width (cs.drop k) := by
  rw [split, splitAfter, h, ← splitAfter_eq]

theorem split_cons_of_zero {c : Char} {cs : List Char} (h : width (c :: cs) = 0) :
    split width (c :: cs) = (split width cs).modifyHead (c :: ·) := by
  have hrest : splitAfter width 0 cs = split width cs := rfl
  rw [split, splitAfter, h, hrest]
  rcases hsplit : split width cs with _ | ⟨piece, pieces⟩
  · exact absurd hsplit (split_ne_nil cs)
  · rfl

/-- A character at which no separator begins belongs to the piece behind it. -/
theorem IsSplit.cons {c : Char} (hzero : width (c :: text) = 0) (h : IsSplit width text pieces) :
    IsSplit width (c :: text) (pieces.modifyHead (c :: ·)) := by
  cases h with
  | last hclear =>
      refine .last fun part hne hpart => ?_
      -- Either the character begins what is left, or a separator would begin further back.
      rcases List.suffix_cons_iff.mp hpart with rfl | hlater
      · rw [List.append_nil]
        exact hzero
      · exact hclear part hne hlater
  | @cut piece separator rest pieces hclear hne hwidth hrest =>
      change IsSplit width ((c :: piece) ++ (separator ++ rest)) ((c :: piece) :: pieces)
      refine .cut (fun part hpart hsuffix => ?_) hne hwidth hrest
      -- No separator begins at the character, and none in the piece behind it.
      rcases List.suffix_cons_iff.mp hsuffix with rfl | hlater
      · exact hzero
      · exact hclear part hpart hlater

/-- Splitting yields a split. -/
theorem isSplit_split (hwidth : ∀ text, width text ≤ text.length) (text : List Char) :
    IsSplit width text (split width text) := by
  -- The rest behind a separator is shorter, but it is no tail.
  induction hlength : text.length using Nat.strong_induction_on generalizing text with
  | _ n ih =>
      cases text with
      | nil =>
          refine .last fun part hne hpart => ?_
          exact absurd (List.suffix_nil.mp hpart) hne
      | cons c cs =>
          rw [List.length_cons] at hlength
          rcases hw : width (c :: cs) with _ | k
          · rw [split_cons_of_zero hw]
            exact .cons hw (ih cs.length (by omega) cs rfl)
          · have hle := hwidth (c :: cs)
            rw [hw, List.length_cons] at hle
            have hrest := ih (cs.drop k).length (by rw [List.length_drop]; omega) (cs.drop k) rfl
            have htext : (c :: cs.take k) ++ cs.drop k = c :: cs := by
              rw [List.cons_append, List.take_append_drop]
            rw [split_cons_of_pos hw, ← List.nil_append (c :: cs), ← htext]
            refine .cut (fun part hne hpart => ?_) nofun ?_ hrest
            · exact absurd (List.suffix_nil.mp hpart) hne
            · rw [htext, hw, List.length_cons, List.length_take, Nat.min_eq_left (by omega)]

/-! ### What holds of the pieces -/

/-- What stands between two pieces is a separator. -/
theorem Finds.of_width_eq (hfinds : Finds width language) {separator rest : List Char}
    (hne : separator ≠ []) (hwidth : width (separator ++ rest) = separator.length) :
    language separator := by
  have hpos : 0 < width (separator ++ rest) := by
    rw [hwidth]
    exact List.length_pos_iff.mpr hne
  have htake := hfinds.take hpos
  rwa [hwidth, List.take_left] at htake

theorem IsSplit.infix_of_mem (h : IsSplit width text pieces) {piece : List Char}
    (hpiece : piece ∈ pieces) : piece <:+: text := by
  induction h with
  | last _ =>
      rcases List.mem_singleton.mp hpiece with rfl
      exact List.infix_refl _
  | cut _ _ _ _ ih =>
      rcases List.mem_cons.mp hpiece with rfl | hlater
      · exact List.infix_append_of_infix_left (List.infix_refl _)
      · exact List.infix_append_of_infix_right (List.infix_append_of_infix_right (ih hlater))

theorem IsClear.not_separator (hfinds : Finds width language) {piece following : List Char}
    (h : IsClear width piece following) (hpart : part <:+: piece) : ¬ language part := by
  intro hlanguage
  rcases hpart with ⟨front, back, hpiece⟩
  have hne : part ++ back ≠ [] := List.append_ne_nil_of_left_ne_nil (hfinds.ne_nil hlanguage) back
  have hsuffix : part ++ back <:+ piece := ⟨front, by rw [← List.append_assoc, hpiece]⟩
  have hzero := h _ hne hsuffix
  rw [List.append_assoc] at hzero
  exact absurd hzero (Nat.ne_of_gt (hfinds.pos _ hlanguage))

/-- No part of a piece is a separator. -/
theorem IsSplit.not_separator (hfinds : Finds width language) (h : IsSplit width text pieces)
    {piece : List Char} (hpiece : piece ∈ pieces) (hpart : part <:+: piece) : ¬ language part := by
  induction h with
  | last hclear =>
      rw [List.mem_singleton.mp hpiece] at hpart
      exact hclear.not_separator hfinds hpart
  | cut hclear _ _ _ ih =>
      rcases List.mem_cons.mp hpiece with rfl | hlater
      · exact hclear.not_separator hfinds hpart
      · exact ih hlater

end Text

end ActionPlan
