import ActionPlan.Instruction.Subtask
import ActionPlan.Proofs.Text.Pieces
import Mathlib.Data.List.Forall2

/-!
# The Separators

Which texts separate one task from the next. The scanners say how to find out, character by
character and with the longest match; `IsStrongSeparator` and `IsWeakSeparator` say what is
found, one constructor for each way of writing a separator. A text that begins with a
separator may go on with more blanks, so the scanner and the language do not agree on where a
separator ends, but they do agree on where one begins (`strongSeparator_finds`,
`weakSeparator_finds`), and splitting depends on nothing else.

The strong separators take along all blanks that follow. So what stands behind one is flush,
and of the text in front of it nothing can be told. That asymmetry is what later proofs go by:
a flush text can begin with a separator only if that is a semicolon.

## Main definitions

* `IsGap`: One blank or more.
* `Spells`: A word in some casing.
* `IsStrongSeparator`, `IsWeakSeparator`: The separators.
* `ink`: What is left of a text without its blanks and its capitals.
* `strongWords`, `weakWords`: What is left of the separators.

## Theorems

* `finds_widthOf`: A scanner that is sound and complete finds its language.
* `strongSeparator_finds`, `weakSeparator_finds`: The scanners find the separators.
* `isFlush_of_strongSeparator`: What stands behind a strong separator is flush.
* `IsStrongSeparator.ink_mem`, `IsWeakSeparator.ink_mem`: Separators are written in these words.
-/

namespace ActionPlan

open Text

variable {text rest : List Char}

/-! ### Blanks and words -/

/-- One blank or more. -/
def IsGap (text : List Char) : Prop :=
  text ≠ [] ∧ isBlankText text = true

/-- The text is the word, in some casing. -/
def Spells (word : String) (text : List Char) : Prop :=
  List.Forall₂ (fun letter c => isLetter letter c = true) word.toList text

namespace Text

theorem dropWhile_blank_append {blanks : List Char} (h : isBlankText blanks = true) :
    (blanks ++ rest).dropWhile isBlank = rest.dropWhile isBlank :=
  List.dropWhile_append_of_pos (isBlankText_iff.mp h)

theorem afterBlanks?_eq_some (h : afterBlanks? text = some rest) :
    ∃ gap, IsGap gap ∧ text = gap ++ rest ∧ IsFlush rest := by
  cases text with
  | nil => exact absurd h nofun
  | cons c cs =>
      by_cases hc : isBlank c = true
      · -- The first blank is there, and all that follow it are taken too.
        rw [afterBlanks?, if_pos hc] at h
        rw [← Option.some.inj h]
        refine ⟨c :: cs.takeWhile isBlank, ⟨List.cons_ne_nil c _, ?_⟩, ?_, isFlush_dropWhile cs⟩
        · rw [isBlankText, List.all_cons, hc]
          exact isBlankText_takeWhile cs
        · rw [List.cons_append, List.takeWhile_append_dropWhile]
      · rw [afterBlanks?, if_neg hc] at h
        exact absurd h nofun

theorem afterBlanks?_gap_append {gap : List Char} (h : IsGap gap) :
    afterBlanks? (gap ++ rest) = some (rest.dropWhile isBlank) := by
  rcases h with ⟨hne, hblank⟩
  cases gap with
  | nil => exact absurd rfl hne
  | cons c gap =>
      have hall := isBlankText_iff.mp hblank
      rw [List.cons_append, afterBlanks?, if_pos (hall c List.mem_cons_self),
        List.dropWhile_append_of_pos fun d hd => hall d (List.mem_cons_of_mem c hd)]

theorem afterLetters?_eq_some_iff {letters : List Char} :
    afterLetters? letters text = some rest ↔
      ∃ word, List.Forall₂ (fun letter c => isLetter letter c = true) letters word ∧
        text = word ++ rest := by
  induction letters generalizing text with
  | nil =>
      constructor
      · intro h
        exact ⟨[], .nil, Option.some.inj h⟩
      · rintro ⟨word, hword, rfl⟩
        cases hword
        rfl
  | cons letter letters ih =>
      cases text with
      | nil =>
          refine ⟨nofun, ?_⟩
          -- A letter is left and the text is over.
          rintro ⟨word, hword, htext⟩
          cases hword
          exact absurd htext nofun
      | cons c cs =>
          rw [afterLetters?]
          split
          · next hc =>
            rw [ih]
            constructor
            · -- The character is some form of the letter, and the rest is found by induction.
              rintro ⟨word, hword, rfl⟩
              exact ⟨c :: word, .cons hc hword, rfl⟩
            · rintro ⟨word, hword, htext⟩
              cases hword with
              | cons _ hword => exact ⟨_, hword, (List.cons.inj htext).2⟩
          · next hc =>
            refine ⟨nofun, ?_⟩
            -- The character is no form of the letter, and so no word begins with it.
            rintro ⟨word, hword, htext⟩
            cases hword with
            | cons hletter _ =>
                rw [(List.cons.inj htext).1] at hc
                exact absurd hletter hc

theorem afterWord?_eq_some_iff {word : String} :
    afterWord? word text = some rest ↔ ∃ spelled, Spells word spelled ∧ text = spelled ++ rest :=
  afterLetters?_eq_some_iff

/-! ### Casing -/

/-- The visible characters of ASCII are no blanks. -/
theorem isBlank_of_visible {c : Char} (hlow : 33 ≤ c.toNat) (hhigh : c.toNat ≤ 126) :
    isBlank c = false := by
  simp only [isBlank, Bool.or_eq_false_iff, Bool.and_eq_false_iff, decide_eq_false_iff_not,
    beq_eq_false_iff_ne]
  omega

/-- A capital moves to its small letter, and everything else stays. -/
theorem toLower_cases (c : Char) :
    c.toLower = c ∨ (65 ≤ c.toNat ∧ c.toNat ≤ 90 ∧ c.toLower.toNat = c.toNat + 32) := by
  unfold Char.toLower
  split
  · next hcapital =>
    have hlow : 65 ≤ c.toNat := hcapital.1
    have hhigh : c.toNat ≤ 90 := hcapital.2
    refine .inr ⟨hlow, hhigh, ?_⟩
    -- A capital is 32 positions in front of its small letter, and nothing overflows there.
    change (c.val + ('a'.val - 'A'.val)).toNat = c.toNat + 32
    rw [UInt32.toNat_add]
    change (c.toNat + 32) % _ = _
    omega
  · exact .inl rfl

theorem isBlank_toLower (c : Char) : isBlank c.toLower = isBlank c := by
  rcases toLower_cases c with h | ⟨hlow, hhigh, hsmall⟩
  · rw [h]
  · -- A capital is no blank, and neither is its small letter.
    rw [isBlank_of_visible (by omega) (by omega), isBlank_of_visible (by omega) (by omega)]

theorem lowerAscii_append (a b : List Char) : lowerAscii (a ++ b) = lowerAscii a ++ lowerAscii b :=
  List.map_append

theorem isBlankText_lowerAscii (text : List Char) :
    isBlankText (lowerAscii text) = isBlankText text := by
  unfold isBlankText lowerAscii
  rw [List.all_map]
  congr 1
  funext c
  exact isBlank_toLower c

/-- What is left of a text without its blanks and its capitals. -/
def ink (text : List Char) : List Char :=
  (lowerAscii text).filter (!isBlank ·)

theorem ink_append (a b : List Char) : ink (a ++ b) = ink a ++ ink b := by
  unfold ink
  rw [lowerAscii_append, List.filter_append]

theorem ink_eq_nil_iff : ink text = [] ↔ isBlankText text = true := by
  unfold ink
  rw [List.filter_eq_nil_iff, ← isBlankText_lowerAscii, isBlankText_iff]
  simp only [Bool.not_eq_true, Bool.not_eq_false']

end Text

/-- Of the words that separate, every casing is one of ASCII letters. -/
theorem Spells.lowerAscii_eq {word : String} (h : Spells word text)
    (hplain : word.toList.all (fun c => c != 'k' && c != 's') = true) :
    lowerAscii text = word.toList := by
  unfold Spells at h
  generalize word.toList = letters at h hplain
  induction h with
  | nil => rfl
  | @cons letter c letters text hc _ ih =>
      rw [List.all_cons, Bool.and_eq_true, Bool.and_eq_true, bne_iff_ne, bne_iff_ne] at hplain
      rcases hplain with ⟨⟨hk, hs⟩, hrest⟩
      -- Only a k and an s have a form outside ASCII, and the word has neither.
      have hlower : c.toLower = letter := by
        simpa [isLetter, hk, hs] using hc
      rw [← hlower, ← ih hrest]
      rfl

/-! ### The languages -/

/-- What separates strongly: a semicolon, *then* with a comma in front of it or not, and *and
    then*. The blanks behind it belong to it. -/
inductive IsStrongSeparator : List Char → Prop
  | semicolon {after : List Char} (hafter : isBlankText after = true) :
      IsStrongSeparator (';' :: after)
  | following {before comma between word after : List Char} (hbefore : IsGap before)
      (hcomma : comma = [] ∨ comma = [',']) (hbetween : isBlankText between = true)
      (hword : Spells "then" word) (hafter : IsGap after) :
      IsStrongSeparator (before ++ (comma ++ (between ++ (word ++ after))))
  | joining {before word between word' after : List Char} (hbefore : IsGap before)
      (hword : Spells "and" word) (hbetween : IsGap between) (hword' : Spells "then" word')
      (hafter : IsGap after) :
      IsStrongSeparator (before ++ (word ++ (between ++ (word' ++ after))))

/-- What separates weakly: a comma and the word *and*. -/
inductive IsWeakSeparator : List Char → Prop
  | comma : IsWeakSeparator [',']
  | joining {before word after : List Char} (hbefore : IsGap before) (hword : Spells "and" word)
      (hafter : IsGap after) : IsWeakSeparator (before ++ (word ++ after))

theorem Spells.lowerAscii_then (h : Spells "then" text) : lowerAscii text = ['t', 'h', 'e', 'n'] :=
  h.lowerAscii_eq (by decide)

theorem Spells.lowerAscii_and (h : Spells "and" text) : lowerAscii text = ['a', 'n', 'd'] :=
  h.lowerAscii_eq (by decide)

/-- A text that begins with a small letter in some casing is flush, and begins with no comma. -/
theorem exists_cons_of_lowerAscii {letter : Char} {letters : List Char}
    (h : lowerAscii text = letter :: letters) (hletter : isBlank letter = false) :
    ∃ c cs, text = c :: cs ∧ c.toLower = letter ∧ isBlank c = false := by
  cases text with
  | nil => exact absurd h nofun
  | cons c cs =>
      have hc : c.toLower = letter := (List.cons.inj h).1
      exact ⟨c, cs, rfl, hc, by rw [← isBlank_toLower, hc, hletter]⟩

/-! ### The scanners -/

theorem afterSemicolon?_eq_some (h : afterSemicolon? text = some rest) :
    ∃ separator, IsStrongSeparator separator ∧ text = separator ++ rest ∧ IsFlush rest := by
  unfold afterSemicolon? at h
  split at h
  · next after =>
    rw [← Option.some.inj h]
    refine ⟨';' :: after.takeWhile isBlank, .semicolon (isBlankText_takeWhile after), ?_,
      isFlush_dropWhile after⟩
    rw [List.cons_append, List.takeWhile_append_dropWhile]
  · exact absurd h nofun

theorem afterThen?_eq_some (h : afterThen? text = some rest) :
    ∃ separator, IsStrongSeparator separator ∧ text = separator ++ rest ∧ IsFlush rest := by
  simp only [afterThen?, Option.bind_eq_bind, Option.bind_eq_some_iff] at h
  rcases h with ⟨first, hfirst, second, hsecond, hrest⟩
  rcases afterBlanks?_eq_some hfirst with ⟨before, hbefore, rfl, _⟩
  rcases afterWord?_eq_some_iff.mp hsecond with ⟨word, hword, hdrop⟩
  rcases afterBlanks?_eq_some hrest with ⟨after, hafter, rfl, hflush⟩
  -- With the comma or without it, blanks may come before the word.
  have hcomma : ∃ comma later, (comma = [] ∨ comma = [',']) ∧ first = comma ++ later ∧
      later.dropWhile isBlank = word ++ (after ++ rest) := by
    split at hdrop
    · exact ⟨[','], _, .inr rfl, rfl, hdrop⟩
    · exact ⟨[], _, .inl rfl, rfl, hdrop⟩
  rcases hcomma with ⟨comma, later, hcomma, rfl, hlater⟩
  refine ⟨_, .following hbefore hcomma (isBlankText_takeWhile later) hword hafter, ?_, hflush⟩
  simp only [List.append_assoc]
  rw [← hlater, List.takeWhile_append_dropWhile]

theorem afterSpacedWord?_eq_some {word : String} (h : afterSpacedWord? word text = some rest) :
    ∃ before spelled after, IsGap before ∧ Spells word spelled ∧ IsGap after ∧
      text = before ++ (spelled ++ (after ++ rest)) ∧ IsFlush rest := by
  unfold afterSpacedWord? at h
  rcases Option.bind_eq_some_iff.mp h with ⟨second, hsecond, hrest⟩
  rcases Option.bind_eq_some_iff.mp hsecond with ⟨first, hfirst, hword⟩
  rcases afterBlanks?_eq_some hfirst with ⟨before, hbefore, rfl, _⟩
  rcases afterWord?_eq_some_iff.mp hword with ⟨spelled, hspelled, rfl⟩
  rcases afterBlanks?_eq_some hrest with ⟨after, hafter, rfl, hflush⟩
  exact ⟨before, spelled, after, hbefore, hspelled, hafter, rfl, hflush⟩

theorem afterAndThen?_eq_some (h : afterAndThen? text = some rest) :
    ∃ separator, IsStrongSeparator separator ∧ text = separator ++ rest ∧ IsFlush rest := by
  unfold afterAndThen? at h
  rcases Option.bind_eq_some_iff.mp h with ⟨second, hsecond, hrest⟩
  rcases Option.bind_eq_some_iff.mp hsecond with ⟨first, hfirst, hthen⟩
  -- The two words are scanned one behind the other, with the blanks between them taken once.
  rcases afterSpacedWord?_eq_some hfirst with ⟨before, word, between, hbefore, hword, hbetween,
    rfl, _⟩
  rcases afterWord?_eq_some_iff.mp hthen with ⟨word', hword', rfl⟩
  rcases afterBlanks?_eq_some hrest with ⟨after, hafter, rfl, hflush⟩
  exact ⟨_, .joining hbefore hword hbetween hword' hafter, by simp only [List.append_assoc],
    hflush⟩

theorem afterSpacedWord?_append {word : String} {letter : Char} {letters : List Char}
    {before spelled after : List Char} (hbefore : IsGap before) (hspelled : Spells word spelled)
    (hlower : lowerAscii spelled = letter :: letters) (hletter : isBlank letter = false)
    (hafter : IsGap after) : afterSpacedWord? word (before ++ (spelled ++ (after ++ rest))) =
      some (rest.dropWhile isBlank) := by
  rcases exists_cons_of_lowerAscii hlower hletter with ⟨c, cs, rfl, _, hc⟩
  have hflush : IsFlush ((c :: cs) ++ (after ++ rest)) := fun d hd => Option.some.inj hd ▸ hc
  unfold afterSpacedWord?
  rw [afterBlanks?_gap_append hbefore, dropWhile_of_isFlush hflush]
  change (afterWord? word _ >>= afterBlanks?) = _
  rw [afterWord?_eq_some_iff.mpr ⟨_, hspelled, rfl⟩]
  exact afterBlanks?_gap_append hafter

theorem afterThen?_append {before comma between word after : List Char} (hbefore : IsGap before)
    (hcomma : comma = [] ∨ comma = [',']) (hbetween : isBlankText between = true)
    (hword : Spells "then" word) (hafter : IsGap after) :
    afterThen? (before ++ (comma ++ (between ++ (word ++ (after ++ rest))))) =
      some (rest.dropWhile isBlank) := by
  rcases exists_cons_of_lowerAscii hword.lowerAscii_then (by decide) with ⟨c, cs, rfl, hlower, hc⟩
  have hflush : IsFlush ((c :: cs) ++ (after ++ rest)) := fun d hd => Option.some.inj hd ▸ hc
  -- The word does not begin with a comma, so none is taken where there is none.
  have hcomma' : c ≠ ',' := by
    rintro rfl
    exact absurd hlower (by decide)
  -- The blanks in front are taken, and with them those behind them if no comma follows.
  have hfirst : afterBlanks? (before ++ (comma ++ (between ++ ((c :: cs) ++ (after ++ rest))))) =
      some ((comma ++ (between ++ ((c :: cs) ++ (after ++ rest)))).dropWhile isBlank) :=
    afterBlanks?_gap_append hbefore
  have hsecond : (between ++ ((c :: cs) ++ (after ++ rest))).dropWhile isBlank =
      (c :: cs) ++ (after ++ rest) := by
    rw [dropWhile_blank_append hbetween, dropWhile_of_isFlush hflush]
  -- The word and the blanks behind it are the end of the separator.
  have hlast : (afterWord? "then" ((c :: cs) ++ (after ++ rest)) >>= afterBlanks?) =
      some (rest.dropWhile isBlank) := by
    rw [afterWord?_eq_some_iff.mpr ⟨_, hword, rfl⟩]
    exact afterBlanks?_gap_append hafter
  unfold afterThen?
  rw [hfirst]
  rcases hcomma with rfl | rfl
  · -- Without a comma, the blanks in front of the word are all taken at once.
    simp only [List.nil_append, hsecond, Option.bind_eq_bind, Option.bind_some]
    split
    · next later heq => exact absurd (List.cons.inj heq).1 hcomma'
    · rw [dropWhile_of_isFlush hflush]
      exact hlast
  · -- With a comma, the blanks behind it are taken on their own.
    change (afterWord? "then" ((between ++ ((c :: cs) ++ (after ++ rest))).dropWhile isBlank) >>=
      afterBlanks?) = _
    rw [hsecond]
    exact hlast

/-! ### What the widths find -/

theorem finds_widthOf {scan : List Char → Option (List Char)} {language : List Char → Prop}
    (hne : ∀ {word}, language word → word ≠ [])
    (hsound : ∀ {text rest}, scan text = some rest →
      ∃ separator, language separator ∧ text = separator ++ rest)
    (hcomplete : ∀ {word} rest, language word → ∃ rest', scan (word ++ rest) = some rest') :
    Finds (fun text => widthOf text (scan text)) language where
  ne_nil := hne
  pos := by
    intro word rest hword
    rcases hcomplete rest hword with ⟨rest', hrest'⟩
    rcases hsound hrest' with ⟨separator, hseparator, htext⟩
    -- A scan that finds something takes a separator away, and none is empty.
    have hlength := congrArg List.length htext
    have hpos := List.length_pos_iff.mpr (hne hseparator)
    simp only [hrest', widthOf, List.length_append] at hlength ⊢
    omega
  take := by
    intro text hpos
    simp only [widthOf] at hpos ⊢
    split at hpos
    · next rest hrest =>
      -- The width is how much shorter the rest is, so as many characters are the separator.
      rcases hsound hrest with ⟨separator, hseparator, rfl⟩
      rw [List.length_append, Nat.add_sub_cancel, List.take_left]
      exact hseparator
    · exact absurd hpos (Nat.lt_irrefl 0)
  le_length := by
    intro text
    unfold widthOf
    split
    · exact Nat.sub_le _ _
    · exact Nat.zero_le _

theorem exists_of_strongScan (h : (afterSemicolon? text <|> afterThen? text <|>
    afterAndThen? text) = some rest) :
    ∃ separator, IsStrongSeparator separator ∧ text = separator ++ rest ∧ IsFlush rest := by
  simp only [Option.orElse_eq_orElse, Option.orElse_eq_or, Option.or_eq_some_iff] at h
  rcases h with h | ⟨_, h | ⟨_, h⟩⟩
  · exact afterSemicolon?_eq_some h
  · exact afterThen?_eq_some h
  · exact afterAndThen?_eq_some h

theorem IsGap.append_ne_nil {gap : List Char} (h : IsGap gap) : gap ++ text ≠ [] :=
  List.append_ne_nil_of_left_ne_nil h.1 text

theorem IsStrongSeparator.ne_nil (h : IsStrongSeparator text) : text ≠ [] := by
  cases h with
  | semicolon _ => exact nofun
  | following hbefore _ _ _ _ => exact hbefore.append_ne_nil
  | joining hbefore _ _ _ _ => exact hbefore.append_ne_nil

/-- Where a strong separator begins, the scanner finds one, if not always the same. -/
theorem strongSeparator_finds : Finds strongSeparator IsStrongSeparator := by
  refine finds_widthOf IsStrongSeparator.ne_nil (fun h => ?_) (fun rest h => ?_)
  · rcases exists_of_strongScan h with ⟨separator, hseparator, htext, _⟩
    exact ⟨separator, hseparator, htext⟩
  · rw [← Option.isSome_iff_exists]
    simp only [Option.orElse_eq_orElse, Option.orElse_eq_or, Option.isSome_or, Bool.or_eq_true]
    cases h with
    | semicolon _ => exact .inl rfl
    | following hbefore hcomma hbetween hword hafter =>
        -- That one of the scanners finds something is enough, whichever it is.
        simp only [List.append_assoc]
        rw [afterThen?_append hbefore hcomma hbetween hword hafter]
        exact .inr (.inl rfl)
    | @joining before word between word' after hbefore hword hbetween hword' hafter =>
        -- The second word follows at once when the blanks between the words are gone.
        have hflush : IsFlush (word' ++ (after ++ rest)) := by
          rcases exists_cons_of_lowerAscii hword'.lowerAscii_then (by decide) with
            ⟨c, cs, rfl, _, hc⟩
          exact fun d hd => Option.some.inj hd ▸ hc
        have hscan : afterAndThen? (before ++ (word ++ (between ++ (word' ++ (after ++ rest))))) =
            some (rest.dropWhile isBlank) := by
          unfold afterAndThen?
          rw [afterSpacedWord?_append hbefore hword hword.lowerAscii_and (by decide) hbetween,
            dropWhile_of_isFlush hflush]
          change (afterWord? "then" _ >>= afterBlanks?) = _
          rw [afterWord?_eq_some_iff.mpr ⟨_, hword', rfl⟩]
          exact afterBlanks?_gap_append hafter
        simp only [List.append_assoc]
        rw [hscan]
        exact .inr (.inr rfl)

theorem weakSeparator_finds : Finds weakSeparator IsWeakSeparator := by
  refine finds_widthOf (fun h => ?_) (fun h => ?_) (fun rest h => ?_)
  · -- No weak separator is empty.
    cases h with
    | comma => exact nofun
    | joining hbefore _ _ => exact hbefore.append_ne_nil
  · -- What either scanner takes is a weak separator.
    simp only [Option.orElse_eq_orElse, Option.orElse_eq_or, Option.or_eq_some_iff] at h
    rcases h with h | ⟨_, h⟩
    · unfold afterComma? at h
      split at h
      · rw [← Option.some.inj h]
        exact ⟨[','], .comma, rfl⟩
      · exact absurd h nofun
    · rcases afterSpacedWord?_eq_some h with ⟨before, word, after, hbefore, hword, hafter, rfl, _⟩
      exact ⟨_, .joining hbefore hword hafter, by simp only [List.append_assoc]⟩
  · -- And at each of the two, one of the scanners takes something.
    rw [← Option.isSome_iff_exists]
    simp only [Option.orElse_eq_orElse, Option.orElse_eq_or, Option.isSome_or, Bool.or_eq_true]
    cases h with
    | comma => exact .inl rfl
    | joining hbefore hword hafter =>
        simp only [List.append_assoc]
        rw [afterSpacedWord?_append hbefore hword hword.lowerAscii_and (by decide) hafter]
        exact .inr rfl

/-- A strong separator is taken with all the blanks behind it. -/
theorem isFlush_of_strongSeparator {separator : List Char} (hne : separator ≠ [])
    (hwidth : strongSeparator (separator ++ rest) = separator.length) : IsFlush rest := by
  have hpos : 0 < strongSeparator (separator ++ rest) := by
    rw [hwidth]
    exact List.length_pos_iff.mpr hne
  unfold strongSeparator widthOf at hwidth hpos
  split at hpos
  · next rest' hscan =>
    rcases exists_of_strongScan hscan with ⟨separator', _, htext, hflush⟩
    -- Two ways to cut the text at the same place.
    have hlength : separator.length = separator'.length := by
      rw [hscan] at hwidth
      simp only at hwidth
      rw [← hwidth, htext, List.length_append, Nat.add_sub_cancel]
    rw [(List.append_inj htext hlength).2]
    exact hflush
  · exact absurd hpos (Nat.lt_irrefl 0)

/-- A strong separator at the head of a flush text is a semicolon. -/
theorem IsStrongSeparator.of_isFlush {separator : List Char} (h : IsStrongSeparator separator)
    (hflush : IsFlush (separator ++ rest)) :
    ∃ after, isBlankText after = true ∧ separator = ';' :: after := by
  -- A gap begins with a blank, and a flush text does not.
  have hgap : ∀ {gap later : List Char}, IsGap gap → ¬ IsFlush ((gap ++ later) ++ rest) := by
    rintro gap later ⟨hne, hblank⟩ hflush
    obtain ⟨c, cs, rfl⟩ := List.exists_cons_of_ne_nil hne
    have hc : isBlank c = false := hflush c rfl
    rw [isBlankText_iff.mp hblank c List.mem_cons_self] at hc
    exact absurd hc nofun
  cases h with
  | semicolon hafter => exact ⟨_, hafter, rfl⟩
  | following hbefore _ _ _ _ => exact absurd hflush (hgap hbefore)
  | joining hbefore _ _ _ _ => exact absurd hflush (hgap hbefore)

/-! ### The words of the separators -/

theorem ink_of_lowerAscii {letters : List Char} (h : lowerAscii text = letters)
    (hletters : letters.filter (!isBlank ·) = letters) : ink text = letters := by
  unfold ink
  rw [h, hletters]

theorem IsGap.ink_eq {gap : List Char} (h : IsGap gap) : ink gap = [] :=
  ink_eq_nil_iff.mpr h.2

/-- The strong separators without blanks and capitals. -/
def strongWords : List (List Char) :=
  [[';'], ['t', 'h', 'e', 'n'], [',', 't', 'h', 'e', 'n'], ['a', 'n', 'd', 't', 'h', 'e', 'n']]

/-- The weak separators without blanks and capitals. -/
def weakWords : List (List Char) :=
  [[','], ['a', 'n', 'd']]

theorem IsStrongSeparator.ink_mem (h : IsStrongSeparator text) : ink text ∈ strongWords := by
  cases h with
  | @semicolon after hafter =>
      change ink ([';'] ++ after) ∈ _
      rw [ink_append, ink_eq_nil_iff.mpr hafter]
      decide
  | following hbefore hcomma hbetween hword hafter =>
      -- What is visible of it is the word, and the comma in front of it if there is one.
      rw [ink_append, ink_append, ink_append, ink_append, hbefore.ink_eq, hafter.ink_eq,
        ink_eq_nil_iff.mpr hbetween, ink_of_lowerAscii hword.lowerAscii_then (by decide)]
      rcases hcomma with rfl | rfl
      · decide
      · decide
  | joining hbefore hword hbetween hword' hafter =>
      -- What is visible of it is the two words.
      rw [ink_append, ink_append, ink_append, ink_append, hbefore.ink_eq, hbetween.ink_eq,
        hafter.ink_eq, ink_of_lowerAscii hword.lowerAscii_and (by decide),
        ink_of_lowerAscii hword'.lowerAscii_then (by decide)]
      decide

theorem IsWeakSeparator.ink_mem (h : IsWeakSeparator text) : ink text ∈ weakWords := by
  cases h with
  | comma => decide
  | joining hbefore hword hafter =>
      rw [ink_append, ink_append, hbefore.ink_eq, hafter.ink_eq,
        ink_of_lowerAscii hword.lowerAscii_and (by decide)]
      decide

end ActionPlan
