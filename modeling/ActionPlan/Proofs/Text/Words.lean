import ActionPlan.Proofs.Text.Pieces

/-!
# Words of a Text

`words` goes through a text one character at a time, and whether a character begins a word of its
own or joins the next one depends on what comes behind it. That is a good way to run and says
little about the result. `IsWorded` reads the same thing from the result: blanks, a word, which
ends where the text ends or a blank follows, and so on. A text has its words and no others
(`isWorded_iff`), and nothing below opens the scan again.

Putting words together with single spaces is the other way round. What comes out has just these
words (`words_joinWords`), so a list of words and the text made of it say the same.

## Main definitions

* `IsWord`: Something without a blank in it.
* `EndsWord`: What may stand behind a word.
* `IsWorded`: A text, by its words.

## Theorems

* `isWorded_iff`: Words are what a text consists of, apart from blanks.
* `isWord_of_mem_words`: Words hold something, and no blanks.
* `words_trim`: Blanks around a text do not matter.
* `words_joinWords`: Words put together are found again.
* `IsWorded.exists_mem`: What is no blank is in a word.
* `IsWorded.cut`: A text, cut at one of its words.
* `exists_within_word`: What lies within a word.
-/

namespace ActionPlan

namespace Text

variable {text rest word gap : List Char} {ws : List (List Char)}

/-- Something without a blank in it. -/
structure IsWord (word : List Char) : Prop where
  ne_nil : word ≠ []
  solid : ∀ c ∈ word, isBlank c = false

/-- A word ends in front of the text: nothing is there, or a blank. -/
def EndsWord (text : List Char) : Prop :=
  ∀ c ∈ text.head?, isBlank c = true

/-- The text consists of these words and of blanks. -/
inductive IsWorded : List Char → List (List Char) → Prop
  | blank {gap : List Char} (hgap : isBlankText gap = true) : IsWorded gap []
  | word {gap word rest : List Char} {ws : List (List Char)} (hgap : isBlankText gap = true)
      (hword : IsWord word) (hend : EndsWord rest) (h : IsWorded rest ws) :
      IsWorded (gap ++ (word ++ rest)) (word :: ws)

theorem endsWord_of_isBlankText (h : isBlankText text = true) : EndsWord text := fun c hc =>
  isBlankText_iff.mp h c (List.mem_of_mem_head? hc)

theorem EndsWord.append (h : EndsWord text) (hrest : EndsWord rest) : EndsWord (text ++ rest) := by
  cases text with
  | nil => exact hrest
  | cons c text => exact h

/-! ### The scan -/

theorem words_blank_append (hgap : isBlankText gap = true) (text : List Char) :
    words (gap ++ text) = words text := by
  rw [isBlankText_iff] at hgap
  induction gap with
  | nil => rfl
  | cons c gap ih =>
      rw [List.cons_append, words, if_pos (hgap c List.mem_cons_self)]
      exact ih fun d hd => hgap d (List.mem_cons_of_mem c hd)

theorem words_of_isBlankText (h : isBlankText text = true) : words text = [] := by
  rw [← List.append_nil text, words_blank_append h]
  rfl

theorem words_word_append (hword : IsWord word) (hend : EndsWord rest) :
    words (word ++ rest) = word :: words rest := by
  rcases hword with ⟨hne, hsolid⟩
  induction word with
  | nil => exact absurd rfl hne
  | cons c word ih =>
      have hc : ¬ isBlank c = true := by
        rw [hsolid c List.mem_cons_self]
        exact Bool.false_ne_true
      rw [List.cons_append, words, if_neg hc]
      cases word with
      | nil =>
          -- The word is over, and what comes next says so.
          have hall : rest.head?.all isBlank = true :=
            (Option.all_eq_true_iff_get _ _).mpr fun hsome => hend _ (Option.get_mem hsome)
          rw [List.nil_append, if_pos hall]
      | cons d word =>
          have hd : ¬ ((d :: word) ++ rest).head?.all isBlank = true := by
            rw [List.cons_append, List.head?_cons, Option.all_some,
              hsolid d (List.mem_cons_of_mem c List.mem_cons_self)]
            exact Bool.false_ne_true
          rw [if_neg hd, ih (List.cons_ne_nil d word) fun e he => hsolid e (List.mem_cons_of_mem c he)]

/-- A text is found to consist of words. -/
theorem isWorded_words (text : List Char) : IsWorded text (words text) := by
  -- What is left behind a word is shorter, but it is no tail.
  induction hlength : text.length using Nat.strong_induction_on generalizing text with
  | _ n ih =>
      have htext : text.takeWhile isBlank ++ text.dropWhile isBlank = text :=
        List.takeWhile_append_dropWhile
      by_cases hnil : text.dropWhile isBlank = []
      · have hblank : isBlankText text = true := by
          rw [← htext, hnil, List.append_nil]
          exact isBlankText_takeWhile text
        rw [words_of_isBlankText hblank]
        exact .blank hblank
      · generalize hrest : text.dropWhile isBlank = rest at htext hnil
        have hflush : IsFlush rest := hrest ▸ isFlush_dropWhile text
        have hcut : rest.takeWhile (!isBlank ·) ++ rest.dropWhile (!isBlank ·) = rest :=
          List.takeWhile_append_dropWhile
        have hword : IsWord (rest.takeWhile (!isBlank ·)) := by
          refine ⟨fun hempty => ?_, fun c hc => ?_⟩
          · obtain ⟨c, cs, rfl⟩ := List.exists_cons_of_ne_nil hnil
            rw [List.takeWhile_cons_of_pos (by rw [hflush c rfl]; rfl)] at hempty
            exact List.cons_ne_nil _ _ hempty
          · have hnot := List.mem_takeWhile_imp hc
            rwa [Bool.not_eq_true'] at hnot
        have hend : EndsWord (rest.dropWhile (!isBlank ·)) := by
          intro c hc
          have hhead := List.head?_dropWhile_not (!isBlank ·) rest
          rw [Option.mem_def] at hc
          rw [hc] at hhead
          simpa using hhead
        have hshorter : (rest.dropWhile (!isBlank ·)).length < n := by
          have hpos := List.length_pos_iff.mpr hword.ne_nil
          have hwhole := congrArg List.length hcut
          have hall := congrArg List.length htext
          rw [List.length_append] at hwhole hall
          omega
        have hlater := ih _ hshorter _ rfl
        rw [← htext, ← hcut, words_blank_append (isBlankText_takeWhile text),
          words_word_append hword hend]
        exact .word (isBlankText_takeWhile text) hword hend hlater

theorem IsWorded.words_eq (h : IsWorded text ws) : words text = ws := by
  induction h with
  | blank hgap => exact words_of_isBlankText hgap
  | word hgap hword hend _ ih => rw [words_blank_append hgap, words_word_append hword hend, ih]

/-- A text has its words and no others. -/
theorem isWorded_iff : IsWorded text ws ↔ words text = ws :=
  ⟨IsWorded.words_eq, fun h => h ▸ isWorded_words text⟩

/-! ### What the words are -/

theorem IsWorded.isWord (h : IsWorded text ws) : ∀ word ∈ ws, IsWord word := by
  induction h with
  | blank _ => exact fun word hmem => absurd hmem List.not_mem_nil
  | word _ hword _ _ ih => exact List.forall_mem_cons.mpr ⟨hword, ih⟩

theorem isWord_of_mem_words (h : word ∈ words text) : IsWord word :=
  (isWorded_words text).isWord word h

/-- What is no blank is in a word. -/
theorem IsWorded.exists_mem {c : Char} (h : IsWorded text ws) (hc : c ∈ text)
    (hsolid : isBlank c = false) : ∃ word ∈ ws, c ∈ word := by
  induction h with
  | blank hblank => exact absurd hc (not_mem_of_isBlankText hsolid hblank)
  | word hblank _ _ _ ih =>
      -- The character is not among the blanks, so it is in the first word or later.
      rcases List.mem_append.mp hc with hbefore | hc
      · exact absurd hbefore (not_mem_of_isBlankText hsolid hblank)
      · rcases List.mem_append.mp hc with hword | hrest
        · exact ⟨_, List.mem_cons_self, hword⟩
        · rcases ih hrest with ⟨word, hmem, hword⟩
          exact ⟨word, List.mem_cons_of_mem _ hmem, hword⟩

/-! ### Blanks around -/

theorem IsWorded.prepend (h : IsWorded text ws) (hgap : isBlankText gap = true) :
    IsWorded (gap ++ text) ws :=
  isWorded_iff.mpr ((words_blank_append hgap text).trans h.words_eq)

theorem IsWorded.append (h : IsWorded text ws) (hgap : isBlankText gap = true) :
    IsWorded (text ++ gap) ws := by
  induction h with
  | blank hblank => exact .blank (isBlankText_append hblank hgap)
  | word hblank hword hend _ ih =>
      rw [List.append_assoc, List.append_assoc]
      exact .word hblank hword (hend.append (endsWord_of_isBlankText hgap)) ih

theorem words_trim (text : List Char) : words (trim text) = words text := by
  rcases trim_spec text with ⟨before, after, hbefore, hafter, htext⟩
  have hwhole := ((isWorded_words (trim text)).append hafter).prepend hbefore
  rw [← htext] at hwhole
  exact hwhole.words_eq.symm

/-! ### Words put together -/

/-- Words that are put together with single spaces are found again. -/
theorem words_joinWords (h : ∀ word ∈ ws, IsWord word) : words (joinWords ws) = ws := by
  rw [← isWorded_iff]
  induction ws with
  | nil => exact .blank rfl
  | cons word ws ih =>
      rcases List.forall_mem_cons.mp h with ⟨hword, hlater⟩
      cases ws with
      | nil =>
          -- The last word has nothing behind it.
          have hjoin : joinWords [word] = [] ++ (word ++ []) := by
            rw [joinWords, List.intercalate_singleton, List.append_nil, List.nil_append]
          rw [hjoin]
          exact .word rfl hword nofun (.blank rfl)
      | cons other ws =>
          -- Behind any other there is a space, where the word is over.
          have hjoin : joinWords (word :: other :: ws) =
              [] ++ (word ++ ([' '] ++ joinWords (other :: ws))) := by
            rw [joinWords, List.intercalate_cons_cons, List.nil_append, List.append_assoc]
            rfl
          rw [hjoin]
          exact .word rfl hword (fun c hc => Option.some.inj hc ▸ rfl)
            ((ih hlater).prepend (by decide))

/-! ### Cutting at a word -/

/-- A text can be cut at one of its words: what stands in front of it ends with a blank, unless it
    is empty, and what stands behind it begins with one. -/
theorem IsWorded.cut {before after : List (List Char)}
    (h : IsWorded text (before ++ word :: after)) :
    ∃ lead trail, text = lead ++ (word ++ trail) ∧ IsWorded lead before ∧ IsWorded trail after ∧
      EndsWord lead.reverse ∧ EndsWord trail := by
  induction before generalizing text with
  | nil =>
      cases h with
      | @word gap _ rest _ hgap _ hend hrest =>
          exact ⟨gap, rest, rfl, .blank hgap, hrest,
            endsWord_of_isBlankText (isBlankText_reverse hgap), hend⟩
  | cons first before ih =>
      cases h with
      | @word gap _ rest _ hgap hfirst hend hrest =>
          rcases ih hrest with ⟨lead, trail, rfl, hlead, htrail, hlast, hnext⟩
          -- Two words have something between them.
          have hne : lead ≠ [] := by
            rintro rfl
            have hword := hrest.isWord word (List.mem_append_right before List.mem_cons_self)
            obtain ⟨c, cs, rfl⟩ := List.exists_cons_of_ne_nil hword.ne_nil
            have hc : isBlank c = true := hend c rfl
            rw [hword.solid c List.mem_cons_self] at hc
            exact absurd hc Bool.false_ne_true
          obtain ⟨c, cs, rfl⟩ := List.exists_cons_of_ne_nil hne
          refine ⟨gap ++ (first ++ (c :: cs)), trail, by simp only [List.append_assoc],
            .word hgap hfirst (fun d hd => hend d hd) hlead, htrail, ?_, hnext⟩
          have hback : (c :: cs).reverse ≠ [] := by rwa [ne_eq, List.reverse_eq_nil_iff]
          obtain ⟨d, ds, hds⟩ := List.exists_cons_of_ne_nil hback
          rw [List.reverse_append, List.reverse_append, hds]
          rw [hds] at hlast
          exact hlast

/-- What holds no blank, but something that the text in front of a word does not hold, begins with
    the word or behind its beginning. -/
theorem exists_append_of_solid {c : Char} {lead tail front part back : List Char}
    (hlead : c ∉ lead) (hlast : EndsWord lead.reverse) (hmem : c ∈ part)
    (hsolid : ∀ d ∈ part, isBlank d = false) (htext : lead ++ tail = front ++ (part ++ back)) :
    ∃ front', front = lead ++ front' := by
  rcases List.append_eq_append_iff.mp htext with ⟨front', hfront, -⟩ | ⟨shared, rfl, hshared⟩
  · exact ⟨front', hfront⟩
  · rcases List.append_eq_append_iff.mp hshared with ⟨_, rfl, -⟩ | ⟨inner, rfl, -⟩
    · -- The part would lie in the text in front, which lacks the character.
      exact absurd (List.mem_append_right front (List.mem_append_left _ hmem)) hlead
    · -- What reaches over the end of the text in front would end with a blank.
      cases hrev : shared.reverse with
      | nil =>
          rw [List.reverse_eq_nil_iff.mp hrev, List.append_nil]
          exact ⟨[], (List.append_nil front).symm⟩
      | cons d ds =>
          have hd : isBlank d = true := hlast d (by rw [List.reverse_append, hrev]; rfl)
          have hin : d ∈ shared := List.mem_reverse.mp (hrev ▸ List.mem_cons_self)
          rw [hsolid d (List.mem_append_left inner hin)] at hd
          exact absurd hd nofun

/-- What holds no blank, but something that only this word holds, lies within the word. -/
theorem exists_within_word {c : Char} {lead trail front part back : List Char}
    (hlead : c ∉ lead) (htrail : c ∉ trail) (hlast : EndsWord lead.reverse)
    (hnext : EndsWord trail) (hmem : c ∈ part) (hsolid : ∀ d ∈ part, isBlank d = false)
    (htext : lead ++ (word ++ trail) = front ++ (part ++ back)) :
    ∃ front' back', front = lead ++ front' ∧ back = back' ++ trail ∧
      word = front' ++ (part ++ back') := by
  rcases exists_append_of_solid hlead hlast hmem hsolid htext with ⟨front', rfl⟩
  rw [List.append_assoc, List.append_cancel_left_eq] at htext
  -- Read backwards, the other end is the same thing.
  have hreverse : trail.reverse ++ word.reverse =
      back.reverse ++ (part.reverse ++ front'.reverse) := by
    rw [← List.reverse_append, htext, List.reverse_append, List.reverse_append, List.append_assoc]
  rcases exists_append_of_solid (fun h => htrail (List.mem_reverse.mp h))
    (by rwa [List.reverse_reverse]) (List.mem_reverse.mpr hmem)
    (fun d hd => hsolid d (List.mem_reverse.mp hd)) hreverse with ⟨behind, hbehind⟩
  have hback : back = behind.reverse ++ trail := by
    rw [← List.reverse_reverse back, hbehind, List.reverse_append, List.reverse_reverse]
  rw [hback, ← List.append_assoc, ← List.append_assoc, List.append_cancel_right_eq,
    List.append_assoc] at htext
  exact ⟨front', behind.reverse, rfl, hback, htext⟩

end Text

end ActionPlan
