import ActionPlan.Instruction.Route
import ActionPlan.Proofs.Instruction.Subtasks

/-!
# Unsafe Wording and Splitting

The screening looks for unsafe wording in one task, and by then an instruction has been split.
If a separator could fall into the wording, two harmless tasks would be left of it. What speaks
against that is the wording itself, not the screening: each of its words has a letter that
occurs in no separator, so a word lies on one side of a separator or has to reach over its end,
and there separators have blanks and marks.

Two words with a blank between them need one step more, since the blank itself could be where
a separator begins. It would have to go on into the second word, and a separator that is over
before that word is over is nothing but that blank. Separators hold more than blanks.

All of this is about the text in small letters, as that is where the screening looks, while the
separators are found in the text as it is. That makes no difference: the characters whose small
form is more than a change of case do not occur in separators.

## Main definitions

* `IsInterlude`: What all separators have in common.
* `IsFirm`: A word that no separator cuts.
* `IsUncut`: A text that is on one side of every separator.
* `Instruction.isUnsafe`: The instruction mentions unsafe wording.

## Theorems

* `contains_iff`: Searching finds the parts of a text.
* `infix_cases`: Where a part of a text with an interlude can be.
* `isUncut_of_isFirm`, `isUncut_of_isFirm_blank`: One word, and two of them.
* `exists_fragment_infix`: A text that is not cut is found in a fragment.
* `exists_isUnsafe`: Unsafe wording is found in one of the subtasks.
* `screen_ne_generate`: The screening stops unsafe wording.
-/

namespace ActionPlan

open Text

namespace Text

theorem contains_iff {keyword text : List Char} :
    contains keyword text = true ↔ keyword <:+: text := by
  induction text with
  | nil => rw [contains, List.isEmpty_iff, List.infix_nil]
  | cons c cs ih =>
      rw [contains, Bool.or_eq_true, ih, List.isPrefixOf_iff_prefix, List.infix_cons_iff]

theorem mentionsAny_iff {text : List Char} {keywords : List String} :
    mentionsAny text keywords = true ↔ ∃ keyword ∈ keywords, keyword.toList <:+: text := by
  simp only [mentionsAny, mentions, List.any_eq_true, contains_iff]

theorem lower_append (a b : List Char) : lower (a ++ b) = lower a ++ lower b :=
  List.flatMap_append

end Text

/-! ### Interludes -/

/-- A blank, a semicolon or a comma. Separators begin and end with one. -/
def isMark (c : Char) : Bool :=
  isBlank c || c == ';' || c == ','

/-- A character that occurs in no separator in small letters. -/
def isForeign (c : Char) : Bool :=
  !(isMark c || ['a', 'n', 'd', 't', 'h', 'e'].contains c)

/-- What all separators have in common. -/
structure IsInterlude (text : List Char) : Prop where
  full : isBlankText text = false
  first : ∀ c ∈ text.head?, isMark c = true
  last : ∀ c ∈ text.getLast?, isMark c = true
  common : ∀ c ∈ text, isForeign c = false

/-- A word that no separator cuts: it holds no mark, and a letter of its own. -/
structure IsFirm (word : List Char) : Prop where
  unmarked : ∀ c ∈ word, isMark c = false
  foreign : ∃ c ∈ word, isForeign c = true

instance (word : List Char) : Decidable (IsFirm word) :=
  decidable_of_iff (word.any isMark = false ∧ word.any isForeign = true) <| by
    rw [List.any_eq_false, List.any_eq_true]
    exact ⟨fun h => ⟨fun c hc => Bool.not_eq_true _ ▸ h.1 c hc, h.2⟩,
      fun h => ⟨fun c hc => Bool.not_eq_true _ ▸ h.unmarked c hc, h.foreign⟩⟩

/-- A text without blanks at its ends that is on one side of every interlude. -/
structure IsUncut (word : List Char) : Prop where
  first : IsFlush word
  last : IsFlush word.reverse
  ne_nil : word ≠ []
  aside : ∀ {front text back : List Char}, IsInterlude text →
    word <:+: front ++ (text ++ back) → word <:+: front ∨ word <:+: back

variable {text word front back : List Char}

theorem IsInterlude.ne_nil (h : IsInterlude text) : text ≠ [] := by
  rintro rfl
  exact absurd h.full nofun

theorem IsFirm.ne_nil (h : IsFirm word) : word ≠ [] := by
  rcases h.foreign with ⟨c, hc, _⟩
  exact List.ne_nil_of_mem hc

/-- A firm word does not fit into an interlude. -/
theorem IsFirm.not_isInfix (h : IsFirm word) (htext : IsInterlude text) : ¬ word <:+: text := by
  intro hpart
  rcases h.foreign with ⟨c, hc, hforeign⟩
  rw [htext.common c (hpart.subset hc)] at hforeign
  exact absurd hforeign nofun

theorem IsFirm.isFlush (h : IsFirm word) : IsFlush word := by
  intro c hc
  have hmark := h.unmarked c (List.mem_of_mem_head? hc)
  rw [isMark, Bool.or_eq_false_iff, Bool.or_eq_false_iff] at hmark
  exact hmark.1.1

theorem IsFirm.reverse (h : IsFirm word) : IsFirm word.reverse := by
  refine ⟨fun c hc => h.unmarked c (List.mem_reverse.mp hc), ?_⟩
  rcases h.foreign with ⟨c, hc, hforeign⟩
  exact ⟨c, List.mem_reverse.mpr hc, hforeign⟩

/-- A text that begins like an interlude begins with a mark. -/
theorem IsInterlude.isMark_head {c : Char} {rest after : List Char} (h : IsInterlude text)
    (hrest : (c :: rest) ++ after = text ++ back) : isMark c = true := by
  obtain ⟨d, later, rfl⟩ := List.exists_cons_of_ne_nil h.ne_nil
  rw [(List.cons.inj hrest).1]
  exact h.first d rfl

/-- The end of an interlude ends with a mark. -/
theorem IsInterlude.isMark_last {lead : List Char} {c : Char} (h : IsInterlude text)
    (hlead : lead ++ [c] <:+ text) : isMark c = true := by
  rcases hlead with ⟨before, rfl⟩
  refine h.last c ?_
  rw [← List.append_assoc, List.getLast?_concat]
  rfl

/-- Where a part of a text with an interlude can be: in one of the three pieces, or over an end of
    the interlude, and then it holds the mark there. -/
theorem IsInterlude.infix_cases (htext : IsInterlude text)
    (h : word <:+: front ++ (text ++ back)) :
    word <:+: front ∨ word <:+: back ∨ word <:+: text ∨
      ∃ lead c rest, isMark c = true ∧ word = lead ++ c :: rest ∧
        ((∃ after, (c :: rest) ++ after = text ++ back) ∨ lead ++ [c] <:+ text) := by
  rcases h with ⟨before, after, h⟩
  rw [List.append_assoc] at h
  rcases List.append_eq_append_iff.mp h with ⟨lead, rfl, hbehind⟩ | ⟨gap, rfl, hbehind⟩
  · -- It begins in the front piece.
    rcases List.append_eq_append_iff.mp hbehind with ⟨later, rfl, _⟩ | ⟨rest, hword, hrest⟩
    · exact .inl ⟨before, later, List.append_assoc _ _ _⟩
    · cases rest with
      | nil =>
          -- It ends where the interlude begins.
          rw [List.append_nil] at hword
          rw [hword]
          exact .inl ⟨before, [], List.append_nil _⟩
      | cons c rest =>
          -- It reaches into the interlude, whose first character is a mark.
          have hmark := htext.isMark_head hrest.symm
          exact .inr (.inr (.inr ⟨lead, c, rest, hmark, hword, .inl ⟨after, hrest.symm⟩⟩))
  · rcases List.append_eq_append_iff.mp hbehind with ⟨later, rfl, hback⟩ | ⟨lead, rfl, hlead⟩
    · -- It begins behind the interlude.
      exact .inr (.inl ⟨later, after, by rw [hback, List.append_assoc]⟩)
    · rcases List.append_eq_append_iff.mp hlead with ⟨later, rfl, _⟩ | ⟨rest, hword, hrest⟩
      · -- It begins and ends within the interlude.
        exact .inr (.inr (.inl ⟨gap, later, List.append_assoc _ _ _⟩))
      · rcases List.eq_nil_or_concat lead with rfl | ⟨lead, c, rfl⟩
        · -- It begins where the interlude is over.
          rw [List.nil_append] at hword
          exact .inr (.inl ⟨[], after, by rw [List.nil_append, hword, hrest]⟩)
        · -- It begins within the interlude and ends behind it, so the last character is in it.
          rw [List.concat_eq_append] at hword
          have hend : lead ++ [c] <:+ gap ++ lead.concat c := by
            rw [List.concat_eq_append]
            exact List.suffix_append gap (lead ++ [c])
          rw [List.append_assoc] at hword
          have hmark := htext.isMark_last hend
          exact .inr (.inr (.inr ⟨lead, c, rest, hmark, hword, .inr hend⟩))

/-- One firm word is not cut. -/
theorem isUncut_of_isFirm (h : IsFirm word) : IsUncut word := by
  refine ⟨h.isFlush, h.reverse.isFlush, h.ne_nil, fun {front text back} htext hpart => ?_⟩
  rcases htext.infix_cases hpart with hfront | hback | hwithin | ⟨lead, c, rest, hmark, rfl, _⟩
  · exact .inl hfront
  · exact .inr hback
  · exact absurd hwithin (h.not_isInfix htext)
  · rw [h.unmarked c (List.mem_append_right lead List.mem_cons_self)] at hmark
    exact absurd hmark nofun

/-- Two firm words with a blank between them have no other mark. -/
theorem eq_of_isMark {word' lead rest : List Char} {c : Char} (h : IsFirm word)
    (h' : IsFirm word') (hmark : isMark c = true)
    (hcut : word ++ ' ' :: word' = lead ++ c :: rest) :
    word = lead ∧ ' ' = c ∧ word' = rest := by
  have hnot : ∀ {w : List Char}, IsFirm w → c ∉ w := by
    intro w hw hc
    rw [hw.unmarked c hc] at hmark
    exact absurd hmark nofun
  exact (List.append_cons_inj_of_notMem (hnot h) (hnot h')).mp hcut

/-- An interlude is neither over before a firm word behind a blank nor within it. -/
theorem IsInterlude.ne_blank_append {after : List Char} (htext : IsInterlude text)
    (h : IsFirm word) : (' ' :: word) ++ after ≠ text ++ back := by
  intro heq
  obtain ⟨c, later, rfl⟩ := List.exists_cons_of_ne_nil htext.ne_nil
  rcases List.cons.inj heq with ⟨rfl, hlater⟩
  rcases List.append_eq_append_iff.mp hlater with ⟨between, rfl, _⟩ | ⟨between, rfl, _⟩
  · -- The word lies within the interlude, which a firm word never does.
    exact h.not_isInfix htext ⟨[' '], between, rfl⟩
  · rcases List.eq_nil_or_concat later with rfl | ⟨later, d, rfl⟩
    · -- The interlude would be a blank and nothing else.
      exact absurd htext.full nofun
    · -- It would end within the word, and the end is a mark.
      rw [List.concat_eq_append] at htext h
      have hmark := htext.isMark_last (List.suffix_refl (' ' :: later ++ [d]))
      have hmem : d ∈ (later ++ [d]) ++ between :=
        List.mem_append_left between List.mem_concat_self
      rw [h.unmarked d hmem] at hmark
      exact absurd hmark nofun

/-- Neither are two firm words with a blank between them. -/
theorem isUncut_of_isFirm_blank {word' : List Char} (h : IsFirm word) (h' : IsFirm word') :
    IsUncut (word ++ ' ' :: word') := by
  refine ⟨?_, ?_, ?_, fun {front text back} htext hpart => ?_⟩
  · exact h.isFlush.append h.ne_nil _
  · rw [List.reverse_append, List.reverse_cons, List.append_assoc]
    exact h'.reverse.isFlush.append h'.reverse.ne_nil _
  · exact List.append_ne_nil_of_left_ne_nil h.ne_nil (' ' :: word')
  · rcases htext.infix_cases hpart with hfront | hback | hwithin |
      ⟨lead, c, rest, hmark, hword, hreach⟩
    · -- It lies in front of the interlude.
      exact .inl hfront
    · -- It lies behind it.
      exact .inr hback
    · -- Within it there is no room even for the first of the two words.
      refine absurd (List.IsInfix.trans ?_ hwithin) (h.not_isInfix htext)
      exact (List.prefix_append word _).isInfix
    · -- It lies over an end, and the only mark that it has is the blank between its words.
      rcases eq_of_isMark h h' hmark hword with ⟨rfl, rfl, rfl⟩
      rcases hreach with ⟨after, hafter⟩ | hend
      · -- The interlude begins with the blank, and it has to go on.
        exact absurd hafter (htext.ne_blank_append h')
      · -- The interlude ends with the blank, so the first word lies within it.
        refine absurd (List.IsInfix.trans ?_ hend.isInfix) (h.not_isInfix htext)
        exact (List.prefix_append word _).isInfix

/-! ### Separators in small letters -/

theorem isForeign_of_isMark {c : Char} (h : isMark c = true) : isForeign c = false := by
  rw [isForeign, h]
  rfl

theorem isMark_of_isBlank {c : Char} (h : isBlank c = true) : isMark c = true := by
  rw [isMark, h]
  rfl

theorem isMark_toLower {c : Char} (h : isMark c = true) : isMark c.toLower = true := by
  simp only [isMark, Bool.or_eq_true, beq_iff_eq] at h
  rcases h with (h | rfl) | rfl
  · exact isMark_of_isBlank ((isBlank_toLower c).trans h)
  · rfl
  · rfl

/-- Where no character is foreign, small letters are a change of case and nothing else. -/
theorem lower_eq_lowerAscii (h : ∀ c ∈ lowerAscii text, isForeign c = false) :
    lower text = lowerAscii text := by
  induction text with
  | nil => rfl
  | cons c text ih =>
      have hc : isForeign c.toLower = false := h _ List.mem_cons_self
      -- The two characters with a rule of their own are outside ASCII, which makes them foreign.
      have hkelvin : c ≠ '\u212A' := by
        rintro rfl
        exact absurd hc (by decide)
      have hdotted : c ≠ '\u0130' := by
        rintro rfl
        exact absurd hc (by decide)
      have hchar : lowerChar c = [c.toLower] := by
        simp only [lowerChar, beq_iff_eq, hkelvin, hdotted, if_false]
      change lowerChar c ++ lower text = c.toLower :: lowerAscii text
      rw [hchar, ih fun d hd => h d (List.mem_cons_of_mem _ hd)]
      rfl

theorem isBlankText_lower (h : isBlankText text = true) : isBlankText (lower text) = true := by
  rw [← isBlankText_lowerAscii] at h
  have hcommon : ∀ c ∈ lowerAscii text, isForeign c = false := fun c hc =>
    isForeign_of_isMark (isMark_of_isBlank (isBlankText_iff.mp h c hc))
  rw [lower_eq_lowerAscii hcommon]
  exact h

/-- What a separator is in small letters, from what it is without blanks and from its ends. -/
theorem isInterlude_lower (hink : ink text ∈ strongWords ++ weakWords)
    (hfirst : ∀ c ∈ text.head?, isMark c = true) (hlast : ∀ c ∈ text.getLast?, isMark c = true) :
    IsInterlude (lower text) := by
  -- The ink of a separator is a word or a mark, and none of them has a foreign character.
  have hwords : ∀ word ∈ strongWords ++ weakWords, word ≠ [] ∧ word.any isForeign = false := by
    decide
  rcases hwords _ hink with ⟨hne, hnone⟩
  have hcommon : ∀ c ∈ lowerAscii text, isForeign c = false := by
    intro c hc
    by_cases hblank : isBlank c = true
    · exact isForeign_of_isMark (isMark_of_isBlank hblank)
    · -- A character that is no blank is left in the ink.
      have hmem : c ∈ ink text :=
        List.mem_filter.mpr ⟨hc, Bool.not_eq_true' _ ▸ Bool.not_eq_true _ ▸ hblank⟩
      rw [← Bool.not_eq_true]
      exact List.any_eq_false.mp hnone c hmem
  rw [lower_eq_lowerAscii hcommon]
  refine ⟨?_, ?_, ?_, hcommon⟩
  · rw [isBlankText_lowerAscii, ← Bool.not_eq_true, ← ink_eq_nil_iff]
    exact hne
  · intro c hc
    rw [lowerAscii, List.head?_map] at hc
    rcases Option.map_eq_some_iff.mp hc with ⟨d, hd, rfl⟩
    exact isMark_toLower (hfirst d hd)
  · intro c hc
    rw [lowerAscii, List.getLast?_map] at hc
    rcases Option.map_eq_some_iff.mp hc with ⟨d, hd, rfl⟩
    exact isMark_toLower (hlast d hd)

theorem IsGap.isMark_head {gap : List Char} (h : IsGap gap) :
    ∀ c ∈ (gap ++ back).head?, isMark c = true := by
  obtain ⟨d, gap, rfl⟩ := List.exists_cons_of_ne_nil h.1
  rintro c hc
  rw [← Option.some.inj hc]
  exact isMark_of_isBlank (isBlankText_iff.mp h.2 d List.mem_cons_self)

theorem IsGap.isMark_last {gap : List Char} (h : IsGap gap) :
    ∀ c ∈ (front ++ gap).getLast?, isMark c = true := by
  intro c hc
  rw [List.getLast?_append_of_ne_nil _ h.1] at hc
  exact isMark_of_isBlank (isBlankText_iff.mp h.2 c (List.mem_of_mem_getLast? hc))

theorem IsStrongSeparator.isInterlude (h : IsStrongSeparator text) : IsInterlude (lower text) := by
  refine isInterlude_lower (List.mem_append_left weakWords h.ink_mem) ?_ ?_
  · cases h with
    | semicolon _ => exact fun c hc => Option.some.inj hc ▸ rfl
    | following hbefore _ _ _ _ => exact hbefore.isMark_head
    | joining hbefore _ _ _ _ => exact hbefore.isMark_head
  · cases h with
    | @semicolon after hafter =>
        intro c hc
        -- The last character is the semicolon, or one of the blanks behind it.
        rcases List.mem_cons.mp (List.mem_of_mem_getLast? hc) with rfl | hc
        · rfl
        · exact isMark_of_isBlank (isBlankText_iff.mp hafter c hc)
    | following _ _ _ _ hafter =>
        simp only [← List.append_assoc]
        exact hafter.isMark_last
    | joining _ _ _ _ hafter =>
        simp only [← List.append_assoc]
        exact hafter.isMark_last

theorem IsWeakSeparator.isInterlude (h : IsWeakSeparator text) : IsInterlude (lower text) := by
  refine isInterlude_lower (List.mem_append_right strongWords h.ink_mem) ?_ ?_
  · cases h with
    | comma => exact fun c hc => Option.some.inj hc ▸ rfl
    | joining hbefore _ _ => exact hbefore.isMark_head
  · cases h with
    | comma => exact fun c hc => Option.some.inj hc ▸ rfl
    | joining _ _ hafter =>
        simp only [← List.append_assoc]
        exact hafter.isMark_last

/-! ### Fragments -/

/-- Blanks around a text do not matter to a text that is not cut. -/
theorem IsUncut.infix_lower_trim (h : IsUncut word) (hword : word <:+: lower text) :
    word <:+: lower (trim text) := by
  rcases trim_spec text with ⟨before, after, hbefore, hafter, htext⟩
  rw [htext, lower_append, lower_append] at hword
  exact infix_of_blank_ends (isBlankText_lower hbefore) (isBlankText_lower hafter) h.first h.last
    hword

/-- A text that is not cut is not lost with the separators. -/
theorem Text.IsSplit.exists_infix_lower {width : List Char → Nat} {language : List Char → Prop}
    {pieces : List (List Char)} (hfinds : Finds width language)
    (hlanguage : ∀ {separator}, language separator → IsInterlude (lower separator))
    (h : IsSplit width text pieces) (huncut : IsUncut word) (hword : word <:+: lower text) :
    ∃ piece ∈ pieces, word <:+: lower piece := by
  induction h with
  | @last piece _ => exact ⟨piece, List.mem_singleton_self piece, hword⟩
  | @cut piece separator rest pieces _ hne hwidth _ ih =>
      -- What is lost here is a separator, and the word lies on one side of it.
      have hinterlude := hlanguage (hfinds.of_width_eq hne hwidth)
      rw [lower_append, lower_append] at hword
      rcases huncut.aside hinterlude hword with hpiece | hrest
      · exact ⟨piece, List.mem_cons_self, hpiece⟩
      · rcases ih hrest with ⟨other, hother, hlater⟩
        exact ⟨other, List.mem_cons_of_mem piece hother, hlater⟩

namespace Instruction

/-- A text that is not cut is found in a fragment. -/
theorem exists_fragment_infix {width : List Char → Nat} {language : List Char → Prop}
    (hfinds : Finds width language)
    (hlanguage : ∀ {separator}, language separator → IsInterlude (lower separator))
    (huncut : IsUncut word) (hword : word <:+: lower text) :
    ∃ fragment ∈ fragments width text, word <:+: lower fragment := by
  have hsplit := isSplit_split hfinds.le_length text
  rcases hsplit.exists_infix_lower hfinds hlanguage huncut hword with ⟨piece, hpiece, hin⟩
  refine ⟨trim piece, mem_fragments_iff.mpr ⟨piece, hpiece, ?_, rfl⟩, huncut.infix_lower_trim hin⟩
  -- In a blank piece there would be blanks only.
  rw [← Bool.not_eq_true]
  intro hblank
  obtain ⟨c, rest, rfl⟩ := List.exists_cons_of_ne_nil huncut.ne_nil
  have hc := isBlankText_iff.mp (isBlankText_lower hblank) c (hin.subset List.mem_cons_self)
  rw [huncut.first c rfl] at hc
  exact absurd hc nofun

variable {limits : Limits}

/-- A text that is not cut is found in a part, if there are any. -/
theorem exists_part_infix (huncut : IsUncut word) (hword : word <:+: lower text)
    (hparts : parts limits text ≠ []) : ∃ part ∈ parts limits text, word <:+: lower part := by
  have htrim := huncut.infix_lower_trim hword
  rcases parts_eq_fragments hparts with ⟨_, hstrong⟩ | ⟨_, hweak⟩
  · rw [hstrong]
    exact exists_fragment_infix strongSeparator_finds IsStrongSeparator.isInterlude huncut htrim
  · rw [hweak]
    exact exists_fragment_infix weakSeparator_finds IsWeakSeparator.isInterlude huncut htrim

/-- A text that is not cut is found in what splitting comes to. -/
theorem exists_splitText_infix {levels : Nat} {tasks : List (List Char)} (huncut : IsUncut word)
    (hword : word <:+: lower text) (h : splitText limits levels text = .ok tasks) :
    ∃ task ∈ tasks, word <:+: lower task := by
  -- A text with the word in it is not blank, so it is not dropped.
  have hne : ∀ {text : List Char}, word <:+: lower text → trim text ≠ [] := by
    intro text hword hnil
    have htrim := huncut.infix_lower_trim hword
    rw [hnil] at htrim
    exact huncut.ne_nil (List.infix_nil.mp htrim)
  induction levels generalizing text tasks with
  | zero =>
      unfold splitText at h
      simp only [List.isEmpty_iff, hne hword, if_false] at h
      split at h
      · rw [← Except.ok.inj h]
        exact ⟨trim text, List.mem_singleton_self _, huncut.infix_lower_trim hword⟩
      · -- The text would have to be split without a level left.
        cases h
  | succ levels ih =>
      rw [splitText_succ] at h
      split at h
      · rw [if_neg (hne hword)] at h
        rw [← Except.ok.inj h]
        exact ⟨trim text, List.mem_singleton_self _, huncut.infix_lower_trim hword⟩
      · next hparts =>
        -- The word is in a part, and the induction finds it in what the part is split into.
        rcases map_eq_ok_iff.mp h with ⟨results, hresults, rfl⟩
        rcases exists_part_infix huncut hword hparts with ⟨part, hpart, hin⟩
        rcases mem_of_mapM_eq_ok hresults hpart with ⟨result, hresult, hsplit⟩
        rcases ih hin hsplit with ⟨task, htask, hfound⟩
        exact ⟨task, List.mem_flatten.mpr ⟨result, hresult, htask⟩, hfound⟩

/-- A text that is not cut is found in a subtask. -/
theorem exists_subtask_infix {instruction : String} {tasks : List String} (huncut : IsUncut word)
    (hword : word <:+: lowered instruction) (h : subtasks limits instruction = .ok tasks) :
    ∃ task ∈ tasks, word <:+: lowered task := by
  unfold subtasks at h
  split at h
  · rw [← Except.ok.inj h]
    exact ⟨instruction, List.mem_singleton_self _, hword⟩
  · rcases map_eq_ok_iff.mp h with ⟨texts, htexts, rfl⟩
    rcases exists_splitText_infix huncut hword htexts with ⟨text, htext, hfound⟩
    refine ⟨String.ofList text, List.mem_map_of_mem htext, ?_⟩
    rw [lowered, String.toList_ofList]
    exact hfound

/-! ### Unsafe wording -/

/-- The instruction mentions wording that is never compiled. -/
def isUnsafe (instruction : String) : Bool :=
  mentionsAny (lowered instruction) unsafeWords

theorem isUncut_of_mem_unsafeWords {keyword : String} (h : keyword ∈ unsafeWords) :
    IsUncut keyword.toList := by
  simp only [unsafeWords, List.mem_cons, List.not_mem_nil, or_false] at h
  rcases h with rfl | rfl | rfl | rfl
  · -- Two of the keywords consist of two words.
    have hdelete : IsFirm "delete".toList := by decide +kernel
    have hsystem : IsFirm "system".toList := by decide +kernel
    have hwords : "delete system".toList = "delete".toList ++ ' ' :: "system".toList := by rfl
    rw [hwords]
    exact isUncut_of_isFirm_blank hdelete hsystem
  · have hformat : IsFirm "format".toList := by decide +kernel
    have hdrive : IsFirm "drive".toList := by decide +kernel
    have hwords : "format drive".toList = "format".toList ++ ' ' :: "drive".toList := by rfl
    rw [hwords]
    exact isUncut_of_isFirm_blank hformat hdrive
  · -- The other two are single words.
    exact isUncut_of_isFirm (by decide +kernel)
  · exact isUncut_of_isFirm (by decide +kernel)

/-- Splitting an instruction leaves unsafe wording in one of the subtasks. -/
theorem exists_isUnsafe {instruction : String} {tasks : List String}
    (hwording : isUnsafe instruction = true) (h : subtasks limits instruction = .ok tasks) :
    ∃ task ∈ tasks, isUnsafe task = true := by
  rcases mentionsAny_iff.mp hwording with ⟨keyword, hkeyword, hword⟩
  rcases exists_subtask_infix (isUncut_of_mem_unsafeWords hkeyword) hword h with
    ⟨task, htask, hfound⟩
  exact ⟨task, htask, mentionsAny_iff.mpr ⟨keyword, hkeyword, hfound⟩⟩

/-- The screening does not pass unsafe wording to a generator. -/
theorem screen_ne_generate {instruction : String} (hwording : isUnsafe instruction = true) :
    screen instruction ≠ .ok .generate := by
  rcases mentionsAny_iff.mp hwording with ⟨keyword, hkeyword, hword⟩
  intro h
  unfold screen at h
  simp only at h
  split at h
  · exact absurd h nofun
  · split at h
    · exact absurd h nofun
    · split at h
      · exact absurd h nofun
      · next hnone =>
        -- Without the blanks around the instruction, the wording is still there.
        have htrim := (isUncut_of_mem_unsafeWords hkeyword).infix_lower_trim hword
        exact List.find?_eq_none.mp hnone keyword hkeyword (contains_iff.mpr htrim)

end Instruction

end ActionPlan
