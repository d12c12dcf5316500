import ActionPlan.Proofs.Instruction.Separators
import ActionPlan.Proofs.Item.Fields

/-!
# How Deep Splitting Goes

An instruction is split, and its fragments are split again, down to a depth that the limits
set. They could set three and mean no limit at all: whatever the instruction, its fragments are
not split more than once more.

Two of the reasons are plain. What was cut at the strong separators holds none, and what was
then cut at the weak ones holds neither kind. The third is not. Where the strong separators
separate nothing there may still be some, at the ends of the text and next to each other, and
cutting at the weak separators in between may leave one of them in the middle of a fragment.
It separates nothing there either, but the scan finds other matches in the fragment than in
the text, so the two scans cannot be compared step by step.

`IsSeparated` takes the scan out of the question. A text is separated if it holds a strong
separator with something to do on either side, wherever that stands and however the scan gets
there. For a flush text this is the same as having two fragments, and since it is passed on
from a part to the whole text, a fragment cannot have two where the text has one.

## Main definitions

* `Instruction.parts`: What a text is split into, if it is split.
* `Instruction.Reaches`: The texts that splitting comes to, by their depth.
* `IsSeparated`: A strong separator with something on either side.

## Theorems

* `fragments_free`: Fragments hold no separator that they were cut at.
* `two_le_length_fragments_iff`: A flush text has two fragments if it is separated.
* `Reaches.depth_le`: Splitting goes two levels deep.
* `reaches_of_splitText_eq_error`: Splitting fails only at the depth that the limits set.
* `subtasks_eq_ok`: With three levels, splitting does not fail.
* `subtasks_eq_ok_nested`: With two, it may.
-/

namespace ActionPlan

open Text

namespace Instruction

variable {width : List Char → Nat} {language : List Char → Prop} {text fragment part : List Char}

/-! ### Fragments -/

theorem mem_fragments_iff :
    fragment ∈ fragments width text ↔
      ∃ piece ∈ split width text, isBlankText piece = false ∧ trim piece = fragment := by
  simp only [fragments, List.mem_filter, List.mem_map, Bool.not_eq_true', List.isEmpty_eq_false_iff]
  constructor
  · -- A fragment is not empty, so its piece had something visible in it.
    rintro ⟨⟨piece, hpiece, rfl⟩, hne⟩
    refine ⟨piece, hpiece, ?_, rfl⟩
    rw [← Bool.not_eq_true, ← trim_eq_nil_iff]
    exact hne
  · rintro ⟨piece, hpiece, hblank, rfl⟩
    refine ⟨⟨piece, hpiece, rfl⟩, ?_⟩
    rw [ne_eq, trim_eq_nil_iff, hblank]
    exact nofun

theorem length_fragments (width : List Char → Nat) (text : List Char) :
    (fragments width text).length = (split width text).countP (!isBlankText ·) := by
  unfold fragments
  rw [← List.countP_eq_length_filter, List.countP_map]
  congr 1
  funext piece
  have hnil : (trim piece).isEmpty = isBlankText piece := by
    rw [Bool.eq_iff_iff, List.isEmpty_iff, trim_eq_nil_iff]
  simp only [Function.comp_apply, hnil]

theorem fragment_isInfix (hfinds : Finds width language) (h : fragment ∈ fragments width text) :
    fragment <:+: text := by
  rcases mem_fragments_iff.mp h with ⟨piece, hpiece, _, rfl⟩
  have hsplit := isSplit_split hfinds.le_length text
  exact (trim_isInfix piece).trans (hsplit.infix_of_mem hpiece)

/-- No part of a fragment is a separator of the kind that it was cut at. -/
theorem fragments_free (hfinds : Finds width language) (h : fragment ∈ fragments width text)
    (hpart : part <:+: fragment) : ¬ language part := by
  rcases mem_fragments_iff.mp h with ⟨piece, hpiece, _, rfl⟩
  have hsplit := isSplit_split hfinds.le_length text
  exact hsplit.not_separator hfinds hpiece (hpart.trans (trim_isInfix piece))

/-- A text that holds no separator is not split. -/
theorem length_fragments_of_free (hfinds : Finds width language)
    (h : ∀ part, part <:+: text → ¬ language part) : (fragments width text).length ≤ 1 := by
  rw [length_fragments]
  have hsplit := isSplit_split hfinds.le_length text
  generalize split width text = pieces at hsplit
  cases hsplit with
  | last _ => exact List.countP_le_length
  | @cut piece separator rest _ _ hne hwidth _ =>
      -- The first separator would be a part of the text.
      refine absurd (hfinds.of_width_eq hne hwidth) (h separator ?_)
      exact ⟨piece, rest, by rw [List.append_assoc]⟩

/-! ### Separated texts -/

/-- The character is neither a blank nor a semicolon. -/
def isPlain (c : Char) : Bool :=
  !isBlank c && c != ';'

/-- The text holds a strong separator with something on either side. -/
def IsSeparated (text : List Char) : Prop :=
  ∃ front separator back, text = front ++ (separator ++ back) ∧ IsStrongSeparator separator ∧
    (∃ c ∈ front, isPlain c = true) ∧ ∃ c ∈ back, isPlain c = true

theorem IsSeparated.of_isInfix (h : IsSeparated part) (hpart : part <:+: text) :
    IsSeparated text := by
  rcases h with ⟨front, separator, back, rfl, hseparator, ⟨c, hc, hplain⟩, d, hd, hplain'⟩
  rcases hpart with ⟨before, after, rfl⟩
  refine ⟨before ++ front, separator, back ++ after, by simp only [List.append_assoc],
    hseparator, ⟨c, List.mem_append_right before hc, hplain⟩,
    d, List.mem_append_left after hd, hplain'⟩

/-- A piece with something in it has something that is no semicolon. -/
theorem exists_isPlain {piece : List Char} (hblank : isBlankText piece = false)
    (hfree : ∀ part, part <:+: piece → ¬ IsStrongSeparator part) :
    ∃ c ∈ piece, isPlain c = true := by
  rw [isBlankText, List.all_eq_false] at hblank
  rcases hblank with ⟨c, hc, hnot⟩
  refine ⟨c, hc, ?_⟩
  -- A semicolon is a strong separator by itself, and the piece holds none.
  have hsemicolon : c ≠ ';' := by
    rintro rfl
    rcases List.append_of_mem hc with ⟨front, back, hpiece⟩
    exact hfree [';'] ⟨front, back, by rw [hpiece, List.append_assoc]; rfl⟩ (.semicolon rfl)
  simp only [isPlain, hnot, Bool.not_false, Bool.true_and, bne_iff_ne, ne_eq, hsemicolon,
    not_false_eq_true]

/-- Two pieces that hold something have a separator between them. -/
theorem isSeparated_of_isSplit {pieces : List (List Char)}
    (h : IsSplit strongSeparator text pieces) (htwo : 2 ≤ pieces.countP (!isBlankText ·)) :
    IsSeparated text := by
  induction h with
  | @last piece _ =>
      have hone : [piece].countP (!isBlankText ·) ≤ 1 := List.countP_le_length
      omega
  | @cut piece separator rest pieces hclear hne hwidth hrest ih =>
      rw [List.countP_cons] at htwo
      by_cases hblank : isBlankText piece = true
      · -- The first of the two comes later.
        rw [hblank] at htwo
        refine (ih htwo).of_isInfix ⟨piece ++ separator, [], ?_⟩
        rw [List.append_nil, List.append_assoc]
      · rw [Bool.not_eq_true] at hblank
        -- The piece is the first of the two, and there is another one behind the separator.
        have hlater : 0 < pieces.countP (!isBlankText ·) := by
          rw [hblank] at htwo
          simp only [Bool.not_false, if_true] at htwo
          omega
        rcases List.countP_pos_iff.mp hlater with ⟨other, hother, hfull⟩
        have hblank' : isBlankText other = false := by simpa using hfull
        -- Neither of them holds a strong separator, so both hold something plain.
        have hfree : ∀ part, part <:+: piece → ¬ IsStrongSeparator part :=
          fun _ => hclear.not_separator strongSeparator_finds
        have hfree' : ∀ part, part <:+: other → ¬ IsStrongSeparator part :=
          fun _ => hrest.not_separator strongSeparator_finds hother
        rcases exists_isPlain hblank' hfree' with ⟨d, hd, hplain⟩
        exact ⟨piece, separator, rest, rfl, strongSeparator_finds.of_width_eq hne hwidth,
          exists_isPlain hblank hfree, d, (hrest.infix_of_mem hother).subset hd, hplain⟩

/-- Behind a strong separator within a strong separator there are only blanks. -/
theorem isBlankText_of_isStrongSeparator {front separator back : List Char}
    (h : IsStrongSeparator (front ++ (separator ++ back)))
    (hseparator : IsStrongSeparator separator) : isBlankText back = true := by
  -- The words of the separators settle it: none of them goes on behind another.
  have hwords : ∀ outer ∈ strongWords, ∀ inner ∈ strongWords, ∀ i < 8,
      (outer.drop i).take inner.length = inner → outer.drop (i + inner.length) = [] := by
    decide
  have houter := h.ink_mem
  have hlength : (ink front).length < 8 := by
    have hbound : ∀ outer ∈ strongWords, outer.length < 8 := by decide
    have hlt := hbound _ houter
    rw [ink_append, List.length_append] at hlt
    omega
  have hback := hwords _ houter _ hseparator.ink_mem (ink front).length hlength
  simp only [ink_append, List.drop_left, List.take_left] at hback
  rw [← List.drop_drop, List.drop_left, List.drop_left] at hback
  exact ink_eq_nil_iff.mp (hback trivial)

theorem isBlankText_of_isFlush {piece following : List Char} (hne : piece ≠ [])
    (hflush : IsFlush (piece ++ following)) : isBlankText piece = false := by
  obtain ⟨c, cs, rfl⟩ := List.exists_cons_of_ne_nil hne
  rw [isBlankText, List.all_cons, hflush c rfl, Bool.false_and]

theorem not_mem_semicolon {c : Char} {after : List Char} (hplain : isPlain c = true)
    (hafter : isBlankText after = true) : c ∉ ';' :: after := by
  simp only [isPlain, Bool.and_eq_true, Bool.not_eq_true', bne_iff_ne] at hplain
  intro hc
  rcases List.mem_cons.mp hc with rfl | hc
  · exact hplain.2 rfl
  · rw [isBlankText_iff.mp hafter c hc] at hplain
    exact absurd hplain.1 nofun

/-- A flush text with something in it has a piece with something in it. -/
theorem countP_pos_of_isSplit {pieces : List (List Char)} {c : Char}
    (h : IsSplit strongSeparator text pieces) (hflush : IsFlush text) (hc : c ∈ text)
    (hplain : isPlain c = true) : 0 < pieces.countP (!isBlankText ·) := by
  induction h with
  | @last piece _ =>
      -- A flush text that is not empty begins with something visible.
      have hfull : isBlankText piece = false := by
        rw [← List.append_nil piece] at hflush
        exact isBlankText_of_isFlush (List.ne_nil_of_mem hc) hflush
      rw [List.countP_singleton, hfull]
      exact Nat.one_pos
  | @cut piece separator rest pieces _ hne hwidth _ ih =>
      rw [List.countP_cons]
      by_cases hpiece : piece = []
      · -- Only a semicolon can stand at the head of a flush text.
        subst hpiece
        rw [List.nil_append] at hflush hc
        have hseparator := strongSeparator_finds.of_width_eq hne hwidth
        rcases hseparator.of_isFlush hflush with ⟨after, hafter, rfl⟩
        have hrest : c ∈ rest :=
          (List.mem_append.mp hc).resolve_left (not_mem_semicolon hplain hafter)
        have hpos := ih (isFlush_of_strongSeparator hne hwidth) hrest
        omega
      · -- The piece begins with something visible, and one is enough.
        rw [isBlankText_of_isFlush hpiece hflush]
        simp only [Bool.not_false, if_true]
        omega

/-- Where two strong separators begin one behind the other, the second does not end first. -/
theorem mem_rest_of_mem_back {separator rest front separator' back : List Char} {c : Char}
    (hseparator : IsStrongSeparator separator) (hseparator' : IsStrongSeparator separator')
    (htext : separator ++ rest = front ++ (separator' ++ back)) (hc : c ∈ back)
    (hplain : isPlain c = true) : c ∈ rest := by
  rw [← List.append_assoc] at htext
  rcases List.append_eq_append_iff.mp htext with ⟨later, _, rfl⟩ | ⟨later, rfl, rfl⟩
  · exact List.mem_append_right later hc
  · rw [List.append_assoc] at hseparator
    have hblank := isBlankText_of_isStrongSeparator hseparator hseparator'
    refine (List.mem_append.mp hc).resolve_left fun hlater => ?_
    exact not_mem_semicolon hplain hblank (List.mem_cons_of_mem ';' hlater)

/-- A flush text that is separated has two pieces with something in them. -/
theorem two_le_of_isSplit {pieces : List (List Char)} (h : IsSplit strongSeparator text pieces)
    (hflush : IsFlush text) (hseparated : IsSeparated text) :
    2 ≤ pieces.countP (!isBlankText ·) := by
  induction h with
  | @last piece hclear =>
      rcases hseparated with ⟨front, separator, back, rfl, hseparator, _⟩
      refine absurd hseparator (hclear.not_separator strongSeparator_finds ?_)
      exact List.infix_append' front separator back
  | @cut piece separator rest pieces hclear hne hwidth hrest ih =>
      rcases hseparated with ⟨front, separator', back, htext, hseparator', ⟨c, hc, hplain⟩,
        d, hd, hplain'⟩
      have hseparator := strongSeparator_finds.of_width_eq hne hwidth
      have hrestFlush := isFlush_of_strongSeparator hne hwidth
      rw [List.countP_cons]
      by_cases hpiece : piece = []
      · -- The text begins with a semicolon, and the separator in question comes later.
        subst hpiece
        rw [List.nil_append] at hflush htext
        rcases hseparator.of_isFlush hflush with ⟨after, hafter, rfl⟩
        rcases List.append_eq_append_iff.mp htext with ⟨front', rfl, hlater⟩ | ⟨later, hfront, _⟩
        · refine Nat.le_add_right_of_le (ih hrestFlush ⟨front', separator', back, hlater,
            hseparator', ⟨c, ?_, hplain⟩, d, hd, hplain'⟩)
          exact (List.mem_append.mp hc).resolve_left (not_mem_semicolon hplain hafter)
        · refine absurd ?_ (not_mem_semicolon hplain hafter)
          rw [hfront]
          exact List.mem_append_left later hc
      · rw [isBlankText_of_isFlush hpiece hflush]
        simp only [Bool.not_false, if_true]
        -- No separator begins in the piece, so the one in question begins behind it.
        have hfront : ∃ front', separator ++ rest = front' ++ (separator' ++ back) := by
          rcases List.append_eq_append_iff.mp htext with ⟨front', _, hlater⟩ | ⟨part, hpart, hlater⟩
          · exact ⟨front', hlater⟩
          · by_cases hnil : part = []
            · exact ⟨[], by rw [hlater, hnil]; rfl⟩
            · have hzero := hclear part hnil ⟨front, hpart.symm⟩
              rw [← hlater] at hzero
              exact absurd hzero (Nat.ne_of_gt (strongSeparator_finds.pos back hseparator'))
        rcases hfront with ⟨front', hbehind⟩
        have hback := mem_rest_of_mem_back hseparator hseparator' hbehind hd hplain'
        have hpos := countP_pos_of_isSplit hrest hrestFlush hback hplain'
        omega

theorem two_le_length_fragments_iff (hflush : IsFlush text) :
    2 ≤ (fragments strongSeparator text).length ↔ IsSeparated text := by
  rw [length_fragments]
  have hsplit := isSplit_split strongSeparator_finds.le_length text
  exact ⟨isSeparated_of_isSplit hsplit, two_le_of_isSplit hsplit hflush⟩

/-- Where the strong separators separate nothing, they do not separate a part either. -/
theorem length_fragments_of_isInfix (hflush : IsFlush text)
    (hone : (fragments strongSeparator text).length ≤ 1) (hpart : part <:+: text) :
    (fragments strongSeparator part).length ≤ 1 := by
  by_contra htwo
  rw [length_fragments] at htwo
  have hsplit := isSplit_split strongSeparator_finds.le_length part
  have hseparated := isSeparated_of_isSplit hsplit (by omega)
  have htwo' := (two_le_length_fragments_iff hflush).mpr (hseparated.of_isInfix hpart)
  omega

/-! ### Depth -/

/-- What a text is split into; nothing, if it is left whole. -/
def parts (limits : Limits) (text : List Char) : List (List Char) :=
  let text := trim text
  let strong := fragments strongSeparator text
  let weak := fragments weakSeparator text
  if text.isEmpty || effortOf text ≤ limits.maxActions then []
  else if 1 < strong.length then strong
  else if 1 < weak.length then weak
  else []

/-- Splitting a text comes to another one so many levels further down. -/
inductive Reaches (limits : Limits) : Nat → List Char → List Char → Prop
  | here {text : List Char} : Reaches limits 0 text text
  | deeper {depth : Nat} {text part other : List Char} (hpart : part ∈ parts limits text)
      (hother : Reaches limits depth part other) : Reaches limits (depth + 1) text other

variable {limits : Limits} {other : List Char}

/-- Parts come of strong separators, or of weak ones where the strong ones separate nothing. -/
theorem parts_eq_fragments (h : parts limits text ≠ []) :
    1 < (fragments strongSeparator (trim text)).length ∧
        parts limits text = fragments strongSeparator (trim text) ∨
      (fragments strongSeparator (trim text)).length ≤ 1 ∧
        parts limits text = fragments weakSeparator (trim text) := by
  unfold parts at h ⊢
  simp only at h ⊢
  split at h
  · -- A text that is blank or fits has no parts.
    exact absurd rfl h
  · next hneeded =>
    rw [if_neg hneeded]
    split at h
    · next hstrong =>
      rw [if_pos hstrong]
      exact .inl ⟨hstrong, rfl⟩
    · next hstrong =>
      rw [if_neg hstrong]
      split at h
      · next hweak =>
        rw [if_pos hweak]
        exact .inr ⟨Nat.not_lt.mp hstrong, rfl⟩
      · -- Neither of the two cuts anything, and then there are no parts either.
        exact absurd rfl h

theorem parts_cases (h : part ∈ parts limits text) :
    1 < (fragments strongSeparator (trim text)).length ∧
        part ∈ fragments strongSeparator (trim text) ∨
      (fragments strongSeparator (trim text)).length ≤ 1 ∧
        part ∈ fragments weakSeparator (trim text) := by
  rcases parts_eq_fragments (List.ne_nil_of_mem h) with ⟨htwo, heq⟩ | ⟨hone, heq⟩
  · rw [heq] at h
    exact .inl ⟨htwo, h⟩
  · rw [heq] at h
    exact .inr ⟨hone, h⟩

theorem parts_eq_nil (hstrong : (fragments strongSeparator (trim text)).length ≤ 1)
    (hweak : (fragments weakSeparator (trim text)).length ≤ 1) : parts limits text = [] := by
  unfold parts
  simp only
  rw [if_neg (Nat.not_lt.mpr hstrong), if_neg (Nat.not_lt.mpr hweak), ite_self]

/-- A fragment of weak separators that strong ones do not separate is left whole. -/
theorem parts_of_weak_fragment (h : fragment ∈ fragments weakSeparator text)
    (hstrong : (fragments strongSeparator (trim fragment)).length ≤ 1) :
    parts limits fragment = [] := by
  refine parts_eq_nil hstrong (length_fragments_of_free weakSeparator_finds fun part hpart => ?_)
  exact fragments_free weakSeparator_finds h (hpart.trans (trim_isInfix fragment))

/-- Where the strong separators separate nothing, the fragments of the weak ones are left whole. -/
theorem parts_weak_part (hone : (fragments strongSeparator (trim text)).length ≤ 1)
    (hweak : part ∈ fragments weakSeparator (trim text)) : parts limits part = [] := by
  refine parts_of_weak_fragment hweak (length_fragments_of_isInfix (isFlush_trim text) hone ?_)
  exact (trim_isInfix part).trans (fragment_isInfix weakSeparator_finds hweak)

/-- The parts of a part are left whole. -/
theorem parts_parts (hpart : part ∈ parts limits text) (hother : other ∈ parts limits part) :
    parts limits other = [] := by
  rcases parts_cases hpart with ⟨_, hstrong⟩ | ⟨hone, hweak⟩
  · -- No strong separator is left in the part, nor in anything within it.
    have hfree : ∀ inner, inner <:+: trim part → ¬ IsStrongSeparator inner := fun inner hinner =>
      fragments_free strongSeparator_finds hstrong (hinner.trans (trim_isInfix part))
    have hnone := length_fragments_of_free strongSeparator_finds hfree
    rcases parts_cases hother with ⟨htwo, _⟩ | ⟨_, hweak⟩
    · omega
    · refine parts_of_weak_fragment hweak (length_fragments_of_free strongSeparator_finds ?_)
      intro inner hinner
      have hwithin := fragment_isInfix weakSeparator_finds hweak
      exact hfree inner (hinner.trans ((trim_isInfix other).trans hwithin))
  · -- The strong separators do not separate the part either, so it has no parts at all.
    rw [parts_weak_part hone hweak] at hother
    exact absurd hother List.not_mem_nil

/-- Splitting goes two levels deep, whatever the limits are. -/
theorem Reaches.depth_le {depth : Nat} (h : Reaches limits depth text other) : depth ≤ 2 := by
  cases h with
  | here => exact Nat.zero_le 2
  | deeper hpart h =>
      cases h with
      | here => exact Nat.le_succ 1
      | deeper hpart' h =>
          cases h with
          | here => exact Nat.le_refl 2
          | deeper hpart'' _ =>
              -- The parts of parts are left whole, so a third level is never come to.
              rw [parts_parts hpart hpart'] at hpart''
              exact absurd hpart'' List.not_mem_nil

/-! ### Success -/

/-- One level of splitting: a text without parts stays as it is, and otherwise its parts are
    split one level less deep. -/
theorem splitText_succ (limits : Limits) (levels : Nat) (text : List Char) :
    splitText limits (levels + 1) text =
      if parts limits text = [] then .ok (if trim text = [] then [] else [trim text])
      else ((parts limits text).mapM (splitText limits levels)).map List.flatten := by
  rw [splitText]
  unfold parts
  simp only [List.isEmpty_iff, Bool.or_eq_true, decide_eq_true_eq]
  by_cases hnil : trim text = []
  · simp only [hnil, true_or, if_true]
  · by_cases hfits : effortOf (trim text) ≤ limits.maxActions
    · simp only [hnil, hfits, or_true, if_true, if_false]
    · -- Where there are several pieces, the parts are these, and there are some.
      have hne : ∀ {pieces : List (List Char)}, 1 < pieces.length → pieces ≠ [] :=
        fun h => List.ne_nil_of_length_pos (Nat.zero_lt_of_lt h)
      simp only [hnil, hfits, or_self, if_false]
      split
      · next hstrong => rw [if_neg (hne hstrong)]
      · split
        · next hweak => rw [if_neg (hne hweak)]
        · rw [if_pos rfl]

/-- Splitting fails only at the depth that the limits set. -/
theorem reaches_of_splitText_eq_error {levels : Nat} {e : PlanError}
    (h : splitText limits levels text = .error e) : ∃ other, Reaches limits levels text other := by
  induction levels generalizing text e with
  | zero => exact ⟨text, .here⟩
  | succ levels ih =>
      rw [splitText_succ] at h
      split at h
      · exact absurd h nofun
      · -- One of the parts has failed, and by induction it failed at its own depth.
        rcases mapM_cases (splitText limits levels) (parts limits text) with ⟨results, hresults⟩ |
          ⟨before, part, after, _, e', hparts, _, herror⟩
        · rw [hresults] at h
          exact absurd h nofun
        · have hpart : part ∈ parts limits text := by
            rw [hparts]
            exact List.mem_append_right before List.mem_cons_self
          rcases ih herror with ⟨other, hother⟩
          exact ⟨other, .deeper hpart hother⟩

/-- With three levels or more, splitting does not fail. It never comes further than two levels
    down: fragments hold no separator that they were cut at, and where the strong separators
    separate nothing, they do not separate the fragments of the weak ones either. -/
theorem subtasks_eq_ok (limits : Limits) (hdepth : 3 ≤ limits.maxDepth) (instruction : String) :
    (∃ tasks, subtasks limits instruction = .ok tasks) ∧
      (∀ depth other, Reaches limits depth instruction.toList other → depth ≤ 2) ∧
      (∀ text, ∀ fragment ∈ fragments strongSeparator text, ∀ part, part <:+: fragment →
        ¬ IsStrongSeparator part) ∧
      (∀ text, ∀ fragment ∈ fragments weakSeparator text, ∀ part, part <:+: fragment →
        ¬ IsWeakSeparator part) ∧
      ∀ text, (fragments strongSeparator (trim text)).length ≤ 1 →
        ∀ fragment ∈ fragments weakSeparator (trim text),
          (fragments strongSeparator fragment).length ≤ 1 := by
  refine ⟨?_, fun _ _ => Reaches.depth_le, fun _ _ h _ => fragments_free strongSeparator_finds h,
    fun _ _ h _ => fragments_free weakSeparator_finds h, fun text hone fragment h => ?_⟩
  · unfold subtasks
    split
    · exact ⟨_, rfl⟩
    · rcases hsplit : splitText limits limits.maxDepth instruction.toList with e | fragments
      · -- Failing would mean to come three levels down.
        rcases reaches_of_splitText_eq_error hsplit with ⟨other, hother⟩
        have hle := hother.depth_le
        omega
      · exact ⟨_, rfl⟩
  · exact length_fragments_of_isInfix (isFlush_trim text) hone
      (fragment_isInfix weakSeparator_finds h)

/-- An instruction that does go two levels down, and comes to a text that is left whole there
    although it needs too many actions. With one level less, splitting it fails. -/
theorem subtasks_eq_ok_nested :
    (3 ≤ (⟨1, 3⟩ : Limits).maxDepth ∧
      ∃ tasks, subtasks ⟨1, 3⟩ "open a; open open b and open c" = .ok tasks) ∧
    subtasks ⟨1, 3⟩ "open a; open open b and open c" = .ok ["open a", "open open b", "open c"] ∧
    subtasks ⟨1, 2⟩ "open a; open open b and open c" =
      .error (tooDeep ⟨1, 2⟩ 2 "open open b".toList) := by
  refine ⟨⟨by decide, (subtasks_eq_ok ⟨1, 3⟩ (by decide) _).1⟩, ?_, ?_⟩
  · decide +kernel
  · decide +kernel

end Instruction

end ActionPlan
