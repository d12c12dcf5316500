import ActionPlan.Proofs.Instruction.Keywords

/-!
# What Splitting Yields

Splitting calls itself on every fragment with one level less, and what it returns is put
together from the results. None of this matters for the result: a list of texts falls into the
list of their subtasks, one text after the other, and `FallsInto` says so without levels and
without the order of the calls. `fallsInto_of_splitText` is the only place where the recursion
is opened.

Two questions are answered by induction on it. The first is whether anything is lost. A text
covers its fragments if it consists of them and of fillers: blanks, the two marks and the two
words that separate. That is kept when one of the fragments is replaced by what it falls into,
because fillers next to each other are a filler. The second is whether splitting has come to
its end. A subtask is what is left whole, so it has no parts, and splitting it once more finds
that out at the first level and returns it.

An instruction that fits is not even trimmed, so its only subtask may have blanks around it. It
falls into itself by the definition of `subtasks` and not by this relation.

## Main definitions

* `IsFiller`: What may stand between two subtasks.
* `Covers`: A text that consists of fragments and fillers.
* `Instruction.FallsInto`: The subtasks of several texts.
* `Instruction.IsAtomic`: A text that neither kind of separator separates.

## Theorems

* `Covers.append`: Covered texts are covered together.
* `fragments_covers`: A text covers its fragments.
* `fallsInto_of_splitText`: Splitting yields what a text falls into.
* `FallsInto.covers`: Falling apart loses nothing.
* `FallsInto.parts_eq_nil`: What a text falls into has no parts.
* `subtasks_covers`: An instruction covers its subtasks.
* `subtasks_subtasks`: Subtasks fit or are atomic, and are their own subtasks.
-/

namespace ActionPlan

open Text

/-! ### Fillers -/

/-- What may stand between two subtasks: blanks, semicolons, commas, and the words *then* and
    *and* in any casing, one after the other. -/
inductive IsFiller : List Char → Prop
  | nil : IsFiller []
  | blank {c : Char} {text : List Char} (hc : isBlank c = true) (h : IsFiller text) :
      IsFiller (c :: text)
  | semicolon {text : List Char} (h : IsFiller text) : IsFiller (';' :: text)
  | comma {text : List Char} (h : IsFiller text) : IsFiller (',' :: text)
  | following {word text : List Char} (hword : Spells "then" word) (h : IsFiller text) :
      IsFiller (word ++ text)
  | joining {word text : List Char} (hword : Spells "and" word) (h : IsFiller text) :
      IsFiller (word ++ text)

variable {text rest : List Char}

theorem IsFiller.append (h : IsFiller text) (hrest : IsFiller rest) : IsFiller (text ++ rest) := by
  induction h with
  | nil => exact hrest
  | blank hc _ ih => exact .blank hc ih
  | semicolon _ ih => exact .semicolon ih
  | comma _ ih => exact .comma ih
  | following hword _ ih =>
      rw [List.append_assoc]
      exact .following hword ih
  | joining hword _ ih =>
      rw [List.append_assoc]
      exact .joining hword ih

theorem isFiller_of_isBlankText (h : isBlankText text = true) : IsFiller text := by
  rw [isBlankText_iff] at h
  induction text with
  | nil => exact .nil
  | cons c text ih =>
      exact .blank (h c List.mem_cons_self) (ih fun d hd => h d (List.mem_cons_of_mem c hd))

theorem IsStrongSeparator.isFiller (h : IsStrongSeparator text) : IsFiller text := by
  cases h with
  | semicolon hafter => exact .semicolon (isFiller_of_isBlankText hafter)
  | following hbefore hcomma hbetween hword hafter =>
      -- A comma in front of the word is the only part of the separator that may be missing.
      refine (isFiller_of_isBlankText hbefore.2).append (.append ?_ (.append
        (isFiller_of_isBlankText hbetween) (.following hword (isFiller_of_isBlankText hafter.2))))
      rcases hcomma with rfl | rfl
      · exact .nil
      · exact .comma .nil
  | joining hbefore hword hbetween hword' hafter =>
      exact (isFiller_of_isBlankText hbefore.2).append (.joining hword
        ((isFiller_of_isBlankText hbetween.2).append
          (.following hword' (isFiller_of_isBlankText hafter.2))))

theorem IsWeakSeparator.isFiller (h : IsWeakSeparator text) : IsFiller text := by
  cases h with
  | comma => exact .comma .nil
  | joining hbefore hword hafter =>
      exact (isFiller_of_isBlankText hbefore.2).append
        (.joining hword (isFiller_of_isBlankText hafter.2))

/-! ### Covering -/

/-- The text consists of the pieces, in order, with fillers in front of them, between them
    and behind them. -/
inductive Covers : List (List Char) → List Char → Prop
  | last {gap : List Char} (hgap : IsFiller gap) : Covers [] gap
  | next {gap piece rest : List Char} {pieces : List (List Char)} (hgap : IsFiller gap)
      (h : Covers pieces rest) : Covers (piece :: pieces) (gap ++ (piece ++ rest))

variable {pieces pieces' : List (List Char)} {gap : List Char}

theorem Covers.self (text : List Char) : Covers [text] text := by
  have h : Covers [text] ([] ++ (text ++ [])) := .next .nil (.last .nil)
  rwa [List.nil_append, List.append_nil] at h

theorem Covers.prepend (h : Covers pieces text) (hgap : IsFiller gap) :
    Covers pieces (gap ++ text) := by
  cases h with
  | last htext => exact .last (hgap.append htext)
  | next hfirst hrest =>
      rw [← List.append_assoc]
      exact .next (hgap.append hfirst) hrest

/-- Covered texts are covered together; the fillers where they meet become one. -/
theorem Covers.append (h : Covers pieces text) (hrest : Covers pieces' rest) :
    Covers (pieces ++ pieces') (text ++ rest) := by
  induction h with
  | last hgap => exact hrest.prepend hgap
  | next hgap _ ih =>
      rw [List.append_assoc, List.append_assoc]
      exact .next hgap ih

theorem covers_trim (text : List Char) : Covers [trim text] text := by
  rcases trim_spec text with ⟨before, after, hbefore, hafter, htext⟩
  have h : Covers [trim text] (before ++ (trim text ++ after)) :=
    .next (isFiller_of_isBlankText hbefore) (.last (isFiller_of_isBlankText hafter))
  rwa [← htext] at h

namespace Instruction

variable {width : List Char → Nat} {language : List Char → Prop}

/-- A piece covers its trimmed form, or nothing if it is dropped. -/
theorem covers_piece (piece : List Char) :
    Covers ([trim piece].filter (!·.isEmpty)) piece := by
  by_cases hblank : trim piece = []
  · rw [hblank]
    exact .last (isFiller_of_isBlankText (trim_eq_nil_iff.mp hblank))
  · rw [List.filter_cons_of_pos (by simpa using hblank)]
    exact covers_trim piece

/-- A text covers its fragments, as all between two pieces is one separator. -/
theorem fragments_covers (hfinds : Finds width language)
    (hfiller : ∀ {separator}, language separator → IsFiller separator) (text : List Char) :
    Covers (fragments width text) text := by
  have hsplit := isSplit_split hfinds.le_length text
  unfold fragments
  generalize split width text = pieces at hsplit
  -- The induction is on the pieces: each adds itself and the separator behind it.
  induction hsplit with
  | last _ => exact covers_piece _
  | @cut piece separator rest pieces _ hne hwidth _ ih =>
      have hseparator := hfiller (hfinds.of_width_eq hne hwidth)
      rw [List.map_cons, ← List.singleton_append, List.filter_append]
      exact (covers_piece piece).append (ih.prepend hseparator)

variable {limits : Limits}

theorem parts_covers (h : parts limits text ≠ []) : Covers (parts limits text) text := by
  have htrim : Covers (parts limits text) (trim text) := by
    rcases parts_eq_fragments h with ⟨_, heq⟩ | ⟨_, heq⟩
    · rw [heq]
      exact fragments_covers strongSeparator_finds IsStrongSeparator.isFiller _
    · rw [heq]
      exact fragments_covers weakSeparator_finds IsWeakSeparator.isFiller _
  -- What trimming takes off is a filler in front and a filler behind.
  rcases trim_spec text with ⟨before, after, hbefore, hafter, htext⟩
  have hall := (htrim.append (.last (isFiller_of_isBlankText hafter))).prepend
    (isFiller_of_isBlankText hbefore)
  rwa [List.append_nil, ← htext] at hall

/-! ### Falling apart -/

/-- The texts fall into the subtasks, one text after the other: into nothing if the text is
    blank, into itself if it has no parts, and otherwise into what its parts fall into. -/
inductive FallsInto (limits : Limits) : List (List Char) → List (List Char) → Prop
  | nil : FallsInto limits [] []
  | blank {text : List Char} {texts tasks : List (List Char)} (hblank : trim text = [])
      (h : FallsInto limits texts tasks) : FallsInto limits (text :: texts) tasks
  | whole {text : List Char} {texts tasks : List (List Char)} (hfull : trim text ≠ [])
      (hparts : parts limits text = []) (h : FallsInto limits texts tasks) :
      FallsInto limits (text :: texts) (trim text :: tasks)
  | apart {text : List Char} {texts tasks tasks' : List (List Char)}
      (hparts : parts limits text ≠ []) (hinner : FallsInto limits (parts limits text) tasks)
      (h : FallsInto limits texts tasks') : FallsInto limits (text :: texts) (tasks ++ tasks')

variable {texts texts' tasks tasks' : List (List Char)}

theorem FallsInto.append (h : FallsInto limits texts tasks) (h' : FallsInto limits texts' tasks') :
    FallsInto limits (texts ++ texts') (tasks ++ tasks') := by
  induction h with
  | nil => exact h'
  | blank hblank _ ih => exact .blank hblank ih
  | whole hfull hparts _ ih => exact .whole hfull hparts ih
  | apart hparts hinner _ _ ih =>
      rw [List.append_assoc]
      exact .apart hparts hinner ih

/-- A text that has no parts falls into itself, or into nothing if it is blank. -/
theorem fallsInto_of_parts_eq_nil (hparts : parts limits text = []) :
    FallsInto limits [text] (if trim text = [] then [] else [trim text]) := by
  split
  · next hblank => exact .blank hblank .nil
  · next hfull => exact .whole hfull hparts .nil

/-- A text without a level left is returned only if it has no parts. -/
theorem splitText_zero (h : splitText limits 0 text = .ok tasks) :
    parts limits text = [] ∧ tasks = if trim text = [] then [] else [trim text] := by
  rw [splitText] at h
  unfold parts
  simp only [List.isEmpty_iff, Bool.or_eq_true, decide_eq_true_eq] at h ⊢
  split at h
  · next hblank => exact ⟨if_pos (.inl hblank), by rw [if_pos hblank, Except.ok.inj h]⟩
  · next hfull =>
    split at h
    · next hfits => exact ⟨if_pos (.inr hfits), by rw [if_neg hfull, Except.ok.inj h]⟩
    · -- The text would have to be split, and without a level left that is an error.
      cases h

theorem fallsInto_of_mapM {levels : Nat} {results : List (List (List Char))}
    (hstep : ∀ {text tasks}, splitText limits levels text = .ok tasks →
      FallsInto limits [text] tasks)
    (h : texts.mapM (splitText limits levels) = .ok results) :
    FallsInto limits texts results.flatten := by
  induction texts generalizing results with
  | nil =>
      rw [← Except.ok.inj h]
      exact .nil
  | cons text texts ih =>
      rcases mapM_cons_eq_ok_iff.mp h with ⟨first, later, hfirst, hlater, rfl⟩
      exact (hstep hfirst).append (ih hlater)

/-- Splitting yields what a text falls into, however many levels there are. -/
theorem fallsInto_of_splitText {levels : Nat} (h : splitText limits levels text = .ok tasks) :
    FallsInto limits [text] tasks := by
  induction levels generalizing text tasks with
  | zero =>
      rcases splitText_zero h with ⟨hparts, rfl⟩
      exact fallsInto_of_parts_eq_nil hparts
  | succ levels ih =>
      rw [splitText_succ] at h
      split at h
      · next hparts =>
        rw [← Except.ok.inj h]
        exact fallsInto_of_parts_eq_nil hparts
      · next hparts =>
        -- The parts are split with one level less, and the induction speaks of those.
        rcases map_eq_ok_iff.mp h with ⟨results, hresults, rfl⟩
        rw [← List.append_nil results.flatten]
        exact .apart hparts (fallsInto_of_mapM ih hresults) .nil

/-! ### Nothing is lost -/

/-- A text that covers others covers what they fall into. -/
theorem FallsInto.covers (h : FallsInto limits texts tasks) (hcovers : Covers texts text) :
    Covers tasks text := by
  induction h generalizing text with
  | nil => exact hcovers
  | @blank first _ _ hblank _ ih =>
      cases hcovers with
      | next hgap hrest =>
          -- The text is dropped, but it is filler itself and joins the gap in front of the rest.
          have hfirst : Covers [] first :=
            .last (isFiller_of_isBlankText (trim_eq_nil_iff.mp hblank))
          exact (hfirst.append (ih hrest)).prepend hgap
  | @whole first _ _ _ _ _ ih =>
      cases hcovers with
      | next hgap hrest => exact ((covers_trim first).append (ih hrest)).prepend hgap
  | apart hparts _ _ ih ih' =>
      cases hcovers with
      -- A text is covered by its parts, so it is covered by what they fall into.
      | next hgap hrest => exact ((ih (parts_covers hparts)).append (ih' hrest)).prepend hgap

theorem FallsInto.isBlankText_eq_false (h : FallsInto limits texts tasks) {task : List Char}
    (htask : task ∈ tasks) : isBlankText task = false := by
  induction h with
  | nil => exact absurd htask List.not_mem_nil
  | blank _ _ ih => exact ih htask
  | whole hfull _ _ ih =>
      rcases List.mem_cons.mp htask with rfl | hlater
      · -- It is kept without the blanks around it, and something was between them.
        rw [← Bool.not_eq_true, ← trim_eq_nil_iff, trim_trim]
        exact hfull
      · exact ih hlater
  | apart _ _ _ ih ih' =>
      rcases List.mem_append.mp htask with hinner | hlater
      · exact ih hinner
      · exact ih' hlater

/-- A part of a text is never blank. -/
theorem trim_ne_nil_of_mem_parts {part : List Char} (h : part ∈ parts limits text) :
    trim part ≠ [] := by
  -- Either way of cutting drops the fragments that are blank.
  have hfragment : ∃ width, part ∈ fragments width (trim text) := by
    rcases parts_cases h with ⟨_, hstrong⟩ | ⟨_, hweak⟩
    · exact ⟨_, hstrong⟩
    · exact ⟨_, hweak⟩
  rcases hfragment with ⟨width, hfragment⟩
  rcases mem_fragments_iff.mp hfragment with ⟨piece, _, hfull, rfl⟩
  rw [trim_trim, ne_eq, trim_eq_nil_iff, hfull]
  exact nofun

/-- Something comes of a text that is not blank. -/
theorem FallsInto.ne_nil (h : FallsInto limits texts tasks)
    (hfull : ∃ text ∈ texts, trim text ≠ []) : tasks ≠ [] := by
  induction h with
  | nil =>
      rcases hfull with ⟨_, hmem, _⟩
      exact absurd hmem List.not_mem_nil
  | blank hblank _ ih =>
      rcases hfull with ⟨text, hmem, hne⟩
      rcases List.mem_cons.mp hmem with rfl | hlater
      · exact absurd hblank hne
      · exact ih ⟨text, hlater, hne⟩
  | whole _ _ _ _ => exact List.cons_ne_nil _ _
  | apart hparts _ _ ih _ =>
      -- There is a part, it is not blank, and by induction something comes of it.
      obtain ⟨part, hpart⟩ := List.exists_mem_of_ne_nil _ hparts
      exact List.append_ne_nil_of_left_ne_nil
        (ih ⟨part, hpart, trim_ne_nil_of_mem_parts hpart⟩) _

/-! ### Blank instructions -/

theorem wordCount_eq_zero {words : List String}
    (h : ∀ word ∈ words, occurrences word.toList text = 0) : wordCount text words = 0 := by
  unfold wordCount
  induction words with
  | nil => rfl
  | cons word words ih =>
      rw [List.foldl_cons, h word List.mem_cons_self]
      exact ih fun other hother => h other (List.mem_cons_of_mem word hother)

theorem occurrences_eq_zero {keyword : List Char} (h : ¬ keyword <:+: text) :
    occurrences keyword text = 0 := by
  unfold occurrences
  induction text with
  | nil => rfl
  | cons c text ih =>
      -- A keyword at the head of the text would also be one inside it.
      have hhead : ¬ keyword.isPrefixOf (c :: text) = true := fun hprefix =>
        h (List.isPrefixOf_iff_prefix.mp hprefix).isInfix
      rw [occurrencesAfter, if_neg hhead]
      exact ih fun hlater => h (List.infix_cons hlater)

/-- The text has a character that is no blank. -/
theorem not_infix_of_isBlankText {keyword : List Char} (hkeyword : keyword.any (!isBlank ·) = true)
    (h : isBlankText text = true) : ¬ keyword <:+: text := by
  intro hpart
  rcases List.any_eq_true.mp hkeyword with ⟨c, hc, hfull⟩
  rw [isBlankText_iff.mp h c (hpart.subset hc)] at hfull
  exact absurd hfull nofun

/-- A blank text needs no action. -/
theorem effortOf_eq_zero (h : isBlankText text = true) : effortOf text = 0 := by
  have hlower := isBlankText_lower h
  -- Every keyword has a visible character, and a blank text has none.
  have hcount : ∀ words : List String, words.all (·.toList.any (!isBlank ·)) = true →
      wordCount (lower text) words = 0 := by
    intro words hwords
    refine wordCount_eq_zero fun word hword => occurrences_eq_zero ?_
    exact not_infix_of_isBlankText (List.all_eq_true.mp hwords word hword) hlower
  have hmentions : ∀ word : String, word.toList.any (!isBlank ·) = true →
      mentions (lower text) word = false := by
    intro word hword
    rw [← Bool.not_eq_true, mentions, contains_iff]
    exact not_infix_of_isBlankText hword hlower
  unfold effortOf savingEffort
  simp only [hcount verbs (by decide), hcount clickWords (by decide), hmentions "save" (by decide),
    hmentions "save as" (by decide), h, Bool.not_true, Bool.and_false, Bool.false_eq_true, if_false]

/-! ### The subtasks -/

/-- An instruction covers its subtasks: it consists of them, in order, and of fillers. There is
    at least one of them, and none is blank unless the instruction is. -/
theorem subtasks_covers {instruction : String} {tasks : List String}
    (h : subtasks limits instruction = .ok tasks) :
    tasks ≠ [] ∧ Covers (tasks.map String.toList) instruction.toList ∧
      (isBlankText instruction.toList = false →
        ∀ task ∈ tasks, isBlankText task.toList = false) := by
  unfold subtasks at h
  split at h
  · rw [← Except.ok.inj h]
    refine ⟨List.cons_ne_nil _ _, .self _, fun hfull task htask => ?_⟩
    rwa [List.mem_singleton.mp htask]
  · next hneeded =>
    rcases map_eq_ok_iff.mp h with ⟨fragments, hsplit, rfl⟩
    have hfalls := fallsInto_of_splitText hsplit
    have hback : (fragments.map String.ofList).map String.toList = fragments := by
      rw [List.map_map]
      exact List.map_id'' (fun _ => String.toList_ofList) fragments
    refine ⟨?_, ?_, ?_⟩
    · -- A blank instruction would have fitted.
      have hfull : trim instruction.toList ≠ [] := by
        intro hblank
        rw [effort, effortOf_eq_zero (trim_eq_nil_iff.mp hblank)] at hneeded
        exact absurd (Nat.zero_le _) hneeded
      rw [ne_eq, List.map_eq_nil_iff]
      exact hfalls.ne_nil ⟨_, List.mem_singleton_self _, hfull⟩
    · -- The instruction covers itself, so it covers what it falls into.
      rw [hback]
      exact hfalls.covers (.self _)
    · intro _ task htask
      rcases List.mem_map.mp htask with ⟨fragment, hfragment, rfl⟩
      rw [String.toList_ofList]
      exact hfalls.isBlankText_eq_false hfragment

/-- An instruction of which three subtasks come on two levels, with other separators next to
    each other and a *then* that separates nothing. -/
theorem subtasks_covers_nested :
    subtasks ⟨1, 3⟩ " open a ; THEN open b,, and open c ;" =
        .ok ["open a", "THEN open b", "open c"] ∧
      ["open a", "THEN open b", "open c"] ≠ [] ∧
      Covers (["open a", "THEN open b", "open c"].map String.toList)
        " open a ; THEN open b,, and open c ;".toList ∧
      (isBlankText " open a ; THEN open b,, and open c ;".toList = false →
        ∀ task ∈ ["open a", "THEN open b", "open c"], isBlankText task.toList = false) :=
  have h : subtasks ⟨1, 3⟩ " open a ; THEN open b,, and open c ;" =
      .ok ["open a", "THEN open b", "open c"] := by decide +kernel
  ⟨h, subtasks_covers h⟩

/-! ### Nothing is left to split -/

theorem parts_trim (limits : Limits) (text : List Char) :
    parts limits (trim text) = parts limits text := by
  unfold parts
  rw [trim_trim]

/-- What a text falls into has neither blanks around it nor parts. -/
theorem FallsInto.parts_eq_nil (h : FallsInto limits texts tasks) {task : List Char}
    (htask : task ∈ tasks) : trim task = task ∧ task ≠ [] ∧ parts limits task = [] := by
  induction h with
  | nil => exact absurd htask List.not_mem_nil
  | blank _ _ ih => exact ih htask
  | whole hfull hparts _ ih =>
      rcases List.mem_cons.mp htask with rfl | hlater
      · -- A text is kept whole only if it has no parts, and its blanks make no difference.
        exact ⟨trim_trim _, hfull, by rw [parts_trim, hparts]⟩
      · exact ih hlater
  | apart _ _ _ ih ih' =>
      rcases List.mem_append.mp htask with hinner | hlater
      · exact ih hinner
      · exact ih' hlater

/-- Neither kind of separator splits the text into two pieces that hold something. -/
def IsAtomic (text : List Char) : Prop :=
  (split strongSeparator text).countP (!isBlankText ·) ≤ 1 ∧
    (split weakSeparator text).countP (!isBlankText ·) ≤ 1

/-- A text without parts fits, or there is no way to split it. -/
theorem isAtomic_of_parts_eq_nil (hfull : trim text ≠ []) (hparts : parts limits text = []) :
    effortOf (trim text) ≤ limits.maxActions ∨ IsAtomic (trim text) := by
  -- A way of cutting that yields several pieces would be taken, and would yield parts.
  have hlong : ∀ {pieces : List (List Char)}, 1 < pieces.length → pieces ≠ [] :=
    fun h => List.ne_nil_of_length_pos (Nat.zero_lt_of_lt h)
  unfold parts at hparts
  simp only [Bool.or_eq_true, List.isEmpty_iff, hfull, false_or, decide_eq_true_eq] at hparts
  split at hparts
  · next hfits => exact .inl hfits
  · split at hparts
    · next hstrong => exact absurd hparts (hlong hstrong)
    · next hstrong =>
      split at hparts
      · next hweak => exact absurd hparts (hlong hweak)
      · next hweak =>
        -- Neither way of cutting finds a place to cut, which makes the text atomic.
        rw [length_fragments] at hstrong hweak
        exact .inr ⟨Nat.not_lt.mp hstrong, Nat.not_lt.mp hweak⟩

/-- A trimmed text without parts is its own only subtask, if one level may be tried. -/
theorem subtasks_of_parts_eq_nil (hdepth : 1 ≤ limits.maxDepth) (htrim : trim text = text)
    (hfull : text ≠ []) (hparts : parts limits text = []) :
    subtasks limits (String.ofList text) = .ok [String.ofList text] := by
  obtain ⟨levels, hlevels⟩ := Nat.exists_eq_succ_of_ne_zero (Nat.one_le_iff_ne_zero.mp hdepth)
  unfold subtasks
  split
  · rfl
  · -- The first level finds no parts and goes no further.
    rw [String.toList_ofList, hlevels, splitText_succ, if_pos hparts, htrim, if_neg hfull]
    rfl

/-- A subtask fits or neither kind of separator separates it, and splitting it once more yields
    the subtask itself. An instruction that fits is its own only subtask, blanks included. -/
theorem subtasks_subtasks (limits : Limits) (hdepth : 1 ≤ limits.maxDepth) (instruction : String) :
    (effort instruction ≤ limits.maxActions → subtasks limits instruction = .ok [instruction]) ∧
      ∀ tasks, subtasks limits instruction = .ok tasks → ∀ task ∈ tasks,
        (effort task ≤ limits.maxActions ∨ IsAtomic task.toList) ∧
          subtasks limits task = .ok [task] := by
  have hfits : ∀ text, effort text ≤ limits.maxActions → subtasks limits text = .ok [text] :=
    fun text h => if_pos h
  refine ⟨hfits instruction, fun tasks h task htask => ?_⟩
  -- Only an instruction that does not fit is split at all.
  by_cases hneeded : effort instruction ≤ limits.maxActions
  · rw [hfits instruction hneeded] at h
    rw [← Except.ok.inj h, List.mem_singleton] at htask
    rw [htask]
    exact ⟨.inl hneeded, hfits instruction hneeded⟩
  · rw [subtasks, if_neg hneeded] at h
    rcases map_eq_ok_iff.mp h with ⟨fragments, hsplit, rfl⟩
    rcases List.mem_map.mp htask with ⟨fragment, hfragment, rfl⟩
    rcases (fallsInto_of_splitText hsplit).parts_eq_nil hfragment with ⟨htrim, hfull, hparts⟩
    refine ⟨?_, subtasks_of_parts_eq_nil hdepth htrim hfull hparts⟩
    have hsettled : effortOf (trim fragment) ≤ limits.maxActions ∨ IsAtomic (trim fragment) :=
      isAtomic_of_parts_eq_nil (by rwa [htrim]) hparts
    rw [htrim] at hsettled
    rw [effort, String.toList_ofList]
    exact hsettled

/-- A subtask that needs two actions where one is allowed, and an instruction that fits with its
    blanks. -/
theorem subtasks_subtasks_atomic :
    1 ≤ (⟨1, 2⟩ : Limits).maxDepth ∧ effort " open a; " ≤ 1 ∧
      subtasks ⟨1, 2⟩ " open a; " = .ok [" open a; "] ∧
      subtasks ⟨1, 2⟩ " open open a; open b" = .ok ["open open a", "open b"] ∧
      "open open a" ∈ ["open open a", "open b"] ∧
      (effort "open open a" ≤ 1 ∨ IsAtomic "open open a".toList) ∧
      subtasks ⟨1, 2⟩ "open open a" = .ok ["open open a"] :=
  have hall := subtasks_subtasks ⟨1, 2⟩ (by decide)
  have hfits : effort " open a; " ≤ 1 := by decide +kernel
  have h : subtasks ⟨1, 2⟩ " open open a; open b" = .ok ["open open a", "open b"] := by
    decide +kernel
  have hmem : "open open a" ∈ ["open open a", "open b"] := List.mem_cons_self
  ⟨by decide, hfits, (hall " open a; ").1 hfits, h, hmem,
    (hall " open open a; open b").2 ["open open a", "open b"] h "open open a" hmem⟩

end Instruction

end ActionPlan
