import ActionPlan.Proofs.Instruction.Remnants
import ActionPlan.Proofs.Text.LetterCase
import ActionPlan.Proofs.Text.Occurrences

/-!
# The Effort of a Part

Splitting goes on as long as a text is estimated to need too many actions, so the estimate of what
is cut out of a text had better not be higher than that of the text. It is not, wherever the text
is cut. The words that are counted occur in the whole as often as in a part, and saving has no
smaller weight where more is said about it. The last step is the one action that a text needs in
any case: `effortOf_eq_max` says that it is a lower bound and not a correction, and the bound is
not higher for a part, as nothing but blanks can be cut out of blanks.

Words are counted in lower case. In the full lower case of a part a letter may have another form
than in that of the whole, because it stands at the end of a word now. None of the words has such
a letter in it, so the estimate is the same in full lower case as in `lower` (`fullEffort_eq`),
where nothing depends on the letters around.

What splitting comes to is a part of the instruction, on whatever level (`Reaches.isInfix`).

## Main definitions

* `Instruction.verbCount`: The words and the saving in a text in lower case.
* `Instruction.fullEffort`: The estimate for a text in full lower case.

## Theorems

* `wordCount_le_of_isInfix`, `savingEffort_le_of_isInfix`: What is counted in a part.
* `verbCount_blur`: What is counted does not depend on characters outside ASCII.
* `effortOf_eq_max`: A text that is not blank needs at least one action.
* `effortOf_le_of_isInfix`: A part needs no more actions than the whole.
* `fullEffort_eq`: The estimate in full lower case.
* `Reaches.isInfix`, `subtask_isInfix`: Subtasks are parts of the instruction.
* `effort_mono`: The estimates of parts, of what splitting comes to, and of subtasks.
-/

namespace ActionPlan

open Text

namespace Text

variable {part whole : List Char}

theorem lower_isInfix (h : part <:+: whole) : lower part <:+: lower whole := by
  rcases h with ⟨before, after, rfl⟩
  rw [lower_append, lower_append]
  exact ⟨lower before, lower after, rfl⟩

theorem isBlankText_of_isInfix (h : part <:+: whole) (hblank : isBlankText whole = true) :
    isBlankText part = true := by
  rw [isBlankText_iff] at hblank ⊢
  exact fun c hc => hblank c (h.subset hc)

theorem mentions_of_isInfix {word : String} (h : part <:+: whole)
    (hpart : mentions part word = true) : mentions whole word = true := by
  rw [mentions, contains_iff] at hpart ⊢
  exact hpart.trans h

end Text

namespace Instruction

variable {text part whole fragment : List Char} {limits : Limits} {words : List String}

/-! ### Counting in parts -/

theorem wordCount_cons (text : List Char) (word : String) (words : List String) :
    wordCount text (word :: words) = occurrences word.toList text + wordCount text words := by
  have hfrom : ∀ start, words.foldl (fun count word => count + occurrences word.toList text) start =
      start + wordCount text words := by
    -- The fold hands the count on, so it has to start from any number.
    unfold wordCount
    induction words with
    | nil => exact fun _ => rfl
    | cons word words ih =>
        intro start
        rw [List.foldl_cons, List.foldl_cons, ih, ih (0 + _), Nat.zero_add, Nat.add_assoc]
  rw [wordCount, List.foldl_cons, hfrom, Nat.zero_add]

theorem wordCount_le_of_isInfix (hwords : ∀ word ∈ words, word.toList ≠ []) (h : part <:+: whole) :
    wordCount part words ≤ wordCount whole words := by
  induction words with
  | nil => exact Nat.le_refl 0
  | cons word words ih =>
      rw [List.forall_mem_cons] at hwords
      rw [wordCount_cons, wordCount_cons]
      exact Nat.add_le_add (occurrences_le_of_isInfix hwords.1 h) (ih hwords.2)

/-- Where a name is asked for in a part, it is asked for in the whole, and a save stays a save. -/
theorem savingEffort_le_of_isInfix (h : part <:+: whole) :
    savingEffort part ≤ savingEffort whole := by
  unfold savingEffort
  by_cases hnamed : mentions part "save as" = true
  · rw [if_pos hnamed, if_pos (mentions_of_isInfix h hnamed)]
  · rw [if_neg hnamed]
    by_cases hsaved : mentions part "save" = true
    · -- The whole may ask for a name all the same.
      rw [if_pos hsaved, if_pos (mentions_of_isInfix h hsaved)]
      split
      · exact Nat.le_succ 3
      · exact Nat.le_refl 3
    · rw [if_neg hsaved]
      exact Nat.zero_le _

/-- The words in a text in lower case that stand for actions, and the weight of saving. -/
def verbCount (text : List Char) : Nat :=
  wordCount text verbs + savingEffort text + wordCount text clickWords

theorem verbCount_le_of_isInfix (h : part <:+: whole) : verbCount part ≤ verbCount whole := by
  have hverbs : wordCount part verbs ≤ wordCount whole verbs :=
    wordCount_le_of_isInfix (by decide) h
  have hclicks : wordCount part clickWords ≤ wordCount whole clickWords :=
    wordCount_le_of_isInfix (by decide) h
  exact Nat.add_le_add (Nat.add_le_add hverbs (savingEffort_le_of_isInfix h)) hclicks

/-! ### Counting in blurred texts -/

theorem wordCount_blur (hwords : ∀ word ∈ words, word.toList.all isAscii = true)
    (text : List Char) : wordCount (blur text) words = wordCount text words := by
  induction words with
  | nil => rfl
  | cons word words ih =>
      rw [List.forall_mem_cons] at hwords
      rw [wordCount_cons, wordCount_cons, occurrences_blur hwords.1, ih hwords.2]

theorem savingEffort_blur (text : List Char) : savingEffort (blur text) = savingEffort text := by
  have hmentions : ∀ word : String, word.toList.all isAscii = true →
      mentions (blur text) word = mentions text word := fun _ hword => contains_blur hword text
  unfold savingEffort
  rw [hmentions "save as" (by decide), hmentions "save" (by decide)]

theorem verbCount_blur (text : List Char) : verbCount (blur text) = verbCount text := by
  unfold verbCount
  rw [wordCount_blur (by decide), wordCount_blur (by decide), savingEffort_blur]

/-! ### The estimate -/

/-- A text needs the actions that are counted in it, and at least one if it is not blank. -/
theorem effortOf_eq_max (text : List Char) :
    effortOf text = max (verbCount (lower text)) (if isBlankText text then 0 else 1) := by
  change (if verbCount (lower text) = 0 && !isBlankText text then 1 else verbCount (lower text)) = _
  cases isBlankText text with
  | true =>
      rw [Bool.not_true, Bool.and_false, if_neg Bool.false_ne_true, if_pos rfl, Nat.max_zero]
  | false =>
      -- A text that is not blank counts as one action if nothing else is found in it.
      rw [Bool.not_false, Bool.and_true, if_neg Bool.false_ne_true]
      split
      · next hnone => rw [of_decide_eq_true hnone, Nat.zero_max]
      · next hsome =>
        rw [decide_eq_true_eq] at hsome
        exact (Nat.max_eq_left (Nat.one_le_iff_ne_zero.mpr hsome)).symm

/-- A part needs no more actions than the whole. -/
theorem effortOf_le_of_isInfix (h : part <:+: whole) : effortOf part ≤ effortOf whole := by
  -- A visible character of the part is also one of the whole.
  have hleast : (if isBlankText part then 0 else 1) ≤ (if isBlankText whole then 0 else 1) := by
    by_cases hblank : isBlankText whole = true
    · rw [if_pos hblank, if_pos (isBlankText_of_isInfix h hblank)]
    · rw [if_neg hblank]
      split
      · exact Nat.zero_le 1
      · exact Nat.le_refl 1
  have hcount := verbCount_le_of_isInfix (lower_isInfix h)
  rw [effortOf_eq_max, effortOf_eq_max]
  omega

/-- The estimated number of actions, if words are counted in full lower case. -/
def fullEffort (rules : CaseRules) (instruction : String) : Nat :=
  let count := verbCount (rules.lower instruction.toList)
  if count = 0 && !isBlankText instruction.toList then 1 else count

theorem fullEffort_eq (rules : CaseRules) (instruction : String) :
    fullEffort rules instruction = effort instruction := by
  have hcount : verbCount (rules.lower instruction.toList) =
      verbCount (lower instruction.toList) := by
    rw [← verbCount_blur, rules.blur_lower, verbCount_blur]
  unfold fullEffort
  rw [hcount]
  rfl

/-! ### The estimate of a subtask -/

/-- What a text is split into is cut out of it. -/
theorem part_isInfix (h : part ∈ parts limits text) : part <:+: text := by
  rcases parts_cases h with ⟨_, hstrong⟩ | ⟨_, hweak⟩
  · exact (fragment_isInfix strongSeparator_finds hstrong).trans (trim_isInfix text)
  · exact (fragment_isInfix weakSeparator_finds hweak).trans (trim_isInfix text)

theorem Reaches.isInfix {depth : Nat} (h : Reaches limits depth text fragment) :
    fragment <:+: text := by
  induction h with
  | here => exact List.infix_rfl
  | deeper hpart _ ih => exact ih.trans (part_isInfix hpart)

theorem subtask_isInfix {instruction : String} {tasks : List String}
    (h : subtasks limits instruction = .ok tasks) {task : String} (htask : task ∈ tasks) :
    task.toList <:+: instruction.toList := by
  unfold subtasks at h
  split at h
  · rw [← Except.ok.inj h, List.mem_singleton] at htask
    rw [htask]
  · rcases map_eq_ok_iff.mp h with ⟨fragments, hfragments, rfl⟩
    rcases List.mem_map.mp htask with ⟨fragment, hfragment, rfl⟩
    -- A subtask is a text that splitting comes to, without the blanks around it.
    rcases (fallsInto_of_splitText hfragments).mem_iff.mp hfragment with
      ⟨text, htext, _, other, hreach, -, -, rfl⟩
    rw [List.mem_singleton.mp htext] at hreach
    rw [String.toList_ofList]
    exact (trim_isInfix other).trans hreach.isInfix

/-- A part of an instruction is not estimated higher than the instruction, and full lower case makes
    no difference to the estimate. Nothing that splitting comes to is estimated higher than what it
    was cut out of, and no subtask higher than the instruction. -/
theorem effort_mono (rules : CaseRules) (limits : Limits) :
    (∀ part whole : String, part.toList <:+: whole.toList → effort part ≤ effort whole) ∧
      (∀ instruction, fullEffort rules instruction = effort instruction) ∧
      (∀ depth text fragment, Reaches limits depth text fragment →
        effortOf fragment ≤ effortOf text) ∧
      ∀ instruction tasks, subtasks limits instruction = .ok tasks →
        ∀ task ∈ tasks, effort task ≤ effort instruction := by
  have hparts : ∀ part whole : String, part.toList <:+: whole.toList →
      effort part ≤ effort whole := fun _ _ => effortOf_le_of_isInfix
  refine ⟨hparts, fullEffort_eq rules, fun _ _ _ h => effortOf_le_of_isInfix h.isInfix, ?_⟩
  intro instruction tasks h task htask
  exact hparts task instruction (subtask_isInfix h htask)

/-- A part that is cut out of a keyword and of a word whose sigma has another form at the end, and
    a subtask that needs two of the three actions. -/
theorem effort_mono_sigma :
    ("ss ΣΟΣ".toList <:+: "press ΣΟΣΟ and save as b".toList ∧
        ¬ CaseRules.greek.lower "ss ΣΟΣ".toList <:+:
          CaseRules.greek.lower "press ΣΟΣΟ and save as b".toList ∧
        effort "ss ΣΟΣ" ≤ effort "press ΣΟΣΟ and save as b") ∧
      fullEffort .greek "press ΣΟΣΟ and save as b" = effort "press ΣΟΣΟ and save as b" ∧
      (Reaches ⟨1, 3⟩ 1 "open open a; open b".toList "open open a".toList ∧
        effortOf "open open a".toList ≤ effortOf "open open a; open b".toList) ∧
      (subtasks ⟨1, 3⟩ "open open a; open b" = .ok ["open open a", "open b"] ∧
        "open open a" ∈ ["open open a", "open b"] ∧
        effort "open open a" ≤ effort "open open a; open b") := by
  rcases effort_mono .greek ⟨1, 3⟩ with ⟨hparts, hfull, hreaches, hsubtasks⟩
  have hpart : "ss ΣΟΣ".toList <:+: "press ΣΟΣΟ and save as b".toList :=
    ⟨"pre".toList, "Ο and save as b".toList, by decide⟩
  have hreach : Reaches ⟨1, 3⟩ 1 "open open a; open b".toList "open open a".toList :=
    .deeper (by decide +kernel) .here
  have htasks : subtasks ⟨1, 3⟩ "open open a; open b" = .ok ["open open a", "open b"] := by
    decide +kernel
  have htask : "open open a" ∈ ["open open a", "open b"] := List.mem_cons_self
  exact ⟨⟨hpart, by decide +kernel, hparts _ _ hpart⟩, hfull _, ⟨hreach, hreaches _ _ _ hreach⟩,
    htasks, htask, hsubtasks _ _ htasks _ htask⟩

end Instruction

end ActionPlan
