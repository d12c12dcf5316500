import ActionPlan.Proofs.Instruction.Division
import ActionPlan.Proofs.Text.Verbatim
import Mathlib.Data.List.Infix

/-!
# What Is Left of Separators

Splitting is meant to take the marks between the tasks away, and not all of them go. A comma in
front of *then* belongs to the separator only if a blank comes before it. Where a task is written
with the comma right behind it, the comma stays, and it stays for good if what it belongs to fits.
A semicolon at the end of a text separates nothing. If the strong separators separate nothing else
either, what they took away is put back, and the weak ones do not know semicolons.

That is all (`subtasks_remnant_iff`). A subtask is a fragment, or a fragment of one, and a fragment
holds no separator of the kind that it was cut at (`fragments_free`). So a fragment of the strong
separators can only have a comma at an end, one of the weak ones only a semicolon, and one of both
has neither.

The semicolon needs a closer look, as it may stand anywhere in the text. If the text is not
separated, there is nothing but blanks and semicolons on one side of it, so one is at that end of
the text, and a weak separator does not reach there.

## Main definitions

* `Text.Borders`: The text begins or ends with a character.
* `Instruction.IsRemnant`: The text begins or ends with a mark of the separators.
* `Instruction.LeavesMark`: Splitting leaves a mark at an end.

## Theorems

* `IsSplit.exists_borders`: The ends of a text are the ends of its pieces.
* `borders_of_not_isSeparated`: A semicolon that separates nothing comes to an end of the text.
* `FallsInto.mem_iff`: What a text falls into are the texts that are reached and left whole.
* `FallsInto.remnant_iff`, `subtasks_remnant_iff`: When a mark is left.
-/

namespace ActionPlan

open Text

namespace Text

variable {text part : List Char} {c : Char}

/-! ### Ends of texts -/

/-- The text begins or ends with the character. -/
def Borders (c : Char) (text : List Char) : Prop :=
  text.head? = some c ∨ text.getLast? = some c

instance (c : Char) (text : List Char) : Decidable (Borders c text) :=
  inferInstanceAs (Decidable (_ ∨ _))

theorem Borders.mem (h : Borders c text) : c ∈ text := by
  rcases h with h | h
  · exact List.mem_of_head? h
  · exact List.mem_of_getLast? h

/-- What a text begins with, apart from blanks, is what it begins with when it is trimmed. -/
theorem head?_of_blank_ends {before after : List Char} (hbefore : isBlankText before = true)
    (hafter : isBlankText after = true) (hc : isBlank c = false)
    (h : (before ++ (part ++ after)).head? = some c) : part.head? = some c := by
  cases before with
  | nil =>
      -- The text begins with what is left of it after trimming.
      cases part with
      | nil => exact absurd (List.mem_of_head? h) (not_mem_of_isBlankText hc hafter)
      | cons d part => exact h
  | cons d before =>
      -- It begins with a blank, which is no mark.
      rw [List.cons_append, List.head?_cons, Option.some.injEq] at h
      refine absurd ?_ (not_mem_of_isBlankText hc hbefore)
      rw [h]
      exact List.mem_cons_self

theorem Borders.trim (h : Borders c text) (hc : isBlank c = false) : Borders c (trim text) := by
  rcases trim_spec text with ⟨before, after, hbefore, hafter, htext⟩
  rcases h with h | h
  · rw [htext] at h
    exact .inl (head?_of_blank_ends hbefore hafter hc h)
  · -- The end of a text is the beginning of it read backwards.
    rw [htext, ← List.head?_reverse, List.reverse_append, List.reverse_append,
      List.append_assoc] at h
    have hlast := head?_of_blank_ends (isBlankText_reverse hafter) (isBlankText_reverse hbefore)
      hc h
    rw [List.head?_reverse] at hlast
    exact .inr hlast

/-- A character that is in no separator ends a piece if it ends the text. -/
theorem IsSplit.exists_borders {width : List Char → Nat} {language : List Char → Prop}
    {pieces : List (List Char)} (hfinds : Finds width language)
    (hno : ∀ {separator}, language separator → c ∉ separator) (h : IsSplit width text pieces)
    (hborders : Borders c text) : ∃ piece ∈ pieces, Borders c piece := by
  induction h with
  | @last piece _ => exact ⟨piece, List.mem_singleton_self piece, hborders⟩
  | @cut piece separator rest pieces _ hne hwidth _ ih =>
      have hseparator : c ∉ separator := hno (hfinds.of_width_eq hne hwidth)
      rcases hborders with hfirst | hlast
      · -- The first piece begins with it, or is empty, and then a separator would.
        refine ⟨piece, List.mem_cons_self, .inl ?_⟩
        cases piece with
        | nil =>
            rw [List.nil_append, List.head?_append_of_ne_nil _ hne] at hfirst
            exact absurd (List.mem_of_head? hfirst) hseparator
        | cons d piece => exact hfirst
      · -- Behind the last separator there is something, and the character is the last of it.
        have hrest : rest.getLast? = some c := by
          cases rest with
          | nil =>
              rw [List.append_nil, List.getLast?_append_of_ne_nil piece hne] at hlast
              exact absurd (List.mem_of_getLast? hlast) hseparator
          | cons d rest =>
              have hbehind : separator ++ d :: rest ≠ [] :=
                List.append_ne_nil_of_right_ne_nil separator (List.cons_ne_nil d rest)
              rwa [List.getLast?_append_of_ne_nil piece hbehind,
                List.getLast?_append_of_ne_nil separator (List.cons_ne_nil d rest)] at hlast
        rcases ih (.inr hrest) with ⟨other, hother, hborders⟩
        exact ⟨other, List.mem_cons_of_mem piece hother, hborders⟩

end Text

/-! ### Marks in separators -/

theorem IsWeakSeparator.not_mem_semicolon {separator : List Char}
    (h : IsWeakSeparator separator) : ';' ∉ separator := by
  have hwords : ∀ word ∈ weakWords, ';' ∉ word := by decide
  have hsmall : ';'.toLower = ';' := by decide
  intro hmem
  refine hwords _ h.ink_mem (List.mem_filter.mpr ⟨?_, rfl⟩)
  exact hsmall ▸ List.mem_map_of_mem hmem

namespace Instruction

variable {text part fragment task : List Char} {texts tasks : List (List Char)} {limits : Limits}

/-- What was cut at the strong separators has no semicolon. -/
theorem not_mem_semicolon_of_free (hfree : ∀ part, part <:+: text → ¬ IsStrongSeparator part) :
    ';' ∉ text := fun hmem =>
  hfree [';'] ((List.singleton_infix_iff _ _).mpr hmem) (.semicolon rfl)

/-- What was cut at the weak separators has no comma. -/
theorem not_mem_comma_of_free (hfree : ∀ part, part <:+: text → ¬ IsWeakSeparator part) :
    ',' ∉ text := fun hmem =>
  hfree [','] ((List.singleton_infix_iff _ _).mpr hmem) .comma

/-! ### Semicolons that separate nothing -/

/-- Nothing but semicolons and blanks in front of a semicolon, and no blank at the beginning. -/
theorem head?_eq_semicolon {front back : List Char} (hflush : IsFlush (front ++ ';' :: back))
    (hnone : ¬ ∃ c ∈ front, isPlain c = true) :
    (front ++ ';' :: back).head? = some ';' := by
  cases front with
  | nil => rfl
  | cons c front =>
      have hblank : isBlank c = false := hflush c rfl
      have hplain : ¬ isPlain c = true := fun hc => hnone ⟨c, List.mem_cons_self, hc⟩
      rw [isPlain, hblank, Bool.not_false, Bool.true_and, bne_iff_ne, ne_eq, not_not] at hplain
      rw [hplain]
      rfl

/-- In a text that is not separated a semicolon comes to an end. -/
theorem borders_of_not_isSeparated (hfirst : IsFlush text) (hlast : IsFlush text.reverse)
    (hnot : ¬ IsSeparated text) (hmem : ';' ∈ text) : Borders ';' text := by
  rcases List.append_of_mem hmem with ⟨front, back, rfl⟩
  by_cases hfront : ∃ c ∈ front, isPlain c = true
  · -- Something plain is in front, so there is none behind it, or it would separate.
    have hback : ¬ ∃ c ∈ back.reverse, isPlain c = true := by
      rintro ⟨c, hc, hplain⟩
      exact hnot ⟨front, [';'], back, rfl, .semicolon rfl, hfront,
        c, List.mem_reverse.mp hc, hplain⟩
    have hreverse : (front ++ ';' :: back).reverse = back.reverse ++ ';' :: front.reverse := by
      rw [List.reverse_append, List.reverse_cons, List.append_assoc]
      rfl
    rw [hreverse] at hlast
    have hhead := head?_eq_semicolon hlast hback
    rw [← hreverse, List.head?_reverse] at hhead
    exact .inr hhead
  · -- There is nothing plain in front of it, so the text begins with it.
    exact .inl (head?_eq_semicolon hfirst hfront)

/-- So it comes to an end of a fragment of the weak separators. -/
theorem exists_borders_semicolon (hone : (fragments strongSeparator (trim text)).length ≤ 1)
    (hmem : ';' ∈ trim text) :
    ∃ fragment ∈ fragments weakSeparator (trim text), Borders ';' fragment := by
  have hnot : ¬ IsSeparated (trim text) := by
    rw [← two_le_length_fragments_iff (isFlush_trim text)]
    omega
  have hborders := borders_of_not_isSeparated (isFlush_trim text) (isFlush_reverse_trim text) hnot
    hmem
  -- No weak separator has a semicolon in it, so the mark stays with a piece.
  rcases (isSplit_split weakSeparator_finds.le_length (trim text)).exists_borders
    weakSeparator_finds IsWeakSeparator.not_mem_semicolon hborders with ⟨piece, hpiece, hends⟩
  refine ⟨trim piece, mem_fragments_iff.mpr ⟨piece, hpiece, ?_, rfl⟩, hends.trim rfl⟩
  exact not_blank_of_mem hends.mem rfl

/-! ### The subtasks of a text -/

theorem eq_of_reaches {depth : Nat} {other : List Char} (hparts : parts limits text = [])
    (h : Reaches limits depth text other) : other = text := by
  cases h with
  | here => rfl
  | deeper hpart _ =>
      rw [hparts] at hpart
      exact absurd hpart List.not_mem_nil

theorem parts_of_trim_eq_nil (h : trim text = []) : parts limits text = [] := by
  unfold parts
  rw [h]
  rfl

/-- What texts fall into are the texts that splitting comes to and leaves whole. -/
theorem FallsInto.mem_iff (h : FallsInto limits texts tasks) :
    task ∈ tasks ↔ ∃ text ∈ texts, ∃ depth other, Reaches limits depth text other ∧
      parts limits other = [] ∧ trim other ≠ [] ∧ trim other = task := by
  induction h with
  | nil =>
      refine iff_of_false List.not_mem_nil ?_
      rintro ⟨_, hmem, -⟩
      exact absurd hmem List.not_mem_nil
  | @blank first texts tasks hblank _ ih =>
      -- Nothing is left of the text, and splitting comes to nothing else.
      rw [ih, List.exists_mem_cons_iff]
      refine ⟨.inr, fun hor => hor.resolve_left ?_⟩
      rintro ⟨_, other, hreach, -, hfull, -⟩
      rw [eq_of_reaches (parts_of_trim_eq_nil hblank) hreach] at hfull
      exact hfull hblank
  | @whole first texts tasks hfull hparts _ ih =>
      rw [List.mem_cons, ih, List.exists_mem_cons_iff]
      refine or_congr_left ⟨?_, ?_⟩
      · -- A text without parts is the only one that splitting it comes to.
        rintro rfl
        exact ⟨0, first, .here, hparts, hfull, rfl⟩
      · rintro ⟨_, other, hreach, -, -, rfl⟩
        rw [eq_of_reaches hparts hreach]
  | @apart first texts tasks tasks' hparts _ _ ih ih' =>
      rw [List.mem_append, ih, ih', List.exists_mem_cons_iff]
      refine or_congr_left ⟨?_, ?_⟩
      · -- What is come to from a part is one level further away from the text.
        rintro ⟨part, hpart, depth, other, hreach, hleaf⟩
        exact ⟨depth + 1, other, .deeper hpart hreach, hleaf⟩
      · rintro ⟨_, other, hreach, hwhole, hleaf⟩
        cases hreach with
        | here => exact absurd hwhole hparts
        | @deeper depth _ part _ hpart hreach =>
            exact ⟨part, hpart, depth, other, hreach, hwhole, hleaf⟩

/-! ### Marks at the ends -/

/-- The text begins or ends with a mark of the separators. A text without blanks around it that
    holds nothing but marks is such a text. -/
def IsRemnant (text : List Char) : Prop :=
  Borders ',' text ∨ Borders ';' text

instance (text : List Char) : Decidable (IsRemnant text) :=
  inferInstanceAs (Decidable (_ ∨ _))

/-- Splitting the text leaves a mark at an end: a comma, if a fragment of the strong separators has
    one there and is left whole, or a semicolon, if the strong separators separate nothing. -/
inductive LeavesMark (limits : Limits) (text : List Char) : Prop
  | comma {fragment : List Char} (htwo : 1 < (fragments strongSeparator (trim text)).length)
      (hfragment : fragment ∈ fragments strongSeparator (trim text))
      (hwhole : parts limits fragment = []) (hborders : Borders ',' fragment)
  | semicolon (hone : (fragments strongSeparator (trim text)).length ≤ 1) (hmem : ';' ∈ text)

theorem trim_of_mem_fragments {width : List Char → Nat} (h : fragment ∈ fragments width text) :
    trim fragment = fragment := by
  rcases mem_fragments_iff.mp h with ⟨piece, _, _, rfl⟩
  exact trim_trim piece

theorem trim_of_mem_parts (h : part ∈ parts limits text) : trim part = part := by
  rcases parts_cases h with ⟨_, hstrong⟩ | ⟨_, hweak⟩
  · exact trim_of_mem_fragments hstrong
  · exact trim_of_mem_fragments hweak

/-- A fragment of both kinds of separators has no marks in it. -/
theorem not_isRemnant_of_mem_parts {inner : List Char}
    (hfree : ∀ other, other <:+: part → ¬ IsStrongSeparator other)
    (hinner : inner ∈ parts limits part) : ¬ IsRemnant inner := by
  have hfree' : ∀ other, other <:+: trim part → ¬ IsStrongSeparator other := fun other hother =>
    hfree other (hother.trans (trim_isInfix part))
  rcases parts_cases hinner with ⟨htwo, _⟩ | ⟨_, hweak⟩
  · -- The strong separators have already been used, so they cut nothing here.
    have hone := length_fragments_of_free strongSeparator_finds hfree'
    omega
  · -- And the weak ones take every comma with them.
    have hwithin := fragment_isInfix weakSeparator_finds hweak
    rintro (hcomma | hsemicolon)
    · exact not_mem_comma_of_free (fun _ => fragments_free weakSeparator_finds hweak) hcomma.mem
    · exact not_mem_semicolon_of_free hfree' (hwithin.subset hsemicolon.mem)

/-- A mark at an end of a subtask was left there by one of the two kinds of separators. -/
theorem leavesMark_of_reaches {depth : Nat} {other : List Char}
    (hparts : parts limits text ≠ []) (hreach : Reaches limits depth text other)
    (hwhole : parts limits other = []) (hremnant : IsRemnant (trim other)) :
    LeavesMark limits text := by
  cases hreach with
  | here => exact absurd hwhole hparts
  | @deeper _ _ part _ hpart hreach =>
      rcases parts_cases hpart with ⟨htwo, hstrong⟩ | ⟨hone, hweak⟩
      · have hfree : ∀ other, other <:+: part → ¬ IsStrongSeparator other := fun _ =>
          fragments_free strongSeparator_finds hstrong
        cases hreach with
        | here =>
            -- The fragment itself is left whole. A semicolon in it would have separated.
            rw [trim_of_mem_fragments hstrong] at hremnant
            refine .comma htwo hstrong hwhole (hremnant.resolve_right fun hsemicolon => ?_)
            exact not_mem_semicolon_of_free hfree hsemicolon.mem
        | @deeper _ _ inner _ hinner hreach =>
            -- It is split once more, and then no mark is left.
            rw [eq_of_reaches (parts_parts hpart hinner) hreach,
              trim_of_mem_parts hinner] at hremnant
            exact absurd hremnant (not_isRemnant_of_mem_parts hfree hinner)
      · -- The weak separators were used at once, so nothing comes of the fragment but itself.
        rw [eq_of_reaches (parts_weak_part hone hweak) hreach,
          trim_of_mem_fragments hweak] at hremnant
        refine .semicolon hone (hremnant.elim (fun hcomma => ?_) fun hsemicolon => ?_)
        · refine absurd hcomma.mem (not_mem_comma_of_free fun _ => ?_)
          exact fragments_free weakSeparator_finds hweak
        · exact (trim_isInfix text).subset
            ((fragment_isInfix weakSeparator_finds hweak).subset hsemicolon.mem)

/-- A part that is left whole is a subtask. -/
theorem FallsInto.mem_of_mem_parts (h : FallsInto limits [text] tasks)
    (hpart : part ∈ parts limits text) (hwhole : parts limits part = []) : part ∈ tasks :=
  h.mem_iff.mpr ⟨text, List.mem_singleton_self text, 1, part, .deeper hpart .here, hwhole,
    trim_ne_nil_of_mem_parts hpart, trim_of_mem_parts hpart⟩

/-- A text that is split has a subtask with a mark at an end if and only if splitting leaves
    one. -/
theorem FallsInto.remnant_iff (h : FallsInto limits [text] tasks) (hparts : parts limits text ≠ []) :
    (∃ task ∈ tasks, IsRemnant task) ↔ LeavesMark limits text := by
  constructor
  · rintro ⟨task, htask, hremnant⟩
    rcases h.mem_iff.mp htask with ⟨first, hfirst, depth, other, hreach, hwhole, -, rfl⟩
    rw [List.mem_singleton.mp hfirst] at hreach
    exact leavesMark_of_reaches hparts hreach hwhole hremnant
  · intro hleaves
    cases hleaves with
    | @comma fragment htwo hfragment hwhole hborders =>
        rcases parts_eq_fragments hparts with ⟨_, hstrong⟩ | ⟨hone, _⟩
        · -- The comma was left by the strong separators, and the fragment is a subtask.
          exact ⟨fragment, h.mem_of_mem_parts (hstrong ▸ hfragment) hwhole, .inl hborders⟩
        · -- These separate something here, and on the other hand nothing.
          omega
    | semicolon hone hmem =>
        rcases parts_eq_fragments hparts with ⟨htwo, _⟩ | ⟨_, hweak⟩
        · -- Again the two cases exclude each other.
          omega
        · -- The semicolon comes to an end of a fragment of the weak separators, which is a subtask.
          rcases exists_borders_semicolon hone (mem_trim hmem rfl) with ⟨fragment, hfragment, hends⟩
          exact ⟨fragment, h.mem_of_mem_parts (hweak ▸ hfragment) (parts_weak_part hone hfragment),
            .inr hends⟩

/-- A text that falls into several is split. -/
theorem FallsInto.parts_ne_nil (h : FallsInto limits [text] tasks) (hsplit : 1 < tasks.length) :
    parts limits text ≠ [] := by
  intro hparts
  have hlast : ∀ {later}, FallsInto limits [] later → later = [] := fun h => by cases h; rfl
  cases h with
  | blank _ h =>
      -- A text that is not split makes one subtask at most.
      rw [hlast h] at hsplit
      exact absurd hsplit (by decide)
  | whole _ _ h =>
      rw [hlast h] at hsplit
      exact absurd hsplit (Nat.lt_irrefl 1)
  | apart hne _ _ => exact hne hparts

/-- When an instruction is split, a subtask begins or ends with a mark of the separators if and
    only if a comma stands at an end of a fragment that is left whole, or the instruction has a
    semicolon and is split at the weak separators. -/
theorem subtasks_remnant_iff {instruction : String} {tasks : List String}
    (h : subtasks limits instruction = .ok tasks) (hsplit : 1 < tasks.length) :
    (∃ task ∈ tasks, IsRemnant task.toList) ↔ LeavesMark limits instruction.toList := by
  unfold subtasks at h
  split at h
  · -- An instruction that fits is its only subtask.
    rw [← Except.ok.inj h] at hsplit
    exact absurd hsplit (Nat.lt_irrefl 1)
  · rcases map_eq_ok_iff.mp h with ⟨fragments, hfragments, rfl⟩
    have hfalls := fallsInto_of_splitText hfragments
    rw [List.length_map] at hsplit
    rw [← hfalls.remnant_iff (hfalls.parts_ne_nil hsplit)]
    simp only [List.mem_map, exists_exists_and_eq_and, String.toList_ofList]

/-- A comma in front of *then*, and a semicolon in front of everything. -/
theorem subtasks_remnant_iff_then :
    subtasks ⟨1, 8⟩ "open a, then open b" = .ok ["open a,", "open b"] ∧
      LeavesMark ⟨1, 8⟩ "open a, then open b".toList ∧
    subtasks ⟨1, 8⟩ "; open a, open b" = .ok ["; open a", "open b"] ∧
      LeavesMark ⟨1, 8⟩ "; open a, open b".toList := by
  have hthen : subtasks ⟨1, 8⟩ "open a, then open b" = .ok ["open a,", "open b"] := by
    decide +kernel
  have hsemicolon : subtasks ⟨1, 8⟩ "; open a, open b" = .ok ["; open a", "open b"] := by
    decide +kernel
  refine ⟨hthen, ?_, hsemicolon, ?_⟩
  · exact (subtasks_remnant_iff hthen (by decide)).mp ⟨"open a,", by decide, by decide⟩
  · exact (subtasks_remnant_iff hsemicolon (by decide)).mp ⟨"; open a", by decide, by decide⟩

/-- So the marks do not always go. -/
theorem subtasks_leave_mark : ¬ ∀ limits instruction tasks,
    subtasks limits instruction = .ok tasks → 1 < tasks.length →
      ∀ task ∈ tasks, ¬ IsRemnant task.toList := by
  intro h
  have hthen : subtasks ⟨1, 8⟩ "open a, then open b" = .ok ["open a,", "open b"] := by
    decide +kernel
  exact h ⟨1, 8⟩ _ _ hthen (by decide) "open a," (by decide) (by decide)

end Instruction

end ActionPlan
