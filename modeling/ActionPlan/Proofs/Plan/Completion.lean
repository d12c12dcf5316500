import ActionPlan.Proofs.Instruction.Keywords
import ActionPlan.Proofs.Plan.Interleaving
import Mathlib.Data.List.Infix

/-!
# Completing Saves Twice

A save is completed unless a name is typed soon enough behind its shortcut. What counts as a name
there, and what is put in as one, is decided in two places: the name comes from a list of
extensions, and is recognised by a list of markers. The lists differ in one extension. A name that
ends in `.csv`, without a backslash in it, is put in but not recognised (`mentionsAny_savedName`),
so that a save completed with it is completed again the next time.

Everything else speaks for a pass that comes to rest after one application. A save that has a name
keeps it within reach: nothing is put in in front of a name that is near, since any shortcut on
the way to it would have the same name in its own reach (`completeSavesWith_append_named`). A save
that has none gets one with two items in front of it at most, if it is recognised. And what is
put in contains no shortcut. So the pass comes to rest, except if it had something to do and did
it with one of these names (`isSaved_completeSavesWith`).

## Main definitions

* `Instruction.IsPlainCsv`: The names that are given but not recognised.
* `Plan.IsSaved`: Every shortcut has a name behind it.

## Theorems

* `mentionsAny_savedName`: The names that are recognised.
* `completeSavesWith_eq_self_iff`: The pass leaves alone what is saved.
* `completeSavesWith_append_named`: A name that is near stays near.
* `isSaved_completeSavesWith`: When the pass leaves a plan that is saved.
* `completeSaves_completeSaves`: When a second application changes nothing, and what becomes of
  saves that have their name.
-/

namespace ActionPlan

open Text

/-! ### The names -/

namespace Instruction

/-- The name has the extension `.csv`, and no backslash. -/
def IsPlainCsv (name : List Char) : Prop :=
  ".csv".toList <:+ name ∧ '\\' ∉ name

instance (name : List Char) : Decidable (IsPlainCsv name) :=
  inferInstanceAs (Decidable (_ ∧ _))

/-- A keyword is not found across characters that it does not begin with. -/
theorem infix_append_iff {c : Char} {rest stem text : List Char} (h : c ∉ stem) :
    c :: rest <:+: stem ++ text ↔ c :: rest <:+: text := by
  induction stem with
  | nil => rfl
  | cons d stem ih =>
      rw [List.mem_cons, not_or] at h
      rw [List.cons_append, List.infix_cons_iff, ih h.2, List.cons_prefix_cons]
      -- Found here, the keyword would begin with this character.
      exact ⟨fun hor => hor.resolve_left fun hhere => h.1 hhere.1, .inr⟩

/-- All extensions but one have a marker, and that one ends in its own letter. -/
theorem marker_of_mem_fileExtensions : ∀ ext ∈ fileExtensions, ext = "csv" ∨
    (∃ marker ∈ Item.fileNameMarkers, marker.toList = '.' :: ext.toList) ∧
      ('.' :: ext.toList).getLast? ≠ ".csv".toList.getLast? := by
  decide

/-- No marker is a part of that extension, and only one begins as a name may go on. -/
theorem head_of_mem_fileNameMarkers : ∀ marker ∈ Item.fileNameMarkers,
    (marker.toList.head?.any fun c => !isNameChar c || c == '\\') = true ∧
      ¬ marker.toList <:+: ".csv".toList := by
  decide

theorem not_infix_of_plain {stem : List Char} (hstem : ∀ c ∈ stem, isNameChar c = true)
    (hback : '\\' ∉ stem) {marker : String} (hmarker : marker ∈ Item.fileNameMarkers) :
    ¬ marker.toList <:+: stem ++ ".csv".toList := by
  rcases head_of_mem_fileNameMarkers marker hmarker with ⟨hfirst, hno⟩
  rcases (Option.any_eq_true _ _).mp hfirst with ⟨c, hhead, hc⟩
  rcases List.head?_eq_some_iff.mp hhead with ⟨rest, hrest⟩
  -- The first character of a marker is no character of a name, or else it is the backslash.
  have hmem : c ∉ stem := by
    rw [Bool.or_eq_true, Bool.not_eq_true', beq_iff_eq] at hc
    rcases hc with hc | rfl
    · intro hmem
      rw [hstem c hmem] at hc
      exact absurd hc nofun
    · exact hback
  rw [hrest] at hno ⊢
  -- So the marker would have to begin behind the stem, where there is only the extension.
  rwa [infix_append_iff hmem]

/-- A file name has a marker in it, unless it is one of the names that are not recognised. -/
theorem IsFileName.mentionsAny_iff {name : List Char} (h : IsFileName name) :
    mentionsAny name Item.fileNameMarkers = true ↔ ¬ IsPlainCsv name := by
  rw [Text.mentionsAny_iff]
  rcases h with ⟨stem, ext, _, hstem, hext, rfl⟩
  by_cases hback : '\\' ∈ stem ++ '.' :: ext.toList
  · have hmarker : "\\" ∈ Item.fileNameMarkers := by decide
    have hfound : "\\".toList <:+: stem ++ '.' :: ext.toList :=
      (List.singleton_infix_iff _ _).mpr hback
    exact iff_of_true ⟨_, hmarker, hfound⟩ fun hplain => hplain.2 hback
  · rcases marker_of_mem_fileExtensions ext hext with rfl | ⟨⟨marker, hmarker, hext⟩, hlast⟩
    · -- The extension without a marker, and there is no backslash to make up for it.
      refine iff_of_false ?_ fun hno => hno ⟨List.suffix_append stem _, hback⟩
      rintro ⟨marker, hmarker, hfound⟩
      have hstem' : '\\' ∉ stem := fun hmem => hback (List.mem_append_left _ hmem)
      exact not_infix_of_plain hstem hstem' hmarker hfound
    · refine iff_of_true ⟨marker, hmarker, ?_⟩ fun hplain => hlast ?_
      · -- The extension is a marker, and the name ends with it.
        rw [hext]
        exact (List.suffix_append stem _).isInfix
      · -- A name has one last letter.
        rcases hplain.1 with ⟨front, hfront⟩
        have hend := congrArg List.getLast? hfront
        rw [List.getLast?_append_of_ne_nil front (by decide),
          List.getLast?_append_of_ne_nil stem (List.cons_ne_nil _ _)] at hend
        exact hend.symm

theorem not_mem_of_isFileName {name : List Char} (h : IsFileName name) : '^' ∉ name := by
  rcases h with ⟨stem, ext, _, hstem, hext, rfl⟩
  have hrest : ∀ ext ∈ fileExtensions, '^' ∉ '.' :: ext.toList := by decide
  intro hmem
  rcases List.mem_append.mp hmem with hmem | hmem
  · exact absurd (hstem '^' hmem) (by decide)
  · exact hrest ext hext hmem

/-- The name that is put in is a file name, the one for want of a better one included, or has
    the user's folder in front of it. -/
theorem savedName_cases (instruction : String) :
    ∃ name, IsFileName name ∧ (savedName instruction = String.ofList name ∨
      savedName instruction = "%USERPROFILE%\\Desktop\\" ++ String.ofList name) := by
  unfold savedName
  split
  · exact ⟨_, isFileName_unnamedFile, .inl String.ofList_toList.symm⟩
  · next name hname =>
    refine ⟨name, isFileName_of_firstName hname, ?_⟩
    split
    · exact .inr rfl
    · exact .inl rfl

/-- The names that are put in are recognised, but for those that are plain and end in `.csv`. -/
theorem mentionsAny_savedName (instruction : String) :
    mentionsAny (savedName instruction).toList Item.fileNameMarkers = true ↔
      ¬ IsPlainCsv (savedName instruction).toList := by
  rcases savedName_cases instruction with ⟨name, hname, hsame | hsame⟩
  · rw [hsame, String.toList_ofList]
    exact hname.mentionsAny_iff
  · -- The folder has backslashes, which are enough.
    have hback : '\\' ∈ (savedName instruction).toList := by
      rw [hsame, String.toList_append]
      exact List.mem_append_left _ (by decide)
    have hmarker : "\\" ∈ Item.fileNameMarkers := by decide
    refine iff_of_true (Text.mentionsAny_iff.mpr ⟨_, hmarker, ?_⟩) fun hplain => hplain.2 hback
    exact (List.singleton_infix_iff _ _).mpr hback

/-- No name has the key in it that every shortcut has. -/
theorem savedName_not_shortcut (instruction : String) :
    (Item.action (.keystrokes (savedName instruction))).isSaveShortcut = false := by
  -- The characters of a name do not include the one for the control key.
  have hkey : '^' ∉ (savedName instruction).toList := by
    rcases savedName_cases instruction with ⟨name, hname, hsame | hsame⟩
    · rw [hsame, String.toList_ofList]
      exact not_mem_of_isFileName hname
    · rw [hsame, String.toList_append, List.mem_append, not_or, String.toList_ofList (l := name)]
      exact ⟨by decide, not_mem_of_isFileName hname⟩
  by_contra hshortcut
  rw [Bool.not_eq_false] at hshortcut
  change mentions (savedName instruction).toList saveShortcut = true at hshortcut
  exact hkey ((contains_iff.mp hshortcut).subset (by decide))

end Instruction

namespace Plan

variable {name : String} {plan : Plan}

/-- Every shortcut has a name among the next three items. -/
def IsSaved (plan : Plan) : Prop :=
  ∀ shortcut after, shortcut :: after <:+ plan → shortcut.isSaveShortcut = true →
    (after.take nameLookahead).any (·.namesFile) = true

theorem isSaved_nil : IsSaved [] := by
  intro shortcut after hsuffix
  exact absurd (List.suffix_nil.mp hsuffix) nofun

theorem isSaved_cons {item : Item} {items : Plan} :
    IsSaved (item :: items) ↔
      (item.isSaveShortcut = true → (items.take nameLookahead).any (·.namesFile) = true) ∧
        items.IsSaved := by
  constructor
  · intro h
    refine ⟨h item items List.suffix_rfl, fun shortcut after hsuffix => ?_⟩
    exact h shortcut after (hsuffix.trans (List.suffix_cons item items))
  · rintro ⟨hitem, hitems⟩ shortcut after hsuffix
    -- The shortcut is the first item, or one of the others.
    rcases List.suffix_cons_iff.mp hsuffix with hsame | hsuffix
    · rw [List.cons.injEq] at hsame
      rw [hsame.1, hsame.2]
      exact hitem
    · exact hitems shortcut after hsuffix

theorem isSaved_cons_of_other {item : Item} {items : Plan} (h : item.isSaveShortcut = false) :
    IsSaved (item :: items) ↔ items.IsSaved := by
  rw [isSaved_cons, h]
  exact and_iff_right nofun

/-- A name is within reach if there are fewer items than that in front of it. -/
theorem any_namesFile_iff {after : Plan} :
    (after.take nameLookahead).any (·.namesFile) = true ↔
      ∃ between typing rest, after = between ++ typing :: rest ∧
        between.length < nameLookahead ∧ typing.namesFile = true := by
  constructor
  · intro h
    rcases List.any_eq_true.mp h with ⟨typing, hmem, hnames⟩
    rcases List.append_of_mem hmem with ⟨between, rest, htake⟩
    -- In front of what is in the window there is less than the window.
    have hlength := congrArg List.length htake
    rw [List.length_take, List.length_append, List.length_cons] at hlength
    refine ⟨between, typing, rest ++ after.drop nameLookahead, ?_, by omega, hnames⟩
    rw [← List.cons_append, ← List.append_assoc, ← htake, List.take_append_drop]
  · rintro ⟨between, typing, rest, rfl, hlength, hnames⟩
    -- The window is as long as the items in between, the name, and something more.
    obtain ⟨more, hmore⟩ : ∃ more, nameLookahead = between.length + (more + 1) :=
      ⟨nameLookahead - between.length - 1, by omega⟩
    rw [hmore, List.take_length_add_append, List.take_succ_cons]
    exact List.any_eq_true.mpr ⟨typing, List.mem_append_right _ List.mem_cons_self, hnames⟩

/-! ### One application -/

theorem completeSavesWith_cons_of_named {item : Item} {items : Plan}
    (h : item.isSaveShortcut = true → (items.take nameLookahead).any (·.namesFile) = true) :
    completeSavesWith name (item :: items) = item :: completeSavesWith name items := by
  rw [completeSavesWith, if_neg]
  intro hbare
  rcases Bool.and_eq_true_iff.mp hbare with ⟨hshortcut, hnone⟩
  rw [h hshortcut] at hnone
  exact Bool.false_ne_true hnone

theorem length_le_completeSavesWith (name : String) (plan : Plan) :
    plan.length ≤ (completeSavesWith name plan).length := by
  induction plan with
  | nil => exact Nat.le_refl 0
  | cons item items ih =>
      rw [completeSavesWith]
      split
      · -- The completion only adds items.
        rw [List.length_cons, List.length_cons, List.length_append]
        omega
      · rw [List.length_cons, List.length_cons]
        omega

/-- The pass leaves a plan alone if and only if every save has its name. -/
theorem completeSavesWith_eq_self_iff : completeSavesWith name plan = plan ↔ plan.IsSaved := by
  induction plan with
  | nil => exact iff_of_true rfl isSaved_nil
  | cons item items ih =>
      by_cases hnamed : item.isSaveShortcut = true →
          (items.take nameLookahead).any (·.namesFile) = true
      · rw [completeSavesWith_cons_of_named hnamed, List.cons.injEq, ih, isSaved_cons]
        exact ⟨fun h => ⟨hnamed, h.2⟩, fun h => ⟨rfl, h.2⟩⟩
      · refine iff_of_false (fun hsame => ?_) fun h => hnamed (isSaved_cons.mp h).1
        rw [Classical.not_imp, Bool.not_eq_true] at hnamed
        rw [completeSavesWith_cons_shortcut hnamed.1 hnamed.2] at hsame
        -- The result is longer than the plan.
        have hlength := congrArg List.length hsame
        have hle := length_le_completeSavesWith name items
        rw [List.length_cons, List.length_cons, List.length_append, saveCompletion,
          List.length_cons] at hlength
        omega

/-- Nothing is put in in front of a name that is near. -/
theorem completeSavesWith_append_named {between : Plan} {typing : Item}
    (hnear : between.length ≤ nameLookahead) (hnames : typing.namesFile = true) (rest : Plan) :
    completeSavesWith name (between ++ typing :: rest) =
      between ++ completeSavesWith name (typing :: rest) := by
  induction between with
  | nil => rfl
  | cons item items ih =>
      rw [List.length_cons] at hnear
      -- Should this item be a shortcut, it has the same name within reach.
      have hnamed : ((items ++ typing :: rest).take nameLookahead).any (·.namesFile) = true :=
        any_namesFile_iff.mpr ⟨items, typing, rest, rfl, hnear, hnames⟩
      rw [List.cons_append, completeSavesWith_cons_of_named fun _ => hnamed,
        ih (Nat.le_of_succ_le hnear)]
      rfl

theorem any_namesFile_completeSavesWith {after : Plan}
    (h : (after.take nameLookahead).any (·.namesFile) = true) :
    ((completeSavesWith name after).take nameLookahead).any (·.namesFile) = true := by
  rcases any_namesFile_iff.mp h with ⟨between, typing, rest, rfl, hlength, hnames⟩
  rw [completeSavesWith_append_named (Nat.le_of_lt hlength) hnames, any_namesFile_iff,
    completeSavesWith]
  split
  · exact ⟨between, typing, _, rfl, hlength, hnames⟩
  · exact ⟨between, typing, _, rfl, hlength, hnames⟩

/-! ### The completion -/

/-- A completion has no shortcuts, so what comes behind it is all that matters. -/
theorem isSaved_saveCompletion_append
    (hname : (Item.action (.keystrokes name)).isSaveShortcut = false) (rest : Plan) :
    IsSaved (saveCompletion name ++ rest) ↔ rest.IsSaved := by
  have hwait : (Item.action (.waitFor "1.0")).isSaveShortcut = false := rfl
  have henter : (Item.action (.keystrokes "\x7bENTER\x7d")).isSaveShortcut = false := by decide
  unfold saveCompletion
  rw [List.cons_append, List.cons_append, List.cons_append, List.nil_append,
    isSaved_cons_of_other hwait, isSaved_cons_of_other hname, isSaved_cons_of_other henter]

/-- A completion is as long as the window, and its name is the only one that it can have. -/
theorem any_namesFile_saveCompletion (name : String) (rest : Plan) :
    ((saveCompletion name ++ rest).take nameLookahead).any (·.namesFile) =
      (Item.action (.keystrokes name)).namesFile := by
  have hwait : (Item.action (.waitFor "1.0")).namesFile = false := rfl
  have henter : (Item.action (.keystrokes "\x7bENTER\x7d")).namesFile = false := by decide
  change List.any (saveCompletion name) (·.namesFile) = _
  rw [saveCompletion, List.any_cons, List.any_cons, List.any_cons, List.any_nil, hwait, henter]
  simp only [Bool.false_or, Bool.or_false]

/-- The pass leaves a plan that is saved if there was nothing to do, or if it put in names that
    are recognised. -/
theorem isSaved_completeSavesWith
    (hname : (Item.action (.keystrokes name)).isSaveShortcut = false) :
    (completeSavesWith name plan).IsSaved ↔
      plan.IsSaved ∨ (Item.action (.keystrokes name)).namesFile = true := by
  induction plan with
  | nil => exact iff_of_true isSaved_nil (.inl isSaved_nil)
  | cons item items ih =>
      by_cases hnamed : item.isSaveShortcut = true →
          (items.take nameLookahead).any (·.namesFile) = true
      · -- The name that is near stays near, since nothing is put in front of it.
        have hnamed' : item.isSaveShortcut = true →
            ((completeSavesWith name items).take nameLookahead).any (·.namesFile) = true :=
          fun hshortcut => any_namesFile_completeSavesWith (hnamed hshortcut)
        rw [completeSavesWith_cons_of_named hnamed, isSaved_cons, isSaved_cons, ih,
          and_iff_right hnamed', and_iff_right hnamed]
      · -- The window holds the completion and nothing else, so the name in it decides.
        have hnot : ¬ IsSaved (item :: items) := fun h => hnamed (isSaved_cons.mp h).1
        rw [Classical.not_imp, Bool.not_eq_true] at hnamed
        rw [completeSavesWith_cons_shortcut hnamed.1 hnamed.2, isSaved_cons,
          any_namesFile_saveCompletion, isSaved_saveCompletion_append hname, ih, or_iff_right hnot]
        exact ⟨fun h => h.1 hnamed.1, fun h => ⟨fun _ => h, .inr h⟩⟩

/-! ### Two applications -/

theorem completeSaves_isSaved_of_unasked {instruction : String}
    (hunasked : Text.mentions (Instruction.lowered instruction) "save" = false) (plan : Plan) :
    (completeSaves plan instruction).IsSaved := by
  rw [completeSaves_of_unasked hunasked]
  intro shortcut after hsuffix hshortcut
  have hmem := hsuffix.subset List.mem_cons_self
  rw [List.mem_filter, hshortcut] at hmem
  exact absurd hmem.2 nofun

/-- The plans that the pass leaves with a name behind every shortcut. -/
theorem completeSaves_isSaved_iff {instruction : String} :
    (completeSaves plan instruction).IsSaved ↔
      Text.mentions (Instruction.lowered instruction) "save" = false ∨ plan.IsSaved ∨
        ¬ Instruction.IsPlainCsv (Instruction.savedName instruction).toList := by
  by_cases hasked : Text.mentions (Instruction.lowered instruction) "save" = true
  · rw [completeSaves_of_asked hasked, hasked, ← Instruction.mentionsAny_savedName,
      isSaved_completeSavesWith (Instruction.savedName_not_shortcut instruction)]
    exact (or_iff_right nofun).symm
  · rw [Bool.not_eq_true] at hasked
    exact iff_of_true (completeSaves_isSaved_of_unasked hasked plan) (.inl hasked)

/-- The plans that another application does not change. -/
theorem completeSaves_completeSaves_eq_iff {instruction : String} :
    completeSaves (completeSaves plan instruction) instruction = completeSaves plan instruction ↔
      (completeSaves plan instruction).IsSaved := by
  by_cases hasked : Text.mentions (Instruction.lowered instruction) "save" = true
  · rw [completeSaves_of_asked hasked, completeSaves_of_asked hasked,
      completeSavesWith_eq_self_iff]
  · rw [Bool.not_eq_true] at hasked
    refine iff_of_true ?_ (completeSaves_isSaved_of_unasked hasked plan)
    rw [completeSaves_of_unasked hasked, completeSaves_of_unasked hasked, List.filter_filter]
    simp only [Bool.and_self]

/-- Nothing is put in between an item and a name that is near behind it. -/
theorem completeSaves_append_named {instruction : String} {before between after : Plan}
    {item typing : Item}
    (hasked : Text.mentions (Instruction.lowered instruction) "save" = true)
    (hnear : between.length < nameLookahead) (hnames : typing.namesFile = true)
    (hother : typing.isSaveShortcut = false) :
    ∃ front back, completeSaves (before ++ item :: (between ++ typing :: after)) instruction =
        front ++ item :: (between ++ typing :: back) ∧
      Interleaves (Item.IsPutIn instruction) before front ∧
      Interleaves (Item.IsPutIn instruction) after back := by
  have hadded : ∀ item ∈ saveCompletion (Instruction.savedName instruction),
      item.IsPutIn instruction := fun item hitem => .inr ⟨hasked, hitem⟩
  rcases completeSavesWith_append hadded before (item :: (between ++ typing :: after)) with
    ⟨front, hfront, hbefore⟩
  -- The name is in the window of every item between, so none of them is completed.
  have hsave : (item :: between).length ≤ nameLookahead := hnear
  have hafter := completeSaves_interleaves after instruction
  rw [filter_outlivesSaving_of_asked hasked, completeSaves_of_asked hasked] at hafter
  refine ⟨front, _, ?_, hbefore, hafter⟩
  rw [completeSaves_of_asked hasked, hfront, ← List.cons_append,
    completeSavesWith_append_named hsave hnames,
    completeSavesWith_cons_of_named fun hshortcut => ?_, List.cons_append]
  rw [hother] at hshortcut
  exact absurd hshortcut nofun

/-- Completing saves once is enough, up to the names that are not recognised. If the name is not
    one of these, nothing is put in between a shortcut, or any other item, and the name near
    behind it. -/
theorem completeSaves_completeSaves (plan : Plan) (instruction : String) :
    (completeSaves (completeSaves plan instruction) instruction =
        completeSaves plan instruction ↔ (completeSaves plan instruction).IsSaved) ∧
    ((completeSaves plan instruction).IsSaved ↔
      Text.mentions (Instruction.lowered instruction) "save" = false ∨ plan.IsSaved ∨
        ¬ Instruction.IsPlainCsv (Instruction.savedName instruction).toList) ∧
    ∀ before item between typing after,
      plan = before ++ item :: (between ++ typing :: after) →
      Text.mentions (Instruction.lowered instruction) "save" = true →
      between.length < nameLookahead →
      typing.typedText? = some (Instruction.savedName instruction) →
      ¬ Instruction.IsPlainCsv (Instruction.savedName instruction).toList →
      ∃ front back,
        completeSaves plan instruction = front ++ item :: (between ++ typing :: back) ∧
        Interleaves (Item.IsPutIn instruction) before front ∧
        Interleaves (Item.IsPutIn instruction) after back := by
  refine ⟨completeSaves_completeSaves_eq_iff, completeSaves_isSaved_iff, ?_⟩
  rintro before item between typing after rfl hasked hnear htyped hname
  refine completeSaves_append_named hasked hnear ?_ ?_
  · -- A name that is not plain is recognised where it is typed.
    unfold Item.namesFile
    rw [htyped]
    exact (Instruction.mentionsAny_savedName instruction).mpr hname
  · -- And it is no shortcut itself.
    unfold Item.isSaveShortcut
    rw [htyped]
    exact Instruction.savedName_not_shortcut instruction

/-- The first save has its name, the second gets one, and then both are left alone. -/
theorem completeSaves_completeSaves_notes :
    let shortcut : Item := .action (.keystrokes "^s")
    let wait : Item := .action (.waitFor "0.5")
    let typing : Item := .action (.keystrokes "notes.txt")
    let enter : Item := .action (.keystrokes "\x7bENTER\x7d")
    let plan : Plan := [shortcut, wait, typing, enter, shortcut]
    let out : Plan := plan ++ saveCompletion "notes.txt"
    completeSaves plan "save as notes.txt" = out ∧ completeSaves out "save as notes.txt" = out ∧
      ∃ front back, out = front ++ shortcut :: ([wait] ++ typing :: back) ∧
        Interleaves (Item.IsPutIn "save as notes.txt") [] front ∧
        Interleaves (Item.IsPutIn "save as notes.txt") [enter, shortcut] back := by
  intro shortcut wait typing enter plan out
  have hout : completeSaves plan "save as notes.txt" = out := by decide +kernel
  have hasked : Text.mentions (Instruction.lowered "save as notes.txt") "save" = true := by
    decide +kernel
  have hname : Instruction.savedName "save as notes.txt" = "notes.txt" := by decide +kernel
  have hplain : ¬ Instruction.IsPlainCsv (Instruction.savedName "save as notes.txt").toList := by
    rw [hname]
    decide
  rcases completeSaves_completeSaves plan "save as notes.txt" with ⟨htwice, hsaved, hnamed⟩
  -- The name of the instruction is recognised, so the second pass finds both saves named.
  have hagain := htwice.mpr (hsaved.mpr (.inr (.inr hplain)))
  have hleft := hnamed [] shortcut [wait] typing [enter, shortcut] rfl hasked (by decide)
    (congrArg some hname.symm) hplain
  rw [hout] at hagain hleft
  exact ⟨hout, hagain, hleft⟩

/-- A name with the extension `.csv` is put in once more by each application, although the plan
    has it where it belongs. -/
theorem completeSaves_csv :
    let shortcut : Item := .action (.keystrokes "^s")
    let once : Plan := shortcut :: saveCompletion "data.csv"
    completeSaves [shortcut] "save as data.csv" = once ∧
      completeSaves once "save as data.csv" = once ++ saveCompletion "data.csv" := by
  decide +kernel

end Plan

end ActionPlan
