import ActionPlan.Proofs.Instruction.Separators
import ActionPlan.Proofs.Plan.Passes
import ActionPlan.Proofs.Text.Words

/-!
# The Name of a Saved File

The name of a saved file is searched for in the instruction, and the search has two ideas built in:
a name that begins in the middle of others need not be looked at, and a name goes as far as its
characters do. What is found is the file name that begins first (`firstName?_eq_some_iff`), and
there is only one that begins there, because the known extensions differ in their first letters.

A user who writes one word with a point in it means that word. A file name has a point and no
blanks, so what is found lies within the word, but it need not be the whole of it. Neither a slash
nor a point belongs to the characters of names. So a folder that is written with slashes is lost,
with everything in front of an inner point, and of two extensions the second one is
(`savedName_eq_word_iff`).

## Main definitions

* `Instruction.IsFirstName`: The file name that begins first in a text.
* `Instruction.isPathChar`: The characters that a path is written in.
* `Instruction.NamesOneFile`: The instruction has one word that names a file.

## Theorems

* `nameAtHead?_append`: A file name is found where it begins.
* `firstName?_eq_some_iff`, `firstName?_eq_none_iff`: What the search finds.
* `NamesOneFile.exists_cut`: Names do not reach out of the only word with a point.
* `savedName_of_namesOneFile`: The name is taken from the word.
* `savedName_eq_word_iff`: When it is the whole word.
-/

namespace ActionPlan

open Text

namespace Instruction

variable {text name back word lead trail : List Char}

/-! ### File names -/

theorem isNameChar_point : isNameChar '.' = false := rfl

/-- An extension is known by its first letter. -/
theorem eq_of_head?_eq : ∀ ext ∈ fileExtensions, ∀ other ∈ fileExtensions,
    other.toList.head? = ext.toList.head? → other = ext := by
  decide

theorem ne_nil_of_mem_fileExtensions : ∀ ext ∈ fileExtensions, ext.toList ≠ [] := by
  decide

/-- So the extension that stands somewhere is the one that is found there. -/
theorem find?_extension {ext : String} (hext : ext ∈ fileExtensions) (back : List Char) :
    (fileExtensions.find? fun other => other.toList.isPrefixOf (ext.toList ++ back)) =
      some ext := by
  cases hfound : fileExtensions.find? fun other => other.toList.isPrefixOf (ext.toList ++ back)
  case none =>
    have hhere : ext.toList.isPrefixOf (ext.toList ++ back) = true :=
      List.isPrefixOf_iff_prefix.mpr (List.prefix_append _ _)
    exact absurd hhere (List.find?_eq_none.mp hfound ext hext)
  case some other =>
    -- Two extensions that begin the same text begin with the same character, and no two do.
    have hother := List.mem_of_find?_eq_some hfound
    have hhere : other.toList.isPrefixOf (ext.toList ++ back) = true := by
      rw [List.find?_eq_some_iff_append] at hfound
      exact hfound.1
    rcases List.isPrefixOf_iff_prefix.mp hhere with ⟨rest, hrest⟩
    have hhead := congrArg List.head? hrest
    rw [List.head?_append_of_ne_nil _ (ne_nil_of_mem_fileExtensions other hother),
      List.head?_append_of_ne_nil _ (ne_nil_of_mem_fileExtensions ext hext)] at hhead
    rw [eq_of_head?_eq ext hext other hother hhead]

/-- A file name is found where it begins. -/
theorem nameAtHead?_append (h : IsFileName name) (back : List Char) :
    nameAtHead? (name ++ back) = some name := by
  rcases h with ⟨stem, ext, hne, hstem, hext, rfl⟩
  have htext : (stem ++ '.' :: ext.toList) ++ back = stem ++ '.' :: (ext.toList ++ back) := by
    rw [List.append_assoc, List.cons_append]
  -- The stem ends at the point, which is no character of a name.
  have htake : (stem ++ '.' :: (ext.toList ++ back)).takeWhile isNameChar = stem := by
    rw [List.takeWhile_append_of_pos hstem, List.takeWhile_cons, isNameChar_point]
    exact List.append_nil stem
  have hdrop : (stem ++ '.' :: (ext.toList ++ back)).dropWhile isNameChar =
      '.' :: (ext.toList ++ back) := by
    rw [List.dropWhile_append_of_pos hstem, List.dropWhile_cons, isNameChar_point]
    rfl
  -- The stem is not empty, so the head is not skipped.
  have hfilled : ¬ stem.isEmpty = true := fun hempty => hne (List.isEmpty_iff.mp hempty)
  unfold nameAtHead?
  simp only [htext, htake, hdrop, find?_extension hext, if_neg hfilled, Option.map_some]

/-- Only one file name begins at a place. -/
theorem IsFileName.eq_of_append_eq {other back' : List Char} (h : IsFileName name)
    (hother : IsFileName other) (heq : name ++ back = other ++ back') : name = other := by
  have hfound := nameAtHead?_append h back
  rw [heq, nameAtHead?_append hother back'] at hfound
  exact (Option.some.inj hfound).symm

/-- With one more character of names in front a file name is another one. -/
theorem IsFileName.cons {c : Char} (h : IsFileName name) (hc : isNameChar c = true) :
    IsFileName (c :: name) := by
  rcases h with ⟨stem, ext, _, hstem, hext, rfl⟩
  exact ⟨c :: stem, ext, List.cons_ne_nil c stem, List.forall_mem_cons.mpr ⟨hc, hstem⟩, hext, rfl⟩

theorem nameAtHead?_isPrefix (h : nameAtHead? text = some name) : name <+: text := by
  unfold nameAtHead? at h
  simp only at h
  split at h
  · exact absurd h nofun
  · split at h
    · next rest hrest =>
      rcases Option.map_eq_some_iff.mp h with ⟨ext, hext, rfl⟩
      have htext : text.takeWhile isNameChar ++ '.' :: rest = text := by
        rw [← hrest, List.takeWhile_append_dropWhile]
      -- What follows the point begins with the extension, so the text begins with the name.
      have hhere : ext.toList.isPrefixOf rest = true := by
        rw [List.find?_eq_some_iff_append] at hext
        exact hext.1
      rcases List.isPrefixOf_iff_prefix.mp hhere with ⟨back, rfl⟩
      exact ⟨back, by rw [List.append_assoc, List.cons_append, htext]⟩
    · exact absurd h nofun

/-! ### The search -/

/-- The file name begins in the text, and none begins in front of it. -/
def IsFirstName (text name : List Char) : Prop :=
  ∃ front back, text = front ++ (name ++ back) ∧ IsFileName name ∧
    ∀ front' name' back', text = front' ++ (name' ++ back') → IsFileName name' →
      front.length ≤ front'.length

theorem IsFileName.ne_nil (h : IsFileName name) : name ≠ [] :=
  List.ne_nil_of_mem h.point_mem

/-- If there is a file name at all, one begins first. -/
theorem exists_isFirstName (h : IsFileName name) (hname : name <:+: text) :
    ∃ first, IsFirstName text first := by
  induction text with
  | nil => exact absurd (List.infix_nil.mp hname) h.ne_nil
  | cons c text ih =>
      -- Either a file name begins here, and none can begin earlier, or all of them begin later.
      by_cases hhere : ∃ first, first <+: c :: text ∧ IsFileName first
      · rcases hhere with ⟨first, ⟨back, hback⟩, hfirst⟩
        exact ⟨first, [], back, hback.symm, hfirst, fun _ _ _ _ _ => Nat.zero_le _⟩
      · have hlater : name <:+: text :=
          (List.infix_cons_iff.mp hname).resolve_left fun hprefix => hhere ⟨name, hprefix, h⟩
        rcases ih hlater with ⟨first, front, back, rfl, hfirst, hleast⟩
        refine ⟨first, c :: front, back, rfl, hfirst, fun front' name' back' htext hname' => ?_⟩
        cases front' with
        | nil => exact absurd ⟨name', ⟨back', htext.symm⟩, hname'⟩ hhere
        | cons d front' =>
            exact Nat.succ_le_succ (hleast front' name' back' (List.cons.inj htext).2 hname')

/-- The search is not led astray by what stands in front of the first file name. -/
theorem firstName?_append {front : List Char} {insideName : Bool} (h : IsFileName name)
    (hinside : insideName = true → front ≠ [])
    (hleast : ∀ front' name' back', front ++ (name ++ back) = front' ++ (name' ++ back') →
      IsFileName name' → front.length ≤ front'.length) :
    firstName? insideName (front ++ (name ++ back)) = some name := by
  induction front generalizing insideName with
  | nil =>
      -- The search only is inside a name if it has passed a character, and here it has not.
      have houtside : insideName = false := by
        rw [← Bool.not_eq_true]
        exact fun htrue => hinside htrue rfl
      obtain ⟨c, cs, hcons⟩ := List.exists_cons_of_ne_nil h.ne_nil
      have hfound := nameAtHead?_append h back
      rw [List.nil_append, houtside]
      rw [hcons, List.cons_append] at hfound ⊢
      rw [firstName?, if_neg Bool.false_ne_true, hfound]
      rfl
  | cons c front ih =>
      -- What is found here would be a file name that begins earlier than the first one.
      have hhere : (if insideName then none else
          nameAtHead? (c :: (front ++ (name ++ back)))) = none := by
        split
        · rfl
        · cases hfound : nameAtHead? (c :: (front ++ (name ++ back)))
          case none => rfl
          case some other =>
            rcases nameAtHead?_isPrefix hfound with ⟨rest, hrest⟩
            exact absurd (hleast [] other rest hrest.symm (isFileName_of_nameAtHead hfound))
              (Nat.not_succ_le_zero _)
      rw [List.cons_append, firstName?, hhere]
      refine ih (fun hc hnil => ?_) fun front' name' back' htext hname' => ?_
      · -- The file name would have begun one character earlier.
        subst hnil
        exact absurd (hleast [] (c :: name) back rfl (h.cons hc)) (Nat.not_succ_le_zero _)
      · refine Nat.le_of_succ_le_succ (hleast (c :: front') name' back' ?_ hname')
        rw [List.cons_append, htext, List.cons_append]

theorem firstName?_isInfix {insideName : Bool} (h : firstName? insideName text = some name) :
    name <:+: text := by
  induction text generalizing insideName with
  | nil => exact absurd h.symm (Option.some_ne_none name)
  | cons c text ih =>
      unfold firstName? at h
      simp only [Option.orElse_eq_orElse, Option.orElse_eq_or, Option.or_eq_some_iff] at h
      rcases h with hhere | ⟨_, hlater⟩
      · split at hhere
        · exact absurd hhere.symm (Option.some_ne_none name)
        · exact (nameAtHead?_isPrefix hhere).isInfix
      · exact List.infix_cons (ih hlater)

/-- The search finds the file name that begins first. -/
theorem firstName?_eq_some_iff : firstName? false text = some name ↔ IsFirstName text name := by
  have hback : ∀ {name}, IsFirstName text name → firstName? false text = some name := by
    rintro name ⟨front, back, rfl, hname, hleast⟩
    exact firstName?_append hname nofun hleast
  refine ⟨fun h => ?_, hback⟩
  rcases exists_isFirstName (isFileName_of_firstName h) (firstName?_isInfix h) with ⟨first, hfirst⟩
  rw [hback hfirst] at h
  exact Option.some.inj h ▸ hfirst

theorem firstName?_eq_none_iff :
    firstName? false text = none ↔ ∀ part, part <:+: text → ¬ IsFileName part := by
  constructor
  · -- Where there is any file name, there is a first one, and that would be found.
    intro h part hpart hname
    rcases exists_isFirstName hname hpart with ⟨first, hfirst⟩
    rw [firstName?_eq_some_iff.mpr hfirst] at h
    exact absurd h nofun
  · intro h
    cases hfound : firstName? false text
    case none => rfl
    case some name =>
      exact absurd (isFileName_of_firstName hfound) (h name (firstName?_isInfix hfound))

/-! ### The word that names a file -/

/-- The characters that a path is written in. -/
def isPathChar (c : Char) : Bool :=
  isNameChar c || c == '.' || c == '/'

/-- The instruction does not speak of the desktop and has one word with a point in it, which is
    written like the path of a file: letters, digits and the signs of paths, one of the extensions
    at the end, and a letter or digit somewhere in front of it. -/
structure NamesOneFile (instruction : String) (word : List Char) : Prop where
  offDesktop : mentions (lowered instruction) "desktop" = false
  only : ∃ before after, words instruction.toList = before ++ word :: after ∧
    ∀ other ∈ before ++ after, '.' ∉ other
  written : ∀ c ∈ word, isPathChar c = true
  extension : ∃ stem, ∃ ext ∈ fileExtensions, word = stem ++ '.' :: ext.toList ∧
    ∃ c ∈ stem, c.isAlphanum = true

theorem isBlank_of_isNameChar {c : Char} (h : isNameChar c = true) : isBlank c = false := by
  have hle : ∀ a b : Char, a ≤ b ↔ a.toNat ≤ b.toNat := fun _ _ => Iff.rfl
  -- All characters of a name are visible ones of ASCII.
  have hrange : 33 ≤ c.toNat ∧ c.toNat ≤ 126 := by
    simp only [isNameChar, isAsciiDigit, Bool.or_eq_true, Bool.and_eq_true, decide_eq_true_eq,
      beq_iff_eq, hle] at h
    rcases h with ((((⟨hlow, hhigh⟩ | ⟨hlow, hhigh⟩) | ⟨hlow, hhigh⟩) | rfl) | rfl) | rfl
    · exact ⟨le_trans (by decide) hlow, le_trans hhigh (by decide)⟩
    · exact ⟨le_trans (by decide) hlow, le_trans hhigh (by decide)⟩
    · exact ⟨le_trans (by decide) hlow, le_trans hhigh (by decide)⟩
    · decide
    · decide
    · decide
  exact isBlank_of_visible hrange.1 hrange.2

theorem IsFileName.solid (h : IsFileName name) : ∀ c ∈ name, isBlank c = false := by
  have hext : ∀ ext ∈ fileExtensions, ('.' :: ext.toList).all (!isBlank ·) = true := by decide
  rcases h with ⟨stem, ext, _, hstem, hmem, rfl⟩
  intro c hc
  rcases List.mem_append.mp hc with hc | hc
  · exact isBlank_of_isNameChar (hstem c hc)
  · have hsolid := List.all_eq_true.mp (hext ext hmem) c hc
    rwa [Bool.not_eq_true'] at hsolid

/-- A file name has one point, and no slash. -/
theorem IsFileName.marks (h : IsFileName name) : '/' ∉ name ∧ name.count '.' = 1 := by
  have hext : ∀ ext ∈ fileExtensions, '/' ∉ '.' :: ext.toList ∧
      ('.' :: ext.toList).count '.' = 1 := by decide
  rcases h with ⟨stem, ext, _, hstem, hmem, rfl⟩
  have hslash : '/' ∉ stem := fun hin => absurd (hstem '/' hin) (by decide)
  have hpoint : '.' ∉ stem := fun hin => absurd (hstem '.' hin) (by decide)
  rw [List.mem_append, not_or, List.count_append, List.count_eq_zero.mpr hpoint, Nat.zero_add]
  exact ⟨⟨hslash, (hext ext hmem).1⟩, (hext ext hmem).2⟩

/-- The word is a file name itself if it has no slash and one point. -/
theorem NamesOneFile.isFileName_iff {instruction : String} (h : NamesOneFile instruction word) :
    IsFileName word ↔ '/' ∉ word ∧ word.count '.' = 1 := by
  refine ⟨IsFileName.marks, fun ⟨hslash, hcount⟩ => ?_⟩
  rcases h.extension with ⟨stem, ext, hext, rfl, c, hc, -⟩
  -- The one point of the word stands in front of the extension.
  have hpoint : '.' ∉ stem := by
    rw [List.count_append, List.count_cons_self] at hcount
    rw [← List.count_eq_zero]
    omega
  refine ⟨stem, ext, List.ne_nil_of_mem hc, fun d hd => ?_, hext, rfl⟩
  have hwritten := h.written d (List.mem_append_left _ hd)
  simp only [isPathChar, Bool.or_eq_true, beq_iff_eq] at hwritten
  rcases hwritten with (hname | rfl) | rfl
  · exact hname
  · -- The stem of a name holds no further point.
    exact absurd hd hpoint
  · -- Nor does it hold a slash.
    exact absurd (List.mem_append_left _ hd) hslash

/-- No file name of the instruction lies outside the word. -/
theorem NamesOneFile.exists_cut {instruction : String} (h : NamesOneFile instruction word) :
    ∃ lead trail, instruction.toList = lead ++ (word ++ trail) ∧
      ∀ front name back, lead ++ (word ++ trail) = front ++ (name ++ back) → IsFileName name →
        ∃ front' back', front = lead ++ front' ∧ back = back' ++ trail ∧
          word = front' ++ (name ++ back') := by
  rcases h.only with ⟨before, after, hwords, hpoint⟩
  rcases (isWorded_iff.mpr hwords).cut with ⟨lead, trail, htext, hlead, htrail, hlast, hnext⟩
  -- The other words have no points, so the text on either side has none.
  have hnone : ∀ {part ws}, IsWorded part ws → (∀ other ∈ ws, '.' ∉ other) → '.' ∉ part := by
    intro part ws hworded hws hmem
    rcases hworded.exists_mem hmem rfl with ⟨other, hother, hin⟩
    exact hws other hother hin
  refine ⟨lead, trail, htext, fun front name back hcut hname => ?_⟩
  -- A file name has a point, which is in the word, and no blanks, so it cannot leave the word.
  exact exists_within_word
    (hnone hlead fun other hother => hpoint other (List.mem_append_left after hother))
    (hnone htrail fun other hother => hpoint other (List.mem_append_right before hother))
    hlast hnext hname.point_mem hname.solid hcut

/-- The name is taken from the word: it is the file name that begins first in it. Without one, the
    file goes unnamed. -/
theorem savedName_of_namesOneFile {instruction : String} (h : NamesOneFile instruction word) :
    (∃ name, IsFirstName word name ∧ savedName instruction = String.ofList name) ∨
      (∀ part, part <:+: word → ¬ IsFileName part) ∧ savedName instruction = unnamedFile := by
  rcases h.exists_cut with ⟨lead, trail, htext, hwithin⟩
  unfold savedName
  simp only [h.offDesktop, Bool.false_and, Bool.false_eq_true, if_false]
  cases hfound : firstName? false instruction.toList
  case none =>
    -- A file name in the word would also be one in the instruction.
    refine .inr ⟨fun part hpart => firstName?_eq_none_iff.mp hfound part ?_, rfl⟩
    rw [htext]
    exact hpart.trans (List.infix_append' lead word trail)
  case some name =>
    refine .inl ⟨name, ?_, rfl⟩
    rw [firstName?_eq_some_iff, htext] at hfound
    rcases hfound with ⟨front, back, hcut, hname, hleast⟩
    rcases hwithin front name back hcut hname with ⟨front', back', rfl, rfl, hword⟩
    refine ⟨front', back', hword, hname, fun other name' behind hother hname' => ?_⟩
    -- A file name of the word is also one of the instruction, behind what stands in front.
    have hle := hleast (lead ++ other) name' (behind ++ trail)
      (by rw [hother]; simp only [List.append_assoc]) hname'
    rw [List.length_append, List.length_append] at hle
    exact Nat.le_of_add_le_add_left hle

/-- A file name begins first in itself, and nothing else does. -/
theorem IsFileName.eq_of_isFirstName {first : List Char} (h : IsFileName name)
    (hfirst : IsFirstName name first) : first = name := by
  rcases hfirst with ⟨front, back, hname, hfirst, hleast⟩
  have hfront := hleast [] name [] (by rw [List.nil_append, List.append_nil]) h
  rw [List.length_nil, Nat.le_zero, List.length_eq_zero_iff] at hfront
  rw [hfront, List.nil_append] at hname
  refine hfirst.eq_of_append_eq h (hname.symm.trans (List.append_nil name).symm)

/-- The name is the whole word if and only if the word has no slash in it and no second point. In
    any case it is the file name that begins first in the word, and the file goes unnamed if there
    is none. -/
theorem savedName_eq_word_iff {instruction : String} (h : NamesOneFile instruction word) :
    (savedName instruction = String.ofList word ↔ '/' ∉ word ∧ word.count '.' = 1) ∧
    ((∃ name, IsFirstName word name ∧ savedName instruction = String.ofList name) ∨
      (∀ part, part <:+: word → ¬ IsFileName part) ∧ savedName instruction = unnamedFile) := by
  have hsaved := savedName_of_namesOneFile h
  refine ⟨?_, hsaved⟩
  rw [← h.isFileName_iff]
  rcases hsaved with ⟨name, hfirst, hsaved⟩ | ⟨hnone, hsaved⟩
  · rw [hsaved, String.ofList_inj]
    constructor
    · rintro rfl
      rcases hfirst with ⟨_, _, _, hname, _⟩
      exact hname
    · exact fun hword => hword.eq_of_isFirstName hfirst
  · refine iff_of_false (fun hsame => hnone word List.infix_rfl ?_) (hnone word List.infix_rfl)
    -- The name for want of a better one is a file name, and the word is none.
    have hword : word = unnamedFile.toList := by rw [← hsaved, hsame, String.toList_ofList]
    exact hword ▸ isFileName_unnamedFile

/-- A hyphen belongs to a name, and so does a folder with a backslash. -/
theorem savedName_eq_word_iff_report :
    NamesOneFile "save it as q3\\my-report.csv please" "q3\\my-report.csv".toList ∧
      savedName "save it as q3\\my-report.csv please" = "q3\\my-report.csv" := by
  have hnames :
      NamesOneFile "save it as q3\\my-report.csv please" "q3\\my-report.csv".toList :=
    ⟨by decide +kernel,
      ⟨["save".toList, "it".toList, "as".toList], ["please".toList], by decide +kernel, by decide⟩,
      List.all_eq_true.mp (by decide), "q3\\my-report".toList, "csv", by decide, by decide, 'q',
      by decide, by decide⟩
  refine ⟨hnames, ?_⟩
  -- The word has one point and no slash, so it is the file name.
  rw [← String.ofList_toList (s := "q3\\my-report.csv"), (savedName_eq_word_iff hnames).1]
  decide

/-- So the name is not always the word: of a folder with a slash nothing is left. -/
theorem savedName_ne_word : ¬ ∀ instruction word, NamesOneFile instruction word →
    savedName instruction = String.ofList word := by
  intro h
  have hnames : NamesOneFile "save as docs/report.txt" "docs/report.txt".toList :=
    ⟨by decide +kernel, ⟨["save".toList, "as".toList], [], by decide +kernel, by decide⟩,
      List.all_eq_true.mp (by decide), "docs/report".toList, "txt", by decide, by decide, 'd',
      by decide, by decide⟩
  have hsaved : savedName "save as docs/report.txt" = "report.txt" := by decide +kernel
  have hword := (h _ _ hnames).symm.trans hsaved
  exact absurd hword (by decide)

/-- And of a name with two points only the second half. -/
example : savedName "save as v1.2.txt" = "2.txt" := by decide +kernel

end Instruction

end ActionPlan
