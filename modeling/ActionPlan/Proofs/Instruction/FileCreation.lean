import ActionPlan.Proofs.Instruction.Phrasebook
import ActionPlan.Proofs.Instruction.Reading

/-!
# Creating a File by Phrase

The sentence that creates a file ends in a text that the user is free to choose, and the phrasebook
looks for all its phrases in the whole instruction. That the text is taken for what it is has to do
with the order of the rules. The rule that creates comes second, so of all the words that the text
may hold only those of the rule in front of it matter, the phrases of reading.

Such a phrase is in the instruction only if it is in the text. It consists of words with a blank
between them, and a blank of the instruction that is not in the text has a known word in front of
it, which is not *read*, or it has the name in front of it and *with* behind it, which goes on with
no phrase (`suffix_of_word`). So if the text holds no such phrase, the file is created, and if it
holds one, the instruction is answered as the text alone would be (`plan_create`).

A text of several lines is another matter. The sentence does not admit it, the rule does not apply,
and the rules behind it see the words of the text.

## Theorems

* `suffix_of_word`: Where a phrase may begin behind a word.
* `afterPhrase?_wording`: The phrases of reading are found in the text of the sentence only.
* `plan_create`: What the phrasebook makes of the sentence.
* `not_creates`: Two texts with which the file is not created.
-/

namespace ActionPlan

open Text

namespace Text

variable {first tail back word rest : List Char}

/-- A phrase begins behind a word, unless the word ends as the first word of the phrase does and what
    is behind it goes on as the phrase does. -/
theorem suffix_of_word (hfirst : ' ' ∉ first) (hword : ' ' ∉ word)
    (hnot : ¬ (first <:+ word ∧ tail <+: rest))
    (h : first ++ ' ' :: (tail ++ back) <:+ word ++ ' ' :: rest) :
    first ++ ' ' :: (tail ++ back) <:+ rest := by
  rcases h with ⟨front, hfront⟩
  rw [← List.append_assoc] at hfront
  -- The first blank of the phrase is the one behind the word, or it is in the rest.
  rcases append_mark_eq_iff.mp hfront with ⟨hsame, htail⟩ | ⟨moved, hmoved, -⟩ | ⟨moved, hmoved, hrest⟩
  · exact absurd ⟨⟨front, hsame⟩, ⟨back, htail⟩⟩ hnot
  · rw [hmoved] at hword
    exact absurd (List.mem_append_right _ List.mem_cons_self) hword
  · rcases List.append_eq_append_iff.mp hmoved with ⟨cut, -, hcut⟩ | ⟨cut, -, hcut⟩
    · rw [hcut] at hfirst
      exact absurd (List.mem_append_right _ List.mem_cons_self) hfirst
    · -- The phrase begins behind that blank, which is not a character of its first word.
      cases cut with
      | nil =>
          rw [List.nil_append] at hcut
          rw [← hcut] at hfirst
          exact absurd List.mem_cons_self hfirst
      | cons c cut =>
          have hcut : moved = cut ++ first := (List.cons.inj hcut).2
          rw [hrest, hcut, List.append_assoc]
          exact List.suffix_append _ _

end Text

namespace Phrasebook

variable {name gap body back : List Char} {phrase : String}

/-! ### Phrases in the sentence -/

theorem phrase_suffix {tail : List Char} (hname : ' ' ∉ name) (hgap : isBlankText gap = true)
    (hwith : ¬ tail <+: "with".toList ++ ' ' :: ("text".toList ++ ' ' :: (gap ++ body)))
    (h : "read".toList ++ ' ' :: (tail ++ back) <:+
      "create file ".toList ++ (name ++ (" with text ".toList ++ (gap ++ body)))) :
    "read".toList ++ ' ' :: (tail ++ back) <:+ body := by
  have hread : ' ' ∉ "read".toList := by decide
  -- The blanks of the sentence, from left to right.
  have hcreate : "create file ".toList ++ (name ++ (" with text ".toList ++ (gap ++ body))) =
      "create".toList ++ ' ' :: ("file".toList ++ ' ' :: (name ++ ' ' ::
        ("with".toList ++ ' ' :: ("text".toList ++ ' ' :: (gap ++ body))))) := by
    simp only [String.reduceToList]
    rfl
  rw [hcreate] at h
  have hfile := suffix_of_word hread (by decide) (fun h => absurd h.1 (by decide)) h
  have hname' := suffix_of_word hread (by decide) (fun h => absurd h.1 (by decide)) hfile
  have hrest := suffix_of_word hread hname (fun h => hwith h.2) hname'
  have htext := suffix_of_word hread (by decide) (fun h => absurd h.1 (by decide)) hrest
  have hbody := suffix_of_word hread (by decide) (fun h => absurd h.1 (by decide)) htext
  have hflush : IsFlush "read".toList := by decide
  exact suffix_of_gap hgap (hflush.append (by decide) _) nofun hbody

/-- A phrase of reading that is in the sentence is in its text. -/
theorem phrase_suffix_of_mem (hphrase : phrase ∈ readingPhrases) (hname : ' ' ∉ name)
    (hgap : isBlankText gap = true)
    (h : phrase.toList ++ back <:+
      "create file ".toList ++ (name ++ (" with text ".toList ++ (gap ++ body)))) :
    phrase.toList ++ back <:+ body := by
  -- Behind the first word a phrase goes on with a letter that *with* does not begin with.
  have hwith : ∀ {c : Char} {tail : List Char}, c ≠ 'w' →
      ¬ c :: tail <+: "with".toList ++ ' ' :: ("text".toList ++ ' ' :: (gap ++ body)) := by
    intro c tail hc hprefix
    simp only [String.reduceToList] at hprefix
    exact hc (List.cons_prefix_cons.mp hprefix).1
  simp only [readingPhrases, List.mem_cons, List.not_mem_nil, or_false] at hphrase
  rcases hphrase with rfl | rfl
  · have htail : "read text from file".toList ++ back =
        "read".toList ++ ' ' :: ("text from file".toList ++ back) := by
      simp only [String.reduceToList]
      rfl
    rw [htail] at h ⊢
    exact phrase_suffix hname hgap (hwith (by decide)) h
  · have htail : "read file".toList ++ back = "read".toList ++ ' ' :: ("file".toList ++ back) := by
      simp only [String.reduceToList]
      rfl
    rw [htail] at h ⊢
    exact phrase_suffix hname hgap (hwith (by decide)) h

theorem lowerAscii_wording (name body : List Char) :
    lowerAscii ("create file ".toList ++ (name ++ (" with text ".toList ++ body))) =
      "create file ".toList ++ (lowerAscii name ++ (" with text ".toList ++ lowerAscii body)) := by
  have hcreate : lowerAscii "create file ".toList = "create file ".toList := by decide
  have hwith : lowerAscii " with text ".toList = " with text ".toList := by decide
  rw [lowerAscii_append, lowerAscii_append, lowerAscii_append, hcreate, hwith]

/-- The phrases of reading are found in the text of the sentence only. -/
theorem afterPhrase?_wording (hphrase : phrase ∈ readingPhrases)
    (hname : ∀ c ∈ name, isBlank c = false) (hgap : isBlankText gap = true) :
    afterPhrase? phrase
        ("create file ".toList ++ (name ++ (" with text ".toList ++ (gap ++ body)))) =
      afterPhrase? phrase body := by
  have hblank : ' ' ∉ lowerAscii name := by
    intro hmem
    rcases List.mem_map.mp hmem with ⟨c, hc, hspace⟩
    have hnone : isBlank c.toLower = false := (isBlank_toLower c).trans (hname c hc)
    rw [hspace] at hnone
    exact absurd hnone (by decide)
  -- All that stands in front of the text is one stretch to pass over.
  have hassoc : "create file ".toList ++ (name ++ (" with text ".toList ++ (gap ++ body))) =
      ("create file ".toList ++ (name ++ (" with text ".toList ++ gap))) ++ body := by
    simp only [List.append_assoc]
  rw [hassoc]
  refine afterPhrase?_append fun back hback => ?_
  rw [← hassoc, lowerAscii_wording, lowerAscii_append] at hback
  exact phrase_suffix_of_mem hphrase hblank (by rw [isBlankText_lowerAscii]; exact hgap) hback

theorem reading_wording (hname : ∀ c ∈ name, isBlank c = false) (hgap : isBlankText gap = true) :
    reading ("create file ".toList ++ (name ++ (" with text ".toList ++ (gap ++ body)))) =
      reading body := by
  unfold reading
  rw [afterPhrase?_wording List.mem_cons_self hname hgap,
    afterPhrase?_wording (List.mem_cons_of_mem _ List.mem_cons_self) hname hgap]

/-! ### The first two rules -/

variable {instruction : String} {outcome : Except PlanError Plan}

theorem plan_eq_of_reading (h : reading (trim instruction.toList) = some outcome) :
    Phrasebook.plan instruction = outcome := by
  unfold Phrasebook.plan rules
  simp only [List.findSome?_cons, h]

theorem plan_eq_of_creating (hnone : reading (trim instruction.toList) = none)
    (h : creating (trim instruction.toList) = some outcome) :
    Phrasebook.plan instruction = outcome := by
  unfold Phrasebook.plan rules
  simp only [List.findSome?_cons, hnone, h]

theorem bare_trim (text : List Char) : bare (trim text) = bare text := by
  unfold bare unquote
  rw [trim_trim]

theorem creating_wording (hne : name ≠ []) (hname : ∀ c ∈ name, FileSentence.isNameChar c = true)
    (hgap : isBlankText gap = true) (hbody : ¬ (bare body).isEmpty = true)
    (hline : '\n' ∉ trim body) :
    creating ("create file ".toList ++ (name ++ (" with text ".toList ++ (gap ++ trim body)))) =
      some (.ok [.action ⟨.typeText, .file, some (String.ofList name),
        some (String.ofList (bare body)), none⟩]) := by
  have hfull : trim body ≠ [] := by
    intro hnil
    rw [← bare_trim, hnil] at hbody
    exact hbody rfl
  -- The body is on one line without blanks around it, so the sentence ends with it.
  have hsentence := fileSentence?_wording hne hname hgap (isFlush_trim body) hfull hline
  have htaken : IsTaken name name :=
    ⟨List.infix_rfl, FileSentence.isBlankText_name (by rwa [List.isEmpty_iff]) hname⟩
  unfold creating
  rw [hsentence]
  simp only [Option.bind_eq_bind, Option.bind_some, bare_trim, if_neg hbody]
  exact congrArg some (singleAction_make htaken.nonBlank (isTaken_bare hbody).nonBlank rfl)

/-! ### The sentence -/

theorem mentionsAny_readingPhrases_trim (text : List Char) :
    mentionsAny (lowerAscii (trim text)) readingPhrases =
      mentionsAny (lowerAscii text) readingPhrases := by
  rw [Bool.eq_iff_iff, mentionsAny_iff, mentionsAny_iff]
  refine exists_congr fun phrase => and_congr_right fun hphrase => ?_
  constructor
  · exact fun hinfix => hinfix.trans ((trim_isInfix text).map Char.toLower)
  · -- A phrase has no blanks at its ends, so cutting off blanks cannot cut into it.
    have hflush : IsFlush phrase.toList ∧ IsFlush phrase.toList.reverse := by
      simp only [readingPhrases, List.mem_cons, List.not_mem_nil, or_false] at hphrase
      rcases hphrase with rfl | rfl
      · exact ⟨by decide, by decide⟩
      · exact ⟨by decide, by decide⟩
    exact infix_lowerAscii_trim hflush.1 hflush.2

/-- The blanks behind the sentence are not part of it, and those in front of its text are. -/
theorem trim_wording (name : String) {body : String} (hfull : trim body.toList ≠ []) :
    ∃ gap, isBlankText gap = true ∧
      trim ("create file " ++ name ++ " with text " ++ body).toList =
        "create file ".toList ++
          (name.toList ++ (" with text ".toList ++ (gap ++ trim body.toList))) := by
  rcases trim_spec body.toList with ⟨gap, after, hgap, hafter, hbody⟩
  refine ⟨gap, hgap, ?_⟩
  set sentence := "create file ".toList ++
    (name.toList ++ (" with text ".toList ++ (gap ++ trim body.toList))) with hsentence
  have hwhole : ("create file " ++ name ++ " with text " ++ body).toList =
      [] ++ (sentence ++ after) := by
    rw [String.toList_append, String.toList_append, String.toList_append, hbody, hsentence]
    simp only [List.append_assoc, List.nil_append]
  -- It begins with a letter, and its end is that of a text that is trimmed already.
  have hstart : IsFlush "create file ".toList := by decide
  have hend : IsFlush sentence.reverse := by
    rw [hsentence]
    simp only [List.reverse_append, List.append_assoc]
    exact (isFlush_reverse_trim _).append (by rwa [Ne, List.reverse_eq_nil_iff]) _
  rw [hwhole]
  exact trim_append rfl hafter (hstart.append (by decide) _) hend
    (List.append_ne_nil_of_left_ne_nil (by decide) _)

theorem plain_of_all {name : List Char} (h : name.all FileSentence.isNameChar = true) :
    ∀ c ∈ name, isBlank c = false ∧ isQuote c = false :=
  fun c hc => FileSentence.isNameChar_eq_true_iff.mp (List.all_eq_true.mp h c hc)

/-- A file is created with the text of the sentence in it, unless the text has the phrasebook read
    something, and then it is answered as if it stood alone. -/
theorem plan_create {name body : String} (hne : name ≠ "")
    (hname : ∀ c ∈ name.toList, isBlank c = false ∧ isQuote c = false)
    (hbody : isBlankText (unquote body.toList) = false) :
    (mentionsAny (lowerAscii body.toList) readingPhrases = false → '\n' ∉ trim body.toList →
      Phrasebook.plan ("create file " ++ name ++ " with text " ++ body) =
        .ok [.action
          ⟨.typeText, .file, some name, some (String.ofList (bare body.toList)), none⟩]) ∧
    (mentionsAny (lowerAscii body.toList) readingPhrases = true →
      Phrasebook.plan ("create file " ++ name ++ " with text " ++ body) = Phrasebook.plan body ∧
        ((∃ message, Phrasebook.plan body = .error (.ambiguousInstruction message)) ∨
          ∃ path, Phrasebook.plan body = .ok [.observation ⟨.readText, .file, path⟩] ∧
            path.toList <:+: body.toList)) := by
  have hbare : ¬ (bare body.toList).isEmpty = true := by
    rw [List.isEmpty_iff, bare, trim_eq_nil_iff, hbody]
    exact nofun
  have hfull : trim body.toList ≠ [] := by
    intro hnil
    rw [← bare_trim, hnil] at hbare
    exact hbare rfl
  rcases trim_wording name hfull with ⟨gap, hgap, hsentence⟩
  -- The words around the body ask for nothing to be read, so the body alone decides.
  have hreads : reading (trim ("create file " ++ name ++ " with text " ++ body).toList) =
      reading (trim body.toList) := by
    rw [hsentence]
    exact reading_wording (fun c hc => (hname c hc).1) hgap
  rw [← mentionsAny_readingPhrases_trim]
  constructor
  · -- The rule that reads passes, and the rule that creates comes next.
    intro hplain hline
    have hnone : reading (trim body.toList) = none := reading_eq_none_iff.mpr hplain
    refine plan_eq_of_creating (hreads.trans hnone) ?_
    have hchars : ∀ c ∈ name.toList, FileSentence.isNameChar c = true := fun c hc =>
      FileSentence.isNameChar_eq_true_iff.mpr (hname c hc)
    have hfilled : name.toList ≠ [] := fun hnil => hne (String.toList_eq_nil_iff.mp hnil)
    rw [hsentence, creating_wording hfilled hchars hgap hbare hline, String.ofList_toList]
  · -- The rule that reads decides, and it sees what it would see in the text alone.
    intro hphrase
    have hsome : reading (trim body.toList) ≠ none := by
      rw [Ne, reading_eq_none_iff, hphrase]
      exact nofun
    rcases Option.ne_none_iff_exists'.mp hsome with ⟨outcome, houtcome⟩
    have hplan : Phrasebook.plan body = outcome := plan_eq_of_reading houtcome
    refine ⟨(plan_eq_of_reading (hreads.trans houtcome)).trans hplan.symm, ?_⟩
    have hdecides := plan_decides body
    rw [hplan] at hdecides ⊢
    cases hdecides with
    | refuses message => exact .inl ⟨message, rfl⟩
    | reads _ hpath =>
        refine .inr ⟨_, rfl, ?_⟩
        rw [String.toList_ofList]
        exact hpath.isInfix.trans (trim_isInfix _)
    | acts hnone _ => exact absurd (hphrase.symm.trans hnone) nofun

theorem plan_create_wording :
    Phrasebook.plan ("create file " ++ "a.txt" ++ " with text " ++ " \"save and close it\"") =
      .ok [.action ⟨.typeText, .file, some "a.txt", some "save and close it", none⟩] ∧
    Phrasebook.plan ("create file " ++ "a.txt" ++ " with text " ++ "read file b.txt") =
      Phrasebook.plan "read file b.txt" :=
  ⟨(plan_create (by decide) (plain_of_all rfl) (by decide)).1 (by decide) (by decide),
    ((plan_create (by decide) (plain_of_all rfl) (by decide)).2 (by decide)).1⟩

/-- The words of the text turn the sentence into an instruction to read a file, and its second line
    turns it into one to close the editor. -/
theorem not_creates :
    Phrasebook.plan ("create file " ++ "a.txt" ++ " with text " ++ "please read file b.txt") =
      .ok [.observation ⟨.readText, .file, "b.txt"⟩] ∧
    Phrasebook.plan ("create file " ++ "a.txt" ++ " with text " ++ "hello\nclose it") =
      .ok [.action ⟨.closeApp, .desktop, some editor, none, none⟩] ∧
    ¬ ∀ name body : String, name ≠ "" →
      (∀ c ∈ name.toList, isBlank c = false ∧ isQuote c = false) →
      isBlankText (unquote body.toList) = false →
      Phrasebook.plan ("create file " ++ name ++ " with text " ++ body) =
        .ok [.action
          ⟨.typeText, .file, some name, some (String.ofList (bare body.toList)), none⟩] := by
  have hreads : Phrasebook.plan
      ("create file " ++ "a.txt" ++ " with text " ++ "please read file b.txt") =
      .ok [.observation ⟨.readText, .file, "b.txt"⟩] := by decide +kernel
  refine ⟨hreads, by decide +kernel, fun hcreates => ?_⟩
  have hcreated := hcreates "a.txt" "please read file b.txt" (by decide) (plain_of_all rfl)
    (by decide)
  rw [hreads] at hcreated
  exact absurd hcreated nofun

end Phrasebook

end ActionPlan
