import ActionPlan.Instruction.FileCreation
import ActionPlan.Proofs.Text.Verbatim

/-!
# Sentences that Create a File

A sentence is read from its verb on, one word after the other, and at every word the reader is left
with an end of the text. So the name and the text of a sentence are parts of the instruction
(`fileSentence?_isIn`), wherever it was found.

The other direction is about one way of writing the sentence. With the verb in front, nothing can
come in between but the name, and the name is where the reader has a choice: the word *named* may
introduce a name, or be one. If it is the name, the reader first takes the next word for the name,
misses *with* behind it and comes back (`fromName?_behind`). So the name is read as it is written,
whatever it is (`fileSentence?_wording`).

## Main definitions

* `FileSentence.IsIn`: The name and the text of the sentence are parts of a text.

## Theorems

* `fileSentence?_isIn`: A sentence that is found is in the text.
* `word?_eq_behind`: What a word leaves is what stands behind it.
* `fromName?_wording`, `fileSentence?_wording`: A name and a text are read as they are written.
-/

namespace ActionPlan

open Text

/-- What one of two readers finds. -/
theorem eq_some_of_orElse {α : Type} {first second : Option α} {a : α}
    (h : (first <|> second) = some a) : first = some a ∨ second = some a := by
  cases first with
  | none => exact .inr h
  | some _ => exact .inl h

namespace FileSentence

variable {text rest whole : List Char} {sentence : FileSentence}

/-! ### What is read -/

/-- The name and the text of the sentence are parts of the text, and the name is not blank. -/
structure IsIn (sentence : FileSentence) (text : List Char) : Prop where
  name : IsTaken sentence.name text
  text : sentence.text <:+: text

theorem IsIn.of_suffix (h : sentence.IsIn text) (htext : text <:+ whole) : sentence.IsIn whole :=
  ⟨h.name.of_isInfix htext.isInfix, h.text.trans htext.isInfix⟩

theorem afterBlanks?_suffix (h : afterBlanks? text = some rest) : rest <:+ text := by
  rcases afterBlanks?_eq_some h with ⟨gap, -, rfl, -⟩
  exact List.suffix_append gap rest

theorem word?_suffix {word : String} (h : word? word text = some rest) : rest <:+ text := by
  rcases Option.bind_eq_some_iff.mp h with ⟨behind, hword, hblanks⟩
  rcases afterWord?_eq_some_iff.mp hword with ⟨spelled, -, rfl⟩
  exact (afterBlanks?_suffix hblanks).trans (List.suffix_append spelled behind)

theorem optionalWord_suffix (word : String) (text : List Char) : optionalWord word text <:+ text := by
  unfold optionalWord
  rcases hword : word? word text with _ | rest
  · exact List.suffix_rfl
  · exact word?_suffix hword

theorem optionalQuote_suffix (text : List Char) : optionalQuote text <:+ text := by
  unfold optionalQuote
  split
  · exact List.suffix_rfl
  · split
    · exact List.suffix_cons _ _
    · exact List.suffix_rfl

theorem body?_eq_some (h : body? text = some rest) : rest = text := by
  unfold body? at h
  split at h
  · exact absurd h nofun
  · exact (Option.some.inj h).symm

/-- A name holds no blanks, so it is not blank if it is there at all. -/
theorem isBlankText_name {name : List Char} (hne : ¬ name.isEmpty = true)
    (hname : ∀ c ∈ name, isNameChar c = true) : isBlankText name = false := by
  rcases name with _ | ⟨c, name⟩
  · exact absurd rfl hne
  · have hc := hname c List.mem_cons_self
    rw [isNameChar, Bool.and_eq_true, Bool.not_eq_true'] at hc
    rw [isBlankText, List.all_cons, hc.1, Bool.false_and]

theorem fromName?_isIn (h : fromName? text = some sentence) : sentence.IsIn text := by
  have hquote := optionalQuote_suffix text
  unfold fromName? at h
  simp only at h
  split at h
  · exact absurd h nofun
  · next hne =>
    rcases Option.bind_eq_some_iff.mp h with ⟨first, hfirst, h⟩
    rcases Option.bind_eq_some_iff.mp h with ⟨second, hsecond, h⟩
    rcases Option.bind_eq_some_iff.mp h with ⟨third, hthird, h⟩
    rcases Option.bind_eq_some_iff.mp h with ⟨body, hbody, h⟩
    rw [← Option.some.inj h]
    refine ⟨⟨(List.takeWhile_prefix _).isInfix.trans hquote.isInfix, ?_⟩, ?_⟩
    · exact isBlankText_name hne fun _ hc => List.mem_takeWhile_imp hc
    · rw [body?_eq_some hbody]
      -- Every step goes on from an end of what the step before has left.
      have hlast : third <:+ optionalWord "the" second := by
        rcases eq_some_of_orElse hthird with htext | hcontent
        · exact word?_suffix htext
        · exact word?_suffix hcontent
      have hfirst := (afterBlanks?_suffix hfirst).trans (optionalQuote_suffix _)
      exact (((hlast.trans (optionalWord_suffix _ _)).trans (word?_suffix hsecond)).trans
        (hfirst.trans ((List.dropWhile_suffix _).trans hquote))).isInfix

theorem atHead?_isIn (h : atHead? text = some sentence) : sentence.IsIn text := by
  unfold atHead? at h
  rcases Option.bind_eq_some_iff.mp h with ⟨behind, hverb, h⟩
  rcases Option.bind_eq_some_iff.mp h with ⟨name, hfile, h⟩
  rcases List.exists_of_findSome?_eq_some hverb with ⟨verb, -, hverb⟩
  -- Every word that is taken leaves an end of what was there before it.
  have hname : name <:+ text :=
    (word?_suffix hfile).trans ((optionalWord_suffix _ _).trans
      ((optionalWord_suffix _ _).trans (word?_suffix hverb)))
  -- There may be a word in front of the name, and then the name stands behind that.
  rcases eq_some_of_orElse h with hnamed | hplain
  · rcases Option.bind_eq_some_iff.mp hnamed with ⟨rest, hword, hrest⟩
    have hsuffix : rest <:+ name := by
      rcases eq_some_of_orElse hword with hword | hword
      · exact word?_suffix hword
      · exact word?_suffix hword
    exact (fromName?_isIn hrest).of_suffix (hsuffix.trans hname)
  · exact (fromName?_isIn hplain).of_suffix hname

theorem find?_isIn {inside : Bool} (h : find? inside text = some sentence) :
    sentence.IsIn text := by
  induction text generalizing inside with
  | nil => exact absurd h nofun
  | cons c text ih =>
      unfold find? at h
      rcases eq_some_of_orElse h with hhere | hlater
      · split at hhere
        · exact absurd hhere nofun
        · exact atHead?_isIn hhere
      · exact (ih hlater).of_suffix (List.suffix_cons c text)

end FileSentence

/-- A sentence that is found is in the text. -/
theorem fileSentence?_isIn {text : List Char} {sentence : FileSentence}
    (h : fileSentence? text = some sentence) : sentence.IsIn text :=
  FileSentence.find?_isIn h

/-! ### How a name is read -/

namespace FileSentence

variable {text rest name gap body : List Char}

/-- A word is over where the blanks begin, and what it leaves begins where they end. -/
theorem word?_eq_behind {word : String} (h : word? word text = some rest)
    (hplain : word.toList.all (fun c => c != 'k' && c != 's' && !isBlank c) = true) :
    rest = (text.dropWhile (!isBlank ·)).dropWhile isBlank := by
  rcases Option.bind_eq_some_iff.mp h with ⟨behind, hword, hblanks⟩
  rcases afterWord?_eq_some_iff.mp hword with ⟨spelled, hspelled, rfl⟩
  rcases afterBlanks?_eq_some hblanks with ⟨gap, ⟨hne, hgap⟩, rfl, hflush⟩
  simp only [List.all_eq_true, Bool.and_eq_true] at hplain
  -- The word has neither a k nor an s, which other characters have as their small letters.
  have hlower : lowerAscii spelled = word.toList :=
    hspelled.lowerAscii_eq (List.all_eq_true.mpr fun c hc => Bool.and_eq_true _ _ ▸ (hplain c hc).1)
  -- No blank becomes a character of the word, so the first blank is behind it.
  have hfull : ∀ c ∈ spelled, (!isBlank c) = true := by
    intro c hc
    have hmem : c.toLower ∈ word.toList := hlower ▸ List.mem_map_of_mem hc
    rw [← isBlank_toLower]
    exact (hplain _ hmem).2
  obtain ⟨b, gap, rfl⟩ := List.exists_cons_of_ne_nil hne
  have hb : isBlank b = true := isBlankText_iff.mp hgap b List.mem_cons_self
  rw [List.dropWhile_append_of_pos hfull, List.cons_append,
    List.dropWhile_cons_of_neg (by rw [hb]; exact nofun), ← List.cons_append,
    dropWhile_blank_append hgap, dropWhile_of_isFlush hflush]

theorem isNameChar_eq_true_iff {c : Char} :
    isNameChar c = true ↔ isBlank c = false ∧ isQuote c = false := by
  rw [isNameChar, Bool.and_eq_true, Bool.not_eq_true', Bool.not_eq_true']

/-- A name is read as it is written, and so is the text behind it. -/
theorem fromName?_wording (hne : name ≠ []) (hname : ∀ c ∈ name, isNameChar c = true)
    (hgap : isBlankText gap = true) (hflush : IsFlush body) (hbody : body ≠ [])
    (hline : '\n' ∉ body) :
    fromName? (name ++ (" with text ".toList ++ (gap ++ body))) = some ⟨name, body⟩ := by
  have hquote : optionalQuote (name ++ (" with text ".toList ++ (gap ++ body))) =
      name ++ (" with text ".toList ++ (gap ++ body)) := by
    obtain ⟨c, name, rfl⟩ := List.exists_cons_of_ne_nil hne
    have hc := (isNameChar_eq_true_iff.mp (hname c List.mem_cons_self)).2
    rw [List.cons_append, optionalQuote, if_neg (by rw [hc]; exact Bool.false_ne_true)]
  have htake : (name ++ (" with text ".toList ++ (gap ++ body))).takeWhile isNameChar = name := by
    rw [List.takeWhile_append_of_pos hname]
    simp only [String.reduceToList]
    exact List.append_nil name
  have hdrop : (name ++ (" with text ".toList ++ (gap ++ body))).dropWhile isNameChar =
      " with text ".toList ++ (gap ++ body) := by
    rw [List.dropWhile_append_of_pos hname]
    simp only [String.reduceToList]
    rfl
  have hblanks : (gap ++ body).dropWhile isBlank = body := by
    rw [dropWhile_blank_append hgap, dropWhile_of_isFlush hflush]
  -- What stands between the name and the text is fixed, and leaves only the text.
  have hwith : afterBlanks? (optionalQuote (" with text ".toList ++ (gap ++ body))) =
      some ("with text ".toList ++ (gap ++ body)) := by
    simp only [String.reduceToList]
    rfl
  have htext : word? "with" ("with text ".toList ++ (gap ++ body)) =
      some ("text ".toList ++ (gap ++ body)) := by
    simp only [String.reduceToList]
    rfl
  have hthe : optionalWord "the" ("text ".toList ++ (gap ++ body)) =
      "text ".toList ++ (gap ++ body) := by
    simp only [String.reduceToList]
    rfl
  have hrest : (word? "text" ("text ".toList ++ (gap ++ body)) <|>
      word? "content" ("text ".toList ++ (gap ++ body))) = some body := by
    simp only [String.reduceToList]
    exact congrArg some hblanks
  have hwhole : body? body = some body := by
    unfold body?
    rw [List.isEmpty_eq_false_iff.mpr hbody, Bool.false_or, if_neg]
    rw [List.contains_iff_mem]
    exact hline
  unfold fromName?
  simp only [hquote, htake, hdrop, List.isEmpty_iff, if_neg hne, hwith, htext, hthe, hrest, hwhole,
    Option.bind_eq_bind, Option.bind_some]

/-- Behind a name that could introduce another name, there is no name. -/
theorem fromName?_behind {word : String} (hname : ∀ c ∈ name, isNameChar c = true)
    (hplain : word.toList.all (fun c => c != 'k' && c != 's' && !isBlank c) = true)
    (h : word? word (name ++ (" with text ".toList ++ body)) = some rest) :
    fromName? rest = none := by
  have hfull : ∀ c ∈ name, (!isBlank c) = true := fun c hc => by
    rw [(isNameChar_eq_true_iff.mp (hname c hc)).1]
    rfl
  -- Whatever the word is, it is over before the gap, which leaves the words that ask for a text.
  have hrest : rest = "with text ".toList ++ body := by
    rw [word?_eq_behind h hplain, List.dropWhile_append_of_pos hfull]
    simp only [String.reduceToList]
    rfl
  -- Taken for a name, the first of these words would have to be followed by `with`.
  rw [hrest]
  simp only [String.reduceToList]
  rfl

theorem atHead?_wording (hne : name ≠ []) (hname : ∀ c ∈ name, isNameChar c = true)
    (hgap : isBlankText gap = true) (hflush : IsFlush body) (hbody : body ≠ [])
    (hline : '\n' ∉ body) :
    atHead? ("create file ".toList ++ (name ++ (" with text ".toList ++ (gap ++ body)))) =
      some ⟨name, body⟩ := by
  set text := name ++ (" with text ".toList ++ (gap ++ body)) with htext
  have hverb : (verbs.findSome? fun verb => word? verb ("create file ".toList ++ text)) =
      some ("file ".toList ++ text) := by
    simp only [String.reduceToList]
    rfl
  have hnew : optionalWord "new" (optionalWord "a" ("file ".toList ++ text)) =
      "file ".toList ++ text := by
    simp only [String.reduceToList]
    rfl
  have hfile : word? "file" ("file ".toList ++ text) = some text := by
    have hstart : IsFlush text := by
      obtain ⟨c, name, rfl⟩ := List.exists_cons_of_ne_nil hne
      intro d hd
      rw [← Option.some.inj hd]
      exact (isNameChar_eq_true_iff.mp (hname c List.mem_cons_self)).1
    simp only [String.reduceToList]
    exact congrArg some (dropWhile_of_isFlush hstart)
  have hplain : fromName? text = some ⟨name, body⟩ :=
    fromName?_wording hne hname hgap hflush hbody hline
  -- A name that could introduce another one is tried as such first, in vain.
  have hnamed : ((word? "named" text <|> word? "called" text) >>= fromName?) = none := by
    rcases hword : (word? "named" text <|> word? "called" text) with _ | rest
    · rfl
    · change fromName? rest = none
      rcases eq_some_of_orElse hword with hword | hword
      · exact fromName?_behind hname (by decide) hword
      · exact fromName?_behind hname (by decide) hword
  unfold atHead?
  simp only [hverb, hnew, hfile, Option.bind_eq_bind, Option.bind_some]
  change (((word? "named" text <|> word? "called" text) >>= fromName?) <|> fromName? text) = _
  rw [hnamed, hplain]
  rfl

end FileSentence

/-- At the head of a text no word can have begun before. -/
theorem fileSentence?_of_atHead? {text : List Char} {sentence : FileSentence}
    (h : FileSentence.atHead? text = some sentence) : fileSentence? text = some sentence := by
  cases text with
  | nil => exact absurd h nofun
  | cons c text =>
      change (FileSentence.atHead? (c :: text) <|> _) = _
      rw [h]
      rfl

/-- The sentence is read as it is written, whatever the name and the text are, if the text stands on
    one line. -/
theorem fileSentence?_wording {name gap body : List Char} (hne : name ≠ [])
    (hname : ∀ c ∈ name, FileSentence.isNameChar c = true) (hgap : isBlankText gap = true)
    (hflush : IsFlush body) (hbody : body ≠ []) (hline : '\n' ∉ body) :
    fileSentence? ("create file ".toList ++ (name ++ (" with text ".toList ++ (gap ++ body)))) =
      some ⟨name, body⟩ :=
  fileSentence?_of_atHead? (FileSentence.atHead?_wording hne hname hgap hflush hbody hline)

end ActionPlan
