import ActionPlan.Instruction.Phrasebook
import ActionPlan.Proofs.Instruction.FileSentence
import ActionPlan.Proofs.Item.Fields

/-!
# What the Phrasebook Can Say

The phrasebook has nine rules. The first one reads, and each of the others makes one form of plan.
The forms are listed in `Phrasebook.Acts`, together with the texts that go into them, and the rules
are opened here only. Whatever else is to be known about the plans of the phrasebook is read off the
list.

The items are made by the constructors that check fields, but no check ever fails. A field is a
constant, or it is cut out of the instruction and holds more than blanks: what is left of a text
without blanks around it is not blank unless nothing is left, a name holds no blanks at all, and a
number of seconds begins with a digit, which in no script is a blank (`isBlank_of_isDigit`). So a
rule that acts never fails, and the rule that reads fails only if no path is left.

## Main definitions

* `Phrasebook.readingPhrases`: The phrases of reading that the phrasebook knows.
* `Phrasebook.dictation`: The one plan of two items.
* `Phrasebook.Acts`: The plans of the rules that do not read.
* `Phrasebook.Decides`: What the phrasebook decides about a text.

## Theorems

* `isTaken_seconds`: A number of seconds is a part of the text it is read from.
* `isTaken_bare`: What is bare may stand in an item.
* `reading_eq_none_iff`: When the phrasebook does not take an instruction for one of reading.
* `reading_cases`: What the rule that reads makes of one.
* `singleAction_make`: The check on fields that are not blank.
* `rules_isAct`: What the other rules make.
* `plan_decides`: What the phrasebook decides about an instruction.
-/

namespace ActionPlan

open Text

/-! ### Numbers of seconds -/

namespace Text

/-- The digits of all scripts lie apart from the small letters and the blanks. -/
theorem digitRuns_apart : ∀ run ∈ digitRuns, (run.2 < 97 ∨ 122 < run.1) ∧
    (run.2 < 9 ∨ 13 < run.1) ∧ (∀ blank ∈ [0x20, 0x85, 0xA0, 0x1680, 0x2028, 0x2029, 0x202F, 0x205F,
      0x3000], run.2 < blank ∨ blank < run.1) ∧ (run.2 < 0x2000 ∨ 0x200A < run.1) := by
  decide

theorem not_small_of_isDigit {c : Char} (h : isDigit c = true) :
    ¬ (97 ≤ c.toNat ∧ c.toNat ≤ 122) := by
  rcases List.any_eq_true.mp h with ⟨run, hrun, hin⟩
  have hapart := (digitRuns_apart run hrun).1
  rw [Bool.and_eq_true, decide_eq_true_iff, decide_eq_true_iff] at hin
  omega

theorem isBlank_of_isDigit {c : Char} (h : isDigit c = true) : isBlank c = false := by
  rcases List.any_eq_true.mp h with ⟨run, hrun, hin⟩
  rcases digitRuns_apart run hrun with ⟨-, hcontrol, hsingle, hspace⟩
  rw [Bool.and_eq_true, decide_eq_true_iff, decide_eq_true_iff] at hin
  simp only [List.forall_mem_cons, List.not_mem_nil, false_imp_iff, implies_true, and_true]
    at hsingle
  simp only [isBlank, Bool.or_eq_false_iff, Bool.and_eq_false_iff, decide_eq_false_iff_not,
    beq_eq_false_iff_ne]
  omega

end Text

namespace Phrasebook

variable {text number : List Char}

/-- What may be a number at the head of a text: digits and points, and one digit at least. -/
def IsAmount (number text : List Char) : Prop :=
  number <+: text ∧ (∀ c ∈ number, isDigit c = true ∨ c = '.') ∧ ∃ c ∈ number, isDigit c = true

theorem isAmount_whole (hwhole : ¬ (text.takeWhile isDigit).isEmpty = true) :
    IsAmount (text.takeWhile isDigit) text := by
  refine ⟨List.takeWhile_prefix _, fun c hc => .inl (List.mem_takeWhile_imp hc), ?_⟩
  rw [List.isEmpty_iff] at hwhole
  exact ⟨_, List.head_mem hwhole, List.mem_takeWhile_imp (List.head_mem hwhole)⟩

theorem isAmount_fraction {rest : List Char} (hwhole : ¬ (text.takeWhile isDigit).isEmpty = true)
    (hrest : text.dropWhile isDigit = '.' :: rest) :
    IsAmount (text.takeWhile isDigit ++ '.' :: rest.takeWhile isDigit) text := by
  rcases isAmount_whole hwhole with ⟨-, hall, digit, hmem, hdigit⟩
  refine ⟨?_, ?_, digit, List.mem_append_left _ hmem, hdigit⟩
  · -- The digits, the point, and the digits behind it are the beginning of the text.
    refine ⟨rest.dropWhile isDigit, ?_⟩
    rw [List.append_assoc, List.cons_append, List.takeWhile_append_dropWhile, ← hrest,
      List.takeWhile_append_dropWhile]
  · intro c hc
    -- And they consist of digits and that point.
    rcases List.mem_append.mp hc with hc | hc
    · exact hall c hc
    · rcases List.mem_cons.mp hc with rfl | hc
      · exact .inr rfl
      · exact .inl (List.mem_takeWhile_imp hc)

theorem isAmount_of_secondsAtHead? (h : secondsAtHead? text = some number) :
    IsAmount number text := by
  unfold secondsAtHead? at h
  simp only at h
  split at h
  · exact absurd h nofun
  · next hwhole =>
    -- There may be a fraction, and whatever the number is, the unit has to follow it.
    have hchoice : ∀ {amount rest : List Char}, IsAmount amount text →
        (if (rest.dropWhile isBlank).head? == some 's' then some amount else none) = some number →
        IsAmount number text := by
      intro amount rest hamount hunit
      split at hunit
      · rwa [← Option.some.inj hunit]
      · exact absurd hunit nofun
    split at h
    · next rest hrest =>
      by_cases hfraction : (rest.takeWhile isDigit).isEmpty = true
      · rw [if_pos hfraction] at h
        exact hchoice (isAmount_whole hwhole) h
      · rw [if_neg hfraction] at h
        exact hchoice (isAmount_fraction hwhole hrest) h
    · exact hchoice (isAmount_whole hwhole) h

theorem isAmount_of_seconds? (h : seconds? text = some number) :
    ∃ part, part <:+ text ∧ IsAmount number part := by
  induction text with
  | nil => exact absurd h nofun
  | cons c text ih =>
      unfold seconds? at h
      split at h
      · -- The seconds are named right here.
        next hhere =>
        rw [← Option.some.inj h]
        exact ⟨_, List.suffix_rfl, isAmount_of_secondsAtHead? hhere⟩
      · -- They are named later, in an end of the text.
        rcases ih h with ⟨part, hpart, hamount⟩
        exact ⟨part, hpart.trans (List.suffix_cons c text), hamount⟩

/-- A number of seconds is a part of the text, although it is read from the copy. -/
theorem isTaken_seconds (h : seconds? (lowerAscii text) = some number) : IsTaken number text := by
  rcases isAmount_of_seconds? h with ⟨part, hpart, hhead, hall, digit, hmem, hdigit⟩
  -- The copy differs from the text in letters only, and in a number there are none.
  refine ⟨infix_of_lowerAscii ?_ (hhead.isInfix.trans hpart.isInfix), ?_⟩
  · intro c hc
    rcases hall c hc with hc | rfl
    · exact not_small_of_isDigit hc
    · decide
  · refine Bool.eq_false_iff.mpr fun hblank => ?_
    have hblank := isBlankText_iff.mp hblank digit hmem
    rw [isBlank_of_isDigit hdigit] at hblank
    exact absurd hblank nofun

/-! ### What is bare -/

theorem bare_isInfix (text : List Char) : bare text <:+: text :=
  (trim_isInfix _).trans ((strip_isInfix _ _).trans (trim_isInfix text))

/-- What is bare is not blank unless nothing is left. -/
theorem isTaken_bare (h : ¬ (bare text).isEmpty = true) : IsTaken (bare text) text :=
  ⟨bare_isInfix text, trim_not_blank fun hnil => h (List.isEmpty_iff.mpr hnil)⟩

end Phrasebook

theorem Text.IsTaken.nonBlank {part text : List Char} (h : IsTaken part text) :
    nonBlank (some (String.ofList part)) = some (String.ofList part) := by
  refine nonBlank_eq_some_iff.mpr ⟨rfl, ?_⟩
  rw [String.toList_ofList]
  exact h.filled

namespace Phrasebook

variable {text : List Char} {outcome : Except PlanError Plan}

/-! ### The rule that reads -/

/-- The phrases of reading that the phrasebook knows. -/
def readingPhrases : List String :=
  ["read text from file", "read file"]

theorem reading_eq_none_iff :
    reading text = none ↔ mentionsAny (lowerAscii text) readingPhrases = false := by
  unfold reading readingPhrases mentionsAny
  simp only [List.any_cons, List.any_nil, Bool.or_false, Bool.or_eq_false_iff,
    ← afterPhrase?_eq_none_iff, Option.bind_eq_bind, Option.orElse_eq_orElse,
    Option.orElse_eq_or, ← Option.or_eq_none_iff, Option.bind_eq_none_iff]
  constructor
  · intro h
    by_contra hsome
    rcases Option.ne_none_iff_exists'.mp hsome with ⟨rest, hrest⟩
    -- The rule decides, whether or not a path is left.
    have hnone := h rest hrest
    split at hnone
    · exact absurd hnone nofun
    · exact absurd hnone nofun
  · intro hnone rest hrest
    rw [hnone] at hrest
    exact absurd hrest nofun

theorem readFile_of_isTaken {path : List Char} (h : IsTaken path text) :
    Observation.readFile (String.ofList path) = .ok ⟨.readText, .file, String.ofList path⟩ := by
  unfold Observation.readFile Observation.make
  rw [h.nonBlank]

/-- The rule that reads decides by what stands behind the first phrase that occurs, whether or not
    there is a path. -/
theorem reading_cases (h : reading text = some outcome) :
    ∃ phrase ∈ readingPhrases, ∃ rest, afterPhrase? phrase text = some rest ∧
      ((bare rest = [] ∧ outcome =
        .error (.ambiguousInstruction "could not extract filename from read instruction")) ∨
      (IsTaken (bare rest) rest ∧
        outcome = .ok [.observation ⟨.readText, .file, String.ofList (bare rest)⟩])) := by
  unfold reading at h
  rcases Option.bind_eq_some_iff.mp h with ⟨rest, hrest, h⟩
  -- The first phrase is tried first, and the second one only without it.
  have hphrase : ∃ phrase ∈ readingPhrases, afterPhrase? phrase text = some rest := by
    rcases eq_some_of_orElse hrest with hrest | hrest
    · exact ⟨_, List.mem_cons_self, hrest⟩
    · exact ⟨_, List.mem_cons_of_mem _ List.mem_cons_self, hrest⟩
  rcases hphrase with ⟨phrase, hphrase, hafter⟩
  refine ⟨phrase, hphrase, rest, hafter, ?_⟩
  simp only at h
  split at h
  · -- A phrase was found and no path, so the rule answers with an error.
    next hempty => exact .inl ⟨List.isEmpty_iff.mp hempty, (Option.some.inj h).symm⟩
  · -- Quotes and blanks around the path are dropped, and it is still a part of the text.
    next hpath =>
    rw [readFile_of_isTaken (isTaken_bare hpath)] at h
    exact .inr ⟨isTaken_bare hpath, (Option.some.inj h).symm⟩

/-! ### The rules that act -/

/-- The launch of the editor, and keystrokes for it. -/
def dictation (typed : String) : Plan :=
  [.action ⟨.launchApp, .desktop, some editor, none, none⟩, .action (.keystrokes typed)]

/-- The plans of the rules that do not read, and the texts in them. -/
inductive Acts (text : List Char) : Plan → Prop
  | creating {name body : List Char} (hname : IsTaken name text) (hbody : IsTaken body text) :
      Acts text [.action
        ⟨.typeText, .file, some (String.ofList name), some (String.ofList body), none⟩]
  | openingAndTyping {typed : List Char} (htyped : IsTaken typed text) :
      Acts text (dictation (String.ofList typed))
  | typing {typed : List Char} (htyped : IsTaken typed text) :
      Acts text [.action (.keystrokes (String.ofList typed))]
  | opening : Acts text [.action ⟨.launchApp, .desktop, some editor, none, none⟩]
  | focusing {window : List Char} (hwindow : IsTaken window text) :
      Acts text [.action ⟨.focusWindow, .desktop, some (String.ofList window), none, none⟩]
  | closing : Acts text [.action ⟨.closeApp, .desktop, some editor, none, none⟩]
  | saving : Acts text [.action (.keystrokes saveShortcut)]
  | waiting {number : List Char} (hnumber : IsTaken number text) :
      Acts text [.action ⟨.wait, .desktop, some (String.ofList number), none, none⟩]

/-- A plan, and not an error, that is made by a rule that does not read. -/
def IsAct (text : List Char) (outcome : Except PlanError Plan) : Prop :=
  ∃ plan, outcome = .ok plan ∧ Acts text plan

theorem singleAction_make {kind : ActionKind} {context : Context} {target text : Option String}
    (htarget : nonBlank target = target) (htext : nonBlank text = text)
    (hcheck : Action.check ⟨kind, context, target, text, none⟩ = .ok ()) :
    singleAction (Action.make kind context target text) =
      .ok [.action ⟨kind, context, target, text, none⟩] := by
  have hmake : Action.make kind context target text = .ok ⟨kind, context, target, text, none⟩ :=
    Action.make_eq_ok_iff.mpr ⟨by rw [htarget, htext], hcheck⟩
  rw [hmake]
  rfl

theorem creating_isAct (h : creating text = some outcome) : IsAct text outcome := by
  unfold creating at h
  rcases Option.bind_eq_some_iff.mp h with ⟨sentence, hsentence, h⟩
  simp only at h
  split at h
  · exact absurd h nofun
  · next hbody =>
    -- The name stays as the sentence has it, and the text loses its quotation marks.
    have hin := fileSentence?_isIn hsentence
    have htaken := isTaken_bare hbody
    refine ⟨_, ?_, .creating hin.name (htaken.of_isInfix hin.text)⟩
    rw [← Option.some.inj h]
    exact singleAction_make hin.name.nonBlank htaken.nonBlank rfl

theorem openingAndTyping_isAct (h : openingAndTyping text = some outcome) :
    IsAct text outcome := by
  unfold openingAndTyping at h
  split at h
  · rcases Option.bind_eq_some_iff.mp h with ⟨rest, hrest, h⟩
    simp only at h
    split at h
    · -- Nothing is left to be typed, so the rule passes.
      exact absurd h nofun
    · next htyped =>
      have htaken := (isTaken_bare htyped).of_isInfix (afterPhrase?_suffix hrest).isInfix
      exact ⟨_, (Option.some.inj h).symm, .openingAndTyping htaken⟩
  · exact absurd h nofun

theorem typing_isAct (h : typing text = some outcome) : IsAct text outcome := by
  unfold typing at h
  simp only at h
  split at h
  · split at h
    · exact absurd h nofun
    · -- The phrase ends where the text is cut, and what is typed comes from the rest.
      next htyped =>
      have htaken := (isTaken_bare htyped).of_isInfix (List.drop_suffix _ text).isInfix
      exact ⟨_, (Option.some.inj h).symm, .typing htaken⟩
  · exact absurd h nofun

theorem opening_isAct (h : opening text = some outcome) : IsAct text outcome := by
  unfold opening at h
  simp only at h
  split at h
  · exact ⟨_, (Option.some.inj h).symm, .opening⟩
  · exact absurd h nofun

theorem focusing_isAct (h : focusing text = some outcome) : IsAct text outcome := by
  unfold focusing at h
  rcases Option.bind_eq_some_iff.mp h with ⟨rest, hrest, h⟩
  -- There are two phrases of focusing, and the window is named behind the one that is found.
  have hsuffix : rest <:+ text := by
    rcases eq_some_of_orElse hrest with hrest | hrest
    · exact afterPhrase?_suffix hrest
    · exact afterPhrase?_suffix hrest
  simp only at h
  split at h
  · exact absurd h nofun
  · next hwindow =>
    have htaken := (isTaken_trim hwindow).of_isInfix hsuffix.isInfix
    refine ⟨_, ?_, .focusing htaken⟩
    rw [← Option.some.inj h]
    exact singleAction_make htaken.nonBlank rfl rfl

theorem closing_isAct (h : closing text = some outcome) : IsAct text outcome := by
  unfold closing at h
  split at h
  · exact ⟨_, (Option.some.inj h).symm, .closing⟩
  · exact absurd h nofun

theorem saving_isAct (h : saving text = some outcome) : IsAct text outcome := by
  unfold saving at h
  split at h
  · exact ⟨_, (Option.some.inj h).symm, .saving⟩
  · exact absurd h nofun

theorem waiting_isAct (h : waiting text = some outcome) : IsAct text outcome := by
  unfold waiting at h
  simp only at h
  split at h
  · rcases Option.bind_eq_some_iff.mp h with ⟨number, hnumber, h⟩
    split at h
    · -- That the number can be read does not matter here, only where it is from.
      have htaken := isTaken_seconds hnumber
      refine ⟨_, ?_, .waiting htaken⟩
      rw [← Option.some.inj h]
      exact singleAction_make htaken.nonBlank rfl rfl
    · exact absurd h nofun
  · exact absurd h nofun

/-- A rule that does not read never fails. -/
theorem rules_isAct {rule : List Char → Outcome} (hrule : rule ∈ rules.tail)
    (h : rule text = some outcome) : IsAct text outcome := by
  -- The rule in front of these is the one that reads.
  simp only [rules, List.tail_cons, List.mem_cons, List.not_mem_nil, or_false] at hrule
  rcases hrule with rfl | rfl | rfl | rfl | rfl | rfl | rfl | rfl
  · exact creating_isAct h
  · exact openingAndTyping_isAct h
  · exact typing_isAct h
  · exact opening_isAct h
  · exact focusing_isAct h
  · exact closing_isAct h
  · exact saving_isAct h
  · exact waiting_isAct h

/-! ### The phrasebook -/

/-- What the phrasebook decides about a text. -/
inductive Decides (text : List Char) : Except PlanError Plan → Prop
  | refuses (message : String) : Decides text (.error (.ambiguousInstruction message))
  | reads {path : List Char} (hphrase : mentionsAny (lowerAscii text) readingPhrases = true)
      (hpath : IsTaken path text) :
      Decides text (.ok [.observation ⟨.readText, .file, String.ofList path⟩])
  | acts {plan : Plan} (hphrase : mentionsAny (lowerAscii text) readingPhrases = false)
      (hacts : Acts text plan) : Decides text (.ok plan)

theorem reading_decides (h : reading text = some outcome) : Decides text outcome := by
  have hphrase : mentionsAny (lowerAscii text) readingPhrases = true := by
    by_contra hnone
    rw [Bool.not_eq_true, ← reading_eq_none_iff, h] at hnone
    exact absurd hnone nofun
  rcases reading_cases h with ⟨phrase, -, rest, hafter, ⟨-, rfl⟩ | ⟨hpath, rfl⟩⟩
  · exact .refuses _
  · exact .reads hphrase (hpath.of_isInfix (afterPhrase?_suffix hafter).isInfix)

/-- The phrasebook reads, or acts, or refuses, and it acts only where it is not told to read. -/
theorem plan_decides (instruction : String) :
    Decides (trim instruction.toList) (Phrasebook.plan instruction) := by
  unfold Phrasebook.plan
  simp only
  split
  · next outcome houtcome =>
    -- The rule that reads comes first, so the others only decide if it passes.
    change (reading :: rules.tail).findSome? _ = _ at houtcome
    rw [List.findSome?_cons] at houtcome
    split at houtcome
    · next first hfirst =>
      rw [← Option.some.inj houtcome]
      exact reading_decides hfirst
    · next hnone =>
      rcases List.exists_of_findSome?_eq_some houtcome with ⟨rule, hrule, hdecides⟩
      rcases rules_isAct hrule hdecides with ⟨plan, rfl, hacts⟩
      exact .acts (reading_eq_none_iff.mp hnone) hacts
  · exact .refuses _

end Phrasebook

end ActionPlan
