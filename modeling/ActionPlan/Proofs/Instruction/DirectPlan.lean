import ActionPlan.Proofs.Instruction.Keywords
import ActionPlan.Proofs.Instruction.Route
import ActionPlan.Proofs.Text.Verbatim
import ActionPlan.Proofs.Text.Words

/-!
# What a Direct Plan Looks Like

A direct plan is made from the instruction alone, and what it says is taken from the instruction.
A look at a file has the target that the instruction names. A launch has a check attached, and the
text of that check is what stands behind the phrase that asks for it. Two choices are hidden in
this. Several phrases may occur, and the first of the list counts, not the first of the text; that
phrase may occur more than once, and then its first place counts. `IsFirstPhrase` and `IsBehind`
say both without a search.

The text itself is put together again from the words behind the phrase, so blanks in it are single
spaces, and fillers are left out. Taking it apart gives these words back (`words_joinWords`), and
so the text is known from its words.

Reading comes before verifying. If the file is known, a phrase of verifying has no say: there is a
look at the file, or the file is refused (`route_of_readTarget?`).

## Main definitions

* `IsFirstPhrase`: The phrase of a list that counts.
* `IsVerified`: The text that an instruction wants verified.
* `IsDirectPlan`: The two forms of a direct plan.

## Theorems

* `isVerified_of_verifiedText?`: Where the text of a check comes from.
* `launch_of_verification?`: The launch with the check attached.
* `isDirectPlan_of_route_direct`: A direct plan has one of the two forms.
* `route_of_readTarget?`: What becomes of an instruction whose file is known.
* `route_isDirectPlan`: Both together.
-/

namespace ActionPlan

open Text

/-- The phrase occurs in the text, in whatever casing, and no earlier one of the list does. -/
def Text.IsFirstPhrase (phrases : List String) (text : List Char) (phrase : String) : Prop :=
  ∃ earlier later, phrases = earlier ++ phrase :: later ∧ phrase.toList <:+: lowerAscii text ∧
    ∀ other ∈ earlier, ¬ other.toList <:+: lowerAscii text

theorem Text.isFirstPhrase_of_find? {phrases : List String} {text : List Char} {phrase : String}
    (h : phrases.find? (mentions (lowerAscii text)) = some phrase) :
    IsFirstPhrase phrases text phrase := by
  rcases List.find?_eq_some_iff_append.mp h with ⟨hphrase, earlier, later, hphrases, hearlier⟩
  refine ⟨earlier, later, hphrases, contains_iff.mp hphrase, fun other hother hfound => ?_⟩
  have hnot := hearlier other hother
  rw [mentions, contains_iff.mpr hfound] at hnot
  exact absurd hnot Bool.false_ne_true

namespace Instruction

/-! ### The text of a check -/

/-- A text that the instruction wants verified: the words behind the first place of the phrase
    that counts, without fillers and with single spaces between them. -/
structure IsVerified (instruction text : List Char) : Prop where
  filled : text ≠ []
  joined : text = joinWords (words text)
  noFiller : ∀ word ∈ words text, lowerAscii word ≠ "that".toList ∧ lowerAscii word ≠ "the".toList
  source : ∃ phrase rest, IsFirstPhrase verifyPhrases instruction phrase ∧
    IsBehind phrase instruction rest ∧ words text = (words rest).filter (!isFiller ·)

/-- Fillers are these two words, in any casing. -/
theorem isFiller_iff {word : List Char} :
    isFiller word = true ↔ lowerAscii word = "that".toList ∨ lowerAscii word = "the".toList := by
  have hsmall : lowerAscii "that".toList = "that".toList ∧
      lowerAscii "the".toList = "the".toList := by decide
  simp only [isFiller, fillerWords, List.any_cons, List.any_nil, Bool.or_false, Bool.or_eq_true,
    sameIgnoringCase, beq_iff_eq, hsmall.1, hsmall.2]

theorem isVerified_of_verifiedText? {instruction text : List Char}
    (h : verifiedText? instruction = some text) : IsVerified instruction text := by
  unfold verifiedText? at h
  rcases Option.bind_eq_some_iff.mp h with ⟨phrase, hphrase, h⟩
  rcases Option.bind_eq_some_iff.mp h with ⟨rest, hrest, h⟩
  rcases Option.map_eq_some_iff.mp hrest with ⟨untrimmed, hbehind, rfl⟩
  simp only at h
  split at h
  · exact absurd h nofun
  · next hfilled =>
    rw [List.isEmpty_iff] at hfilled
    rw [Option.some.injEq] at h
    rw [h] at hfilled
    -- The words that are put together are found again.
    have hwords : words text = (words untrimmed).filter (!isFiller ·) := by
      rw [← h, words_trim]
      exact words_joinWords fun word hword => isWord_of_mem_words (List.mem_of_mem_filter hword)
    refine ⟨hfilled, ?_, fun word hword => ?_,
      phrase, untrimmed, isFirstPhrase_of_find? hphrase, isBehind_of_afterPhrase? hbehind, hwords⟩
    · rw [hwords, ← h, words_trim]
    · rw [hwords] at hword
      have hnot := (List.mem_filter.mp hword).2
      rw [Bool.not_eq_true', ← Bool.not_eq_true, isFiller_iff, not_or] at hnot
      exact hnot

/-! ### The two forms -/

/-- A direct plan is a look at a file that the rule accepts, or a launch that has a check of a
    verified text attached. -/
inductive IsDirectPlan (rule : PathRule) (instruction : String) : Plan → Prop
  | look {target : String} (htarget : isBlankText target.toList = false)
      (hrule : (rule target).isOk = true) :
      IsDirectPlan rule instruction [.observation ⟨.readText, .file, target⟩]
  | check {context : Context} {target value : String}
      (htarget : isBlankText target.toList = false)
      (hvalue : IsVerified instruction.toList value.toList) :
      IsDirectPlan rule instruction [.action {
        kind := .launchApp, context, target := some target,
        verification := some (.textVisible value) }]

/-- A file can be looked at if its name is not blank. -/
theorem readFile_eq_ok_iff {target : String} {observation : Observation} :
    Observation.readFile target = .ok observation ↔
      observation = ⟨.readText, .file, target⟩ ∧ isBlankText target.toList = false := by
  -- A look at a file asks for nothing but a target that is not blank.
  unfold Observation.readFile Observation.make
  constructor
  · intro h
    split at h
    · next s hs =>
      rcases nonBlank_eq_some_iff.mp hs with ⟨hsame, hblank⟩
      rw [Option.some.injEq] at hsame
      rw [hsame]
      exact ⟨(Except.ok.inj h).symm, hblank⟩
    · exact absurd h nofun
  · rintro ⟨rfl, hblank⟩
    rw [nonBlank_eq_some_iff.mpr ⟨rfl, hblank⟩]

/-- What is launched has a target, and the check is all that is added to it. -/
theorem launch_of_verification? {instruction : String} {action : Action}
    (h : verification? instruction = some action) :
    ∃ context target value, isBlankText target.toList = false ∧
      IsVerified instruction.toList value.toList ∧
      action = { kind := .launchApp, context, target := some target,
                 verification := some (.textVisible value) } := by
  unfold verification? at h
  rcases Option.bind_eq_some_iff.mp h with ⟨text, htext, h⟩
  simp only at h
  split at h
  · next launch hlaunch =>
    rcases Action.make_eq_ok_iff.mp hlaunch with ⟨rfl, hcheck⟩
    cases htarget : nonBlank (some (verificationPlace instruction.toList).2) with
    | none =>
        -- Without a target the check fails in every context.
        rw [htarget] at hcheck
        generalize (verificationPlace instruction.toList).1 = context at hcheck
        cases context <;> exact absurd hcheck nofun
    | some target =>
        refine ⟨(verificationPlace instruction.toList).1, target, String.ofList text,
          (nonBlank_eq_some_iff.mp htarget).2, ?_, ?_⟩
        · rw [String.toList_ofList]
          exact isVerified_of_verifiedText? htext
        · rw [← Option.some.inj h, htarget]
          rfl
  · exact absurd h nofun

/-- A direct plan has one of the two forms. -/
theorem isDirectPlan_of_route_direct {rule : PathRule} {instruction : String} {plan : Plan}
    (h : route rule instruction = .direct plan) : IsDirectPlan rule instruction plan := by
  cases isAnswer_of_route_direct h with
  | read _ _ hrule hread =>
      rcases readFile_eq_ok_iff.mp hread with ⟨rfl, hblank⟩
      exact .look hblank hrule
  | verify _ hverify =>
      rcases launch_of_verification? hverify with ⟨context, target, value, hblank, hvalue, rfl⟩
      exact .check hblank hvalue

/-! ### Reading comes first -/

/-- If the file is known, there is a look at it or it is refused. -/
theorem route_of_readTarget? {rule : PathRule} {instruction target : String}
    (hdomain : isOutOfDomain (lowerAscii (trim instruction.toList)) = false)
    (hphrase : mentionsAny (lowerAscii (trim instruction.toList)) readPhrases = true)
    (htarget : readTarget? instruction = some target)
    (hblank : isBlankText target.toList = false) :
    (∃ path, rule target = .ok path ∧
      route rule instruction = .direct [.observation ⟨.readText, .file, target⟩]) ∨
    ∃ escape, rule target = .error escape ∧
      route rule instruction = .rejected (.outsideWorkspace escape) := by
  -- The router tries to read a file before it tries to verify anything.
  have hroute : route rule instruction = routeRead rule target := by
    unfold route
    simp only [hdomain, hphrase, htarget, Bool.false_eq_true, if_false, if_true]
  rw [hroute]
  unfold routeRead
  rcases hrule : rule target with escape | path
  · exact .inr ⟨escape, rfl, rfl⟩
  · -- The rule accepts the path, and its name is not blank, so the look is valid.
    have hread : Observation.readFile target = .ok ⟨.readText, .file, target⟩ :=
      readFile_eq_ok_iff.mpr ⟨rfl, hblank⟩
    refine .inl ⟨path, rfl, ?_⟩
    simp only [hread]

/-- Direct plans have one of two forms, and an instruction of the domain that asks for a file gets
    the first of them, or is refused, whatever else it asks for. -/
theorem route_isDirectPlan (rule : PathRule) (instruction : String) :
    (∀ plan, route rule instruction = .direct plan → IsDirectPlan rule instruction plan) ∧
    ∀ target, isOutOfDomain (lowerAscii (trim instruction.toList)) = false →
      mentionsAny (lowerAscii (trim instruction.toList)) readPhrases = true →
      readTarget? instruction = some target → isBlankText target.toList = false →
      (∃ path, rule target = .ok path ∧
        route rule instruction = .direct [.observation ⟨.readText, .file, target⟩]) ∨
      ∃ escape, rule target = .error escape ∧
        route rule instruction = .rejected (.outsideWorkspace escape) :=
  ⟨fun _ => isDirectPlan_of_route_direct,
    fun _ hdomain hphrase htarget hblank => route_of_readTarget? hdomain hphrase htarget hblank⟩

/-- A greeting is verified without its article, and a file that is also to be verified is read, or
    refused where no path is accepted. -/
theorem route_isDirectPlan_greeting :
    let welcoming : PathRule := fun path => .ok (.ofText path)
    let closed : PathRule := fun path => .error ⟨path, "/work"⟩
    IsDirectPlan welcoming "Check that the Hello  World" [.action {
      kind := .launchApp, context := .desktop, target := some "notepad.exe",
      verification := some (.textVisible "Hello World") }] ∧
    route welcoming "read file notes.txt and verify it" =
      .direct [.observation ⟨.readText, .file, "notes.txt and verify it"⟩] ∧
    route closed "read file notes.txt and verify it" =
      .rejected (.outsideWorkspace ⟨"notes.txt and verify it", "/work"⟩) := by
  intro welcoming closed
  have hgreeting : route welcoming "Check that the Hello  World" = .direct [.action {
      kind := .launchApp, context := .desktop, target := some "notepad.exe",
      verification := some (.textVisible "Hello World") }] := by decide +kernel
  have hread := fun rule : PathRule =>
    (route_isDirectPlan rule "read file notes.txt and verify it").2 "notes.txt and verify it"
      (by decide +kernel) (by decide +kernel) (by decide +kernel) (by decide +kernel)
  refine ⟨(route_isDirectPlan welcoming _).1 _ hgreeting, ?_, ?_⟩
  · -- This rule refuses nothing.
    rcases hread welcoming with ⟨_, _, hroute⟩ | ⟨_, hrule, _⟩
    · exact hroute
    · exact absurd hrule nofun
  · -- This one accepts nothing.
    rcases hread closed with ⟨_, hrule, _⟩ | ⟨escape, hrule, hroute⟩
    · exact absurd hrule nofun
    · rw [hroute, ← Except.error.inj hrule]

end Instruction

end ActionPlan
