import ActionPlan.Proofs.Instruction.Keywords
import ActionPlan.Proofs.Instruction.Phrasebook
import ActionPlan.Proofs.Instruction.Route
import ActionPlan.Proofs.Plan.FileWording

/-!
# The Wording of Reading a File

Three places look for the wording of reading a file, each with phrases of its own. The check on
a plan knows two phrases and looks for them in the whole instruction in small letters. The route
knows these and others, and looks for them in ASCII letters and without the blanks around. The
phrasebook knows one of the two, and the other one only if the word *file* comes next.

The first difference is none. A phrase that is in the instruction in small letters is there in
small ASCII letters as well, because the characters outside ASCII whose small form is an ASCII
letter do not help to spell it (`infix_lowerAscii`). So what the check takes for an instruction
to read a file never gets past the route unnoticed, and `route_direct_of_reading` says what the
route makes of it.

The second difference is one. A rule of the phrasebook that does not read makes actions and
nothing else, and one of these may apply where the check sees the wording of reading
(`plan_of_reading`).

## Main definitions

* `IsPlain`: A text that is spelled by ASCII letters only.

## Theorems

* `infix_lowerAscii`: Small letters and small ASCII letters hold the same plain texts.
* `mentionsAny_readPhrases`: The route notices the wording of reading.
* `route_direct_of_reading`: The plans of the route under that wording.
* `route_ne_generate_of_verification?`: Without a file, a verification is answered.
* `readsFile_of_readFile`: A look at a file reads it.
* `Acts.isAction`: The plans of the rules that do not read.
* `plan_of_reading`: The plans of the phrasebook, by the phrases of reading.
-/

namespace ActionPlan

/-! ### Small letters -/

namespace Text

variable {word text : List Char}

/-- No character outside ASCII has a small form that helps to spell the text. The form of the
    Kelvin sign is a `k`, and that of the dotted capital an `i` with the dot behind it. -/
structure IsPlain (word : List Char) : Prop where
  kelvin : 'k' ∉ word
  dot : '\u0307' ∉ word
  last : word.getLast? ≠ some 'i'

theorem IsPlain.tail {c : Char} (h : IsPlain (c :: word)) : IsPlain word where
  kelvin := fun hmem => h.kelvin (List.mem_cons_of_mem c hmem)
  dot := fun hmem => h.dot (List.mem_cons_of_mem c hmem)
  last := by
    intro hlast
    cases word with
    | nil => exact absurd hlast nofun
    | cons d word => exact h.last (by rw [List.getLast?_cons_cons, hlast])

theorem lowerChar_cases (c : Char) :
    lowerChar c = ['k'] ∨ lowerChar c = ['i', '\u0307'] ∨ lowerChar c = [c.toLower] := by
  unfold lowerChar
  split
  · exact .inl rfl
  · split
    · exact .inr (.inl rfl)
    · exact .inr (.inr rfl)

theorem IsPlain.not_prefix_dot (h : IsPlain word) (hne : word ≠ []) :
    ¬ word <+: '\u0307' :: text := by
  obtain ⟨d, rest, rfl⟩ := List.exists_cons_of_ne_nil hne
  intro hprefix
  exact h.dot ((List.cons_prefix_cons.mp hprefix).1 ▸ List.mem_cons_self)

theorem prefix_lowerAscii (h : IsPlain word) (hword : word <+: lower text) :
    word <+: lowerAscii text := by
  -- Both texts get shorter at once, as long as the characters agree.
  induction text generalizing word with
  | nil => exact hword
  | cons c text ih =>
      cases word with
      | nil => exact List.nil_prefix
      | cons d word =>
          change d :: word <+: lowerChar c ++ lower text at hword
          rcases lowerChar_cases c with hchar | hchar | hchar
          · rw [hchar] at hword
            have hd : d = 'k' := (List.cons_prefix_cons.mp hword).1
            exact absurd (hd ▸ List.mem_cons_self) h.kelvin
          · rw [hchar] at hword
            rcases List.cons_prefix_cons.mp hword with ⟨rfl, hdot⟩
            by_cases hnil : word = []
            · rw [hnil] at h
              exact absurd rfl h.last
            · exact absurd hdot (h.tail.not_prefix_dot hnil)
          · rw [hchar] at hword
            rcases List.cons_prefix_cons.mp hword with ⟨rfl, hrest⟩
            exact List.cons_prefix_cons.mpr ⟨rfl, ih h.tail hrest⟩

/-- Where a plain text is found in small letters, it is found in small ASCII letters. -/
theorem infix_lowerAscii (h : IsPlain word) (hne : word ≠ []) (hword : word <:+: lower text) :
    word <:+: lowerAscii text := by
  induction text with
  | nil => exact hword
  | cons c text ih =>
      -- It begins with this character, or it is in the rest.
      have hcases : word <+: lower (c :: text) ∨ word <:+: lower text := by
        change word <:+: lowerChar c ++ lower text at hword
        change word <+: lowerChar c ++ lower text ∨ _
        rcases lowerChar_cases c with hchar | hchar | hchar
        · rw [hchar] at hword ⊢
          exact List.infix_cons_iff.mp hword
        · rw [hchar] at hword ⊢
          rcases List.infix_cons_iff.mp hword with hhead | hlater
          · exact .inl hhead
          · rcases List.infix_cons_iff.mp hlater with hdot | hrest
            · exact absurd hdot (h.not_prefix_dot hne)
            · exact .inr hrest
        · rw [hchar] at hword ⊢
          exact List.infix_cons_iff.mp hword
      rw [lowerAscii, List.map_cons, List.infix_cons_iff]
      exact hcases.imp (prefix_lowerAscii h) ih

theorem infix_lowerAscii_trim (hfirst : IsFlush word) (hlast : IsFlush word.reverse)
    (hword : word <:+: lowerAscii text) : word <:+: lowerAscii (trim text) := by
  rcases trim_spec text with ⟨before, after, hbefore, hafter, htext⟩
  rw [htext, lowerAscii_append, lowerAscii_append] at hword
  rw [← isBlankText_lowerAscii] at hbefore hafter
  exact infix_of_blank_ends hbefore hafter hfirst hlast hword

end Text

/-- A plan that is a look at a file reads it. -/
theorem Plan.readsFile_of_readFile {path : String} {observation : Observation}
    (h : Observation.readFile path = .ok observation) : ReadsFile [.observation observation] := by
  refine ⟨?_, .observation observation, List.mem_singleton_self _, ?_⟩
  · intro item hmem
    rw [List.mem_singleton.mp hmem]
    rfl
  · unfold Observation.readFile Observation.make at h
    split at h
    · rw [← Except.ok.inj h]
      rfl
    · exact absurd h nofun

/-! ### The route -/

namespace Instruction

variable {rule : PathRule} {instruction : String} {plan : Plan}

/-- What is to be read is noticed by the route, which looks for the same phrases. -/
theorem mentionsAny_readPhrases (h : wantsFileRead instruction = true) :
    Text.mentionsAny (Text.lowerAscii (Text.trim instruction.toList)) readPhrases = true := by
  rcases Text.mentionsAny_iff.mp h with ⟨phrase, hphrase, hinfix⟩
  refine Text.mentionsAny_iff.mpr ⟨phrase, ?_, ?_⟩
  · -- The phrases of reading are the first two that the route looks for.
    simp only [fileReadingPhrases, readPhrases, List.mem_cons, List.not_mem_nil, or_false]
      at hphrase ⊢
    exact hphrase.imp_right .inl
  · -- A phrase is plain and has no blanks at its ends, so it is found in either copy of the text.
    have hplain : Text.IsPlain phrase.toList ∧ phrase.toList ≠ [] ∧
        Text.IsFlush phrase.toList ∧ Text.IsFlush phrase.toList.reverse := by
      simp only [fileReadingPhrases, List.mem_cons, List.not_mem_nil, or_false] at hphrase
      rcases hphrase with rfl | rfl
      · exact ⟨⟨by decide, by decide, by decide⟩, by decide, by decide, by decide⟩
      · exact ⟨⟨by decide, by decide, by decide⟩, by decide, by decide, by decide⟩
    rcases hplain with ⟨hplain, hne, hfirst, hlast⟩
    exact Text.infix_lowerAscii_trim hfirst hlast (Text.infix_lowerAscii hplain hne hinfix)

/-- Where the wording of reading is noticed, a plan of the route is a look at the file, or the
    launch that a phrase of verifying asks for while no file is named. -/
theorem route_direct_of_reading
    (hphrase : Text.mentionsAny (Text.lowerAscii (Text.trim instruction.toList)) readPhrases = true)
    (h : route rule instruction = .direct plan) :
    (∃ target, readTarget? instruction = some target ∧ plan.ReadsFile) ∨
      (readTarget? instruction = none ∧
        Text.mentionsAny (Text.lowerAscii (Text.trim instruction.toList)) verifyPhrases = true ∧
        ∃ action, verification? instruction = some action ∧ plan = [.action action]) := by
  unfold route at h
  simp only at h
  split at h
  · -- What is out of the domain is rejected, which is no plan.
    exact absurd h nofun
  · rcases htarget : readTarget? instruction with _ | target
    · rw [htarget] at h
      cases @isAnswer_of_routeVerification rule _ _ h with
      -- A file is only read if it is named, and here none is.
      | read _ hread _ _ => exact absurd (htarget.symm.trans hread) nofun
      | verify hverify haction => exact .inr ⟨rfl, hverify, _, haction, rfl⟩
    · rw [htarget] at h
      unfold routeRead at h
      simp only at h
      split at h
      · -- The rule rejects the file.
        exact absurd h nofun
      · split at h
        · next observation hread =>
          rw [← Route.direct.inj h]
          exact .inl ⟨target, rfl, Plan.readsFile_of_readFile hread⟩
        · exact absurd h nofun

/-- If no file is named, a verification that can be answered does not get to a generator. -/
theorem route_ne_generate_of_verification? {action : Action}
    (htarget : readTarget? instruction = none)
    (hphrase : Text.mentionsAny (Text.lowerAscii (Text.trim instruction.toList)) verifyPhrases =
      true)
    (hverify : verification? instruction = some action) : route rule instruction ≠ .generate := by
  -- The launch stands for the verification, whatever else the instruction says.
  have hanswer : routeVerification instruction
      (Text.lowerAscii (Text.trim instruction.toList)) = .direct [.action action] := by
    unfold routeVerification
    rw [if_pos hphrase, hverify]
  unfold route
  simp only
  rw [htarget, hanswer]
  split
  · exact nofun
  · split
    · exact nofun
    · exact nofun

end Instruction

/-! ### The phrasebook -/

namespace Phrasebook

variable {text : List Char} {plan : Plan}

/-- A rule that does not read makes actions. -/
theorem Acts.isAction (h : Acts text plan) : ∀ item ∈ plan, item.isAction = true := by
  cases h with
  | openingAndTyping _ =>
      -- This is the one rule that makes two items.
      rw [dictation, List.forall_mem_cons, List.forall_mem_singleton]
      exact ⟨rfl, rfl⟩
  | creating _ _ => exact fun _ => Item.isAction_of_mem_singleton
  | typing _ => exact fun _ => Item.isAction_of_mem_singleton
  | opening => exact fun _ => Item.isAction_of_mem_singleton
  | focusing _ => exact fun _ => Item.isAction_of_mem_singleton
  | closing => exact fun _ => Item.isAction_of_mem_singleton
  | saving => exact fun _ => Item.isAction_of_mem_singleton
  | waiting _ => exact fun _ => Item.isAction_of_mem_singleton

/-- What the phrasebook takes for reading becomes a look at a file, and everything else becomes
    actions. -/
theorem plan_of_reading {instruction : String} (h : Phrasebook.plan instruction = .ok plan) :
    (Text.mentionsAny (Text.lowerAscii (Text.trim instruction.toList)) readingPhrases = true ∧
      plan.ReadsFile) ∨
    (Text.mentionsAny (Text.lowerAscii (Text.trim instruction.toList)) readingPhrases = false ∧
      ∀ item ∈ plan, item.isAction = true) := by
  have hdecides := plan_decides instruction
  rw [h] at hdecides
  cases hdecides with
  | reads hphrase hpath =>
      exact .inl ⟨hphrase, Plan.readsFile_of_readFile (readFile_of_isTaken hpath)⟩
  | acts hphrase hacts => exact .inr ⟨hphrase, hacts.isAction⟩

end Phrasebook

end ActionPlan
