import ActionPlan.Plan.Request
import ActionPlan.Proofs.Plan.FileUse
import ActionPlan.Proofs.Plan.Interleaving

/-!
# What Becomes of a Proposal

A proposal goes through seven passes until it is a plan: what nobody asked for is taken out,
targets are filled in, saves are completed or dropped, pauses are put in, closes are moved, and
a detour is taken out. `Plan.IsRefined` says what the seven come to, as a relation between the
proposal and the plan that does not mention any of them but the first two.

An item of the proposal is kept or it is not, and that can be told from the proposal: it has to
be asked for, it may not be a save shortcut if nobody speaks of saving, and it may not be a
file launch if the items with these two properties write exactly one file. The last condition
is checked by the program at the very end, on a plan that has other items by then. It comes out
the same because no pass in between puts in a file write, takes one out, or changes one into
something else.

What is kept and is no close ends up in front, unchanged and in the order of the proposal, with
items of repair in between. What is kept and is a close ends up behind, in the order of the
proposal, with its target filled in if it had none.

Where a completed save stands is said by cutting the plan behind the first two passes at the
shortcut. What comes of the items in front of the shortcut comes in front of it, then the save is
completed without anything in between, and then follows what comes of the items behind.

## Main definitions

* `Item.isWanted`: The item is asked for, as an item and as a save.
* `Plan.writesOnce`: What is wanted writes exactly one file.
* `Plan.isDetour`: The item launches a file where a write is all that is needed.
* `Plan.kept`: The items of a proposal that stay in the plan.
* `Plan.HasCompleted`: The plan has a save completed between two stretches of the proposal.
* `Plan.IsRefined`: What becomes of a proposal.

## Theorems

* `filter_closesLast`: Moving the closes and taking items out can be exchanged.
* `countP_repair`: Items that repair does not put in are as many as before.
* `countP_isFileWrite_repair`: A repaired plan writes as many files as were wanted.
* `hasCompleted_of_shortcut`: What becomes of a shortcut that is kept.
* `isRefined_of_repair`: What becomes of a proposal that is repaired.
* `IsRefined.isRequested`: Nothing in the plan was not asked for.
-/

namespace ActionPlan

namespace Item

/-- The instruction asks for the item, and for saving if that is what the item does. -/
def isWanted (item : Item) (instruction : String) : Bool :=
  item.outlivesSaving instruction && item.isRequested instruction

theorem IsPutIn.isFileWrite_eq_false {instruction : String} {item : Item}
    (h : item.IsPutIn instruction) : item.isFileWrite = false := by
  rcases h.cases with ⟨_, rfl⟩ | ⟨_, _, rfl⟩
  · rfl
  · rfl

/-- Waiting needs no reason, and speaking of saving is a reason to type. -/
theorem IsPutIn.isRequested {instruction : String} {item : Item} (h : item.IsPutIn instruction) :
    item.isRequested instruction = true := by
  rcases h.cases with ⟨_, rfl⟩ | ⟨hsave, text, rfl⟩
  · rfl
  · have hgrounded : ActionKind.isGrounded .typeText instruction = true := by
      have hword : "save" ∈ ActionKind.groundingWords .typeText := by decide
      exact List.any_eq_true.mpr ⟨"save", hword, hsave⟩
    change (Action.keystrokes text).isRequested instruction = true
    exact Bool.or_eq_true_iff.mpr (.inr hgrounded)

end Item

namespace Plan

/-- The wanted items of the proposal write exactly one file. -/
def writesOnce (raw : Plan) (instruction : String) : Bool :=
  raw.countP (fun item => item.isFileWrite && item.isWanted instruction) == 1

/-- The item launches a file that is about to be written. -/
def isDetour (raw : Plan) (instruction : String) (item : Item) : Bool :=
  raw.writesOnce instruction && item.isFileLaunch

/-- The item of the proposal stays in the plan: it is wanted, and it is no detour. -/
def keeps (raw : Plan) (instruction : String) (item : Item) : Bool :=
  !raw.isDetour instruction item && item.isWanted instruction

/-- What stays of the proposal. -/
def kept (raw : Plan) (instruction : String) : Plan :=
  raw.filter (raw.keeps instruction ·)

/-- The plan has the shortcut with its save completed on the spot, behind what is kept of the
    items in front of it, and in front of what is kept of the items behind it. Closes are not
    looked at, as they are elsewhere. -/
def HasCompleted (out raw : Plan) (instruction : String) (before : Plan) (shortcut : Item)
    (after : Plan) : Prop :=
  ∃ front back,
    out = front ++ shortcut :: (saveCompletion (Instruction.savedName instruction) ++ back) ∧
    Interleaves (Item.IsPutIn instruction)
      ((before.filter (raw.keeps instruction ·)).filter (!·.isClose)) front ∧
    Interleaves (Item.IsPutIn instruction)
      ((after.filter (raw.keeps instruction ·)).filter (!·.isClose)) (back.filter (!·.isClose))

/-- The plan is what becomes of the proposal. -/
structure IsRefined (out raw : Plan) (instruction : String) : Prop where
  /-- Behind a close there are only closes. -/
  closesLast : out.Pairwise fun item later => item.isClose = true → later.isClose = true
  /-- What is kept and closes nothing is there as it was, in its order, each item once. -/
  others : Interleaves (Item.IsPutIn instruction)
    ((raw.kept instruction).filter (!·.isClose)) (out.filter (!·.isClose))
  /-- What is kept and closes an app is there in its order, each item once. -/
  closes : IsFilledFrom (out.filter (·.isClose)) ((raw.kept instruction).filter (·.isClose))
  /-- A shortcut that is kept, and has no name among the next three items, is completed. -/
  saves : ∀ (before : Plan) (shortcut : Item) (after : Plan),
    (raw.keepRequested instruction).resolveCloses = .ok (before ++ shortcut :: after) →
      shortcut.isSaveShortcut = true → raw.keeps instruction shortcut = true →
      (after.take nameLookahead).any (·.namesFile) = false →
      out.HasCompleted raw instruction before shortcut after

/-! ### Moving closes and taking items out -/

theorem filter_closesLast (p : Item → Bool) (plan : Plan) :
    (closesLast plan).filter p = closesLast (plan.filter p) := by
  unfold closesLast
  simp only [List.filter_append, List.filter_filter]
  congr 1
  · exact List.filter_congr fun item _ => Bool.and_comm _ _
  · exact List.filter_congr fun item _ => Bool.and_comm _ _

theorem filter_isClose_closesLast (plan : Plan) :
    (closesLast plan).filter (·.isClose) = plan.filter (·.isClose) := by
  simp [closesLast, List.filter_filter]

theorem filter_not_isClose_closesLast (plan : Plan) :
    (closesLast plan).filter (!·.isClose) = plan.filter (!·.isClose) := by
  simp [closesLast, List.filter_filter]

/-- A stretch without closes stays together. -/
theorem closesLast_append {stretch : Plan} (h : ∀ item ∈ stretch, item.isClose = false)
    (front back : Plan) : closesLast (front ++ (stretch ++ back)) =
      front.filter (!·.isClose) ++
        (stretch ++ (back.filter (!·.isClose) ++ (front ++ back).filter (·.isClose))) := by
  -- The stretch passes the first filter whole, and the second one lets nothing of it through.
  have hothers : stretch.filter (!·.isClose) = stretch := by
    rw [List.filter_eq_self]
    intro item hmem
    rw [h item hmem]
    rfl
  have hcloses : stretch.filter (·.isClose) = [] := by
    rw [List.filter_eq_nil_iff]
    exact fun item hmem => Bool.eq_false_iff.mp (h item hmem)
  unfold closesLast
  simp only [List.filter_append, hothers, hcloses, List.nil_append, List.append_assoc]

/-! ### What the repair leaves of the proposal -/

variable {raw resolved repaired : Plan} {instruction : String}

/-- Behind the targets, the passes up to the pauses keep what outlives saving. -/
theorem paused_interleaves (resolved : Plan) (instruction : String) :
    Interleaves (Item.IsPutIn instruction) (resolved.filter (·.outlivesSaving instruction))
      (pauseBeforeCloses (completeSaves resolved instruction)) :=
  (completeSaves_interleaves resolved instruction).trans
    (pauseBeforeCloses_interleaves instruction _)

/-- The wanted items of the proposal are those that outlive saving once targets are filled
    in. -/
theorem resolved_isFilledFrom (h : (raw.keepRequested instruction).resolveCloses = .ok resolved) :
    IsFilledFrom (resolved.filter (·.outlivesSaving instruction))
      (raw.filter (·.isWanted instruction)) := by
  have hfilled := (resolveCloses_filled h).filter (p := (·.outlivesSaving instruction))
    fun _ _ => rfl
  unfold keepRequested at hfilled
  rw [List.filter_filter] at hfilled
  exact hfilled

/-- Targets are filled in for items that were asked for. -/
theorem isRequested_of_mem_resolved
    (h : (raw.keepRequested instruction).resolveCloses = .ok resolved) {item : Item}
    (hmem : item ∈ resolved) : item.isRequested instruction = true := by
  rcases (resolveCloses_filled h).exists_of_mem hmem with ⟨original, horiginal, hfilled⟩
  have hsame : item.isRequested instruction = original.isRequested instruction :=
    Item.IsFilledFrom.eq_of (f := (·.isRequested instruction)) (fun _ _ => rfl) hfilled
  rw [hsame]
  exact (List.mem_filter.mp horiginal).2

/-- Items of a sort that is not put in, and that does not depend on the target, are as many as
    before, up to shortcuts that are dropped. -/
theorem countP_repair {plan out : Plan} {p : Item → Bool}
    (hput : ∀ item, item.IsPutIn instruction → p item = false)
    (hp : ∀ (action : Action) (target : Option String),
      p (.action { action with target }) = p (.action action))
    (h : plan.repair instruction = .ok out) :
    out.countP p = plan.countP fun item => p item && item.outlivesSaving instruction := by
  rcases repair_eq_ok_iff.mp h with ⟨resolved, hresolved, rfl, _⟩
  have hpaused := paused_interleaves resolved instruction
  have hkept := (resolveCloses_filled hresolved).filter
    (p := (·.outlivesSaving instruction)) fun _ _ => rfl
  have hfilled := hkept.filter hp
  rw [(closesLast_perm _).countP_eq, List.countP_eq_length_filter, hpaused.filter_eq hput,
    ← hfilled.length_eq, List.filter_filter, List.countP_eq_length_filter]

/-- No pass puts in a file write, takes a wanted one out, or makes one of something else. -/
theorem countP_isFileWrite_repair
    (h : (raw.keepRequested instruction).repair instruction = .ok repaired) :
    repaired.countP (·.isFileWrite) =
      raw.countP fun item => item.isFileWrite && item.isWanted instruction := by
  have hput : ∀ item : Item, item.IsPutIn instruction → item.isFileWrite = false :=
    fun _ hput => hput.isFileWrite_eq_false
  rw [countP_repair hput (fun _ _ => rfl) h, keepRequested, List.countP_filter]
  simp only [Bool.and_assoc]
  rfl

/-- The detour is taken out if the wanted items of the proposal write exactly one file. -/
theorem dropFileLaunches_repair
    (h : (raw.keepRequested instruction).repair instruction = .ok repaired) :
    repaired.dropFileLaunches = repaired.filter (!raw.isDetour instruction ·) := by
  unfold dropFileLaunches isDetour writesOnce
  rw [countP_isFileWrite_repair h]
  split
  · -- One file is written, so launches of files are a detour.
    next hone =>
    rw [hone]
    rfl
  · -- No file is written, or several are, and then nothing is a detour.
    next hone =>
    rw [beq_eq_false_iff_ne.mpr hone]
    symm
    rw [List.filter_eq_self]
    exact fun _ _ => rfl

/-- A shortcut and what completes it close nothing. -/
theorem isClose_of_mem_completed {name : String} {shortcut : Item}
    (h : shortcut.isSaveShortcut = true) :
    ∀ item ∈ shortcut :: saveCompletion name, item.isClose = false := by
  intro item hmem
  rcases List.mem_cons.mp hmem with rfl | hmem
  · exact Item.isClose_eq_false_of_isSaveShortcut h
  · exact saveCompletion_isClose hmem

/-- Cut at a shortcut without a name behind it, the plan is completed on the spot, and whatever
    else is put in comes between the items on either side. -/
theorem paused_append_shortcut {before after : Plan} {shortcut : Item}
    (hasked : Text.mentions (Instruction.lowered instruction) "save" = true)
    (hshortcut : shortcut.isSaveShortcut = true)
    (hnone : (after.take nameLookahead).any (·.namesFile) = false) :
    ∃ front back, pauseBeforeCloses (completeSaves (before ++ shortcut :: after) instruction) =
        front ++ shortcut :: (saveCompletion (Instruction.savedName instruction) ++ back) ∧
      Interleaves (Item.IsPutIn instruction) before front ∧
      Interleaves (Item.IsPutIn instruction) after back := by
  have hadded : ∀ item ∈ saveCompletion (Instruction.savedName instruction),
      item.IsPutIn instruction := fun item hitem => .inr ⟨hasked, hitem⟩
  rw [completeSaves_of_asked hasked]
  rcases completeSavesWith_append hadded before (shortcut :: after) with ⟨part, hpart, hbefore⟩
  rcases completeSavesWith_append hadded after [] with ⟨tail, htail, hafter⟩
  rw [List.append_nil, completeSavesWith, List.append_nil] at htail
  rw [hpart, completeSavesWith_cons_shortcut hshortcut hnone, htail,
    pauseBeforeCloses_append _ (Item.isClose_eq_false_of_isSaveShortcut hshortcut)]
  -- The completion ends in typing, behind which a close may need a pause.
  rcases pauseBeforeCloses_cons instruction (.action (.keystrokes "\x7bENTER\x7d")) tail with
    ⟨back, hback, hpause⟩
  refine ⟨pauseBeforeCloses part, back, ?_,
    hbefore.trans (pauseBeforeCloses_interleaves instruction part), hafter.trans hpause⟩
  -- The completion is cut in front of its last item, and there is no pause before that.
  have hopen : ∀ item ∈ [shortcut, .action (.waitFor "1.0"),
      .action (.keystrokes (Instruction.savedName instruction))], item.isClose = false :=
    fun item hmem => isClose_of_mem_completed hshortcut item (List.mem_append_left _ hmem)
  have henter : Item.isClose (.action (.keystrokes "\x7bENTER\x7d")) = false := rfl
  have hcut := pauseBeforeCloses_append [shortcut, .action (.waitFor "1.0"),
    .action (.keystrokes (Instruction.savedName instruction))] henter tail
  rw [pauseBeforeCloses_eq_self hopen, hback] at hcut
  rw [saveCompletion]
  exact congrArg (pauseBeforeCloses part ++ ·) hcut

/-! ### The plan that comes of it -/

/-- The items that stay, once targets are filled in. -/
theorem kept_isFilledFrom (h : (raw.keepRequested instruction).resolveCloses = .ok resolved) :
    IsFilledFrom
      ((resolved.filter (·.outlivesSaving instruction)).filter (!raw.isDetour instruction ·))
      (raw.kept instruction) := by
  have hfilled := (resolved_isFilledFrom h).filter (p := (!raw.isDetour instruction ·))
    fun _ _ => rfl
  rw [List.filter_filter (l := raw)] at hfilled
  exact hfilled

/-- A save shortcut is kept for one reason only. -/
theorem mentions_save_of_keeps {shortcut : Item} (hkeeps : raw.keeps instruction shortcut = true)
    (hshortcut : shortcut.isSaveShortcut = true) :
    Text.mentions (Instruction.lowered instruction) "save" = true := by
  have hwanted : shortcut.isWanted instruction = true := (Bool.and_eq_true_iff.mp hkeeps).2
  have houtlives := (Bool.and_eq_true_iff.mp hwanted).1
  unfold Item.outlivesSaving at houtlives
  rw [hshortcut] at houtlives
  exact houtlives

/-- If saving is asked for, items that were asked for are kept unless they are detours. -/
theorem filter_keeps_eq {part : Plan}
    (hasked : Text.mentions (Instruction.lowered instruction) "save" = true)
    (hpart : ∀ item ∈ part, item.isRequested instruction = true) :
    part.filter (raw.keeps instruction ·) = part.filter (!raw.isDetour instruction ·) := by
  refine List.filter_congr fun item hmem => ?_
  unfold keeps Item.isWanted
  rw [Item.outlivesSaving_of_asked hasked, hpart item hmem, Bool.and_true, Bool.and_true]

/-- The stretch that completes a save has no detours. -/
theorem isDetour_saveCompletion {name : String} {item : Item} (h : item ∈ saveCompletion name) :
    raw.isDetour instruction item = false := by
  rcases cases_of_mem_saveCompletion h with ⟨_, rfl⟩ | ⟨_, rfl⟩
  · exact Bool.and_false _
  · exact Bool.and_false _

theorem closesLast_filter_shortcut {shortcut : Item} (hshortcut : shortcut.isSaveShortcut = true)
    (hkeeps : raw.keeps instruction shortcut = true) (front back : Plan) :
    closesLast ((front ++ shortcut :: (saveCompletion (Instruction.savedName instruction) ++
        back)).filter (!raw.isDetour instruction ·)) =
      (front.filter (!raw.isDetour instruction ·)).filter (!·.isClose) ++
        shortcut :: (saveCompletion (Instruction.savedName instruction) ++
          ((back.filter (!raw.isDetour instruction ·)).filter (!·.isClose) ++
            ((front ++ back).filter (!raw.isDetour instruction ·)).filter (·.isClose))) := by
  -- The shortcut is kept, and a completion consists of keystrokes and waits, which are no detour.
  have hstays : (shortcut :: saveCompletion (Instruction.savedName instruction)).filter
      (!raw.isDetour instruction ·) =
        shortcut :: saveCompletion (Instruction.savedName instruction) := by
    rw [List.filter_eq_self]
    intro item hmem
    rcases List.mem_cons.mp hmem with rfl | hmem
    · exact (Bool.and_eq_true_iff.mp hkeeps).1
    · rw [isDetour_saveCompletion hmem]
      rfl
  -- None of them is a close either, so they stay where they are, and together.
  have hopen : ∀ item ∈ shortcut :: saveCompletion (Instruction.savedName instruction),
      item.isClose = false := isClose_of_mem_completed hshortcut
  have hcut := closesLast_append hopen (front.filter (!raw.isDetour instruction ·))
    (back.filter (!raw.isDetour instruction ·))
  rw [← List.filter_append] at hcut
  rw [← List.cons_append, List.filter_append, List.filter_append, hstays]
  exact hcut

/-- Cut at a shortcut that is kept, and has no name behind it, the plan that comes of requested
    items has a completed save in the middle. -/
theorem hasCompleted_of_shortcut {before after : Plan} {shortcut : Item}
    (hshortcut : shortcut.isSaveShortcut = true) (hkeeps : raw.keeps instruction shortcut = true)
    (hnone : (after.take nameLookahead).any (·.namesFile) = false)
    (hrequested : ∀ item ∈ before ++ shortcut :: after, item.isRequested instruction = true) :
    (closesLast ((pauseBeforeCloses (completeSaves (before ++ shortcut :: after)
      instruction)).filter (!raw.isDetour instruction ·))).HasCompleted raw instruction
        before shortcut after := by
  -- A shortcut is only kept if the instruction speaks of saving.
  have hasked := mentions_save_of_keeps hkeeps hshortcut
  rcases paused_append_shortcut hasked hshortcut hnone with ⟨front, back, hpause, hfront, hback⟩
  rw [hpause, closesLast_filter_shortcut hshortcut hkeeps front back]
  -- All items have been asked for, so only a detour is not kept.
  have hbefore : before.filter (raw.keeps instruction ·) =
      before.filter (!raw.isDetour instruction ·) :=
    filter_keeps_eq hasked fun item hmem => hrequested item (List.mem_append_left _ hmem)
  have hafter : after.filter (raw.keeps instruction ·) =
      after.filter (!raw.isDetour instruction ·) :=
    filter_keeps_eq hasked fun item hmem =>
      hrequested item (List.mem_append_right _ (List.mem_cons_of_mem _ hmem))
  refine ⟨_, _, rfl, ?_, ?_⟩
  · rw [hbefore]
    exact (hfront.filter _).filter _
  · -- The closes from in front are among those at the end, and the filter takes all of them out.
    have hsame : ∀ plan closes : Plan, (plan.filter (!·.isClose) ++
        closes.filter (·.isClose)).filter (!·.isClose) = plan.filter (!·.isClose) := by
      simp [List.filter_filter]
    rw [hafter, hsame]
    exact (hback.filter _).filter _

/-- What becomes of a proposal whose requested items are repaired. -/
theorem isRefined_of_repair
    (h : (raw.keepRequested instruction).repair instruction = .ok repaired) :
    repaired.dropFileLaunches.IsRefined raw instruction := by
  rcases repair_eq_ok_iff.mp h with ⟨resolved, hresolved, hrepaired, _⟩
  -- The detour can be taken out before the closes go to the end.
  have hout : repaired.dropFileLaunches =
      closesLast ((pauseBeforeCloses (completeSaves resolved instruction)).filter
        (!raw.isDetour instruction ·)) := by
    rw [dropFileLaunches_repair h, hrepaired, filter_closesLast]
  have hpaused := (paused_interleaves resolved instruction).filter (!raw.isDetour instruction ·)
  have hfilled := kept_isFilledFrom hresolved
  refine ⟨?_, ?_, ?_, ?_⟩
  · -- The closes come last.
    exact ((repair_isOrderly h).sublist (dropFileLaunches_sublist repaired)).closesLast
  · -- What is no close is as it was proposed, with what was put in between.
    have hothers := hfilled.filter (p := (!·.isClose)) fun _ _ => rfl
    have hsame := hothers.eq_of_no_close fun item hmem => by
      have hopen := (List.mem_filter.mp hmem).2
      rwa [Bool.not_eq_true'] at hopen
    rw [hout, filter_not_isClose_closesLast, ← hsame]
    exact hpaused.filter (!·.isClose)
  · -- What was put in closes nothing, so the closes are the proposed ones with their targets.
    have hcloses := hpaused.filter_eq (p := (·.isClose)) fun _ hput => hput.isClose_eq_false
    rw [hout, filter_isClose_closesLast, hcloses]
    exact hfilled.filter fun _ _ => rfl
  · -- A shortcut without a name behind it has its completion right there.
    intro before shortcut after hcut hshortcut hkeeps hnone
    have hsame : resolved = before ++ shortcut :: after :=
      Except.ok.inj (hresolved.symm.trans hcut)
    rw [hout, hsame]
    exact hasCompleted_of_shortcut hshortcut hkeeps hnone fun item hmem =>
      isRequested_of_mem_resolved hcut hmem

theorem isRequested_of_mem_kept {item : Item} (h : item ∈ raw.kept instruction) :
    item.isRequested instruction = true := by
  have hkeeps := (List.mem_filter.mp h).2
  have hwanted : item.isWanted instruction = true := (Bool.and_eq_true_iff.mp hkeeps).2
  exact (Bool.and_eq_true_iff.mp hwanted).2

/-- Neither the proposal nor the repair brings in anything that was not asked for. -/
theorem IsRefined.isRequested {out : Plan} (h : out.IsRefined raw instruction) {item : Item}
    (hmem : item ∈ out) : item.isRequested instruction = true := by
  by_cases hclose : item.isClose = true
  · -- A close was proposed, and with its target it is still asked for.
    rcases h.closes.exists_of_mem (List.mem_filter.mpr ⟨hmem, hclose⟩) with
      ⟨original, horiginal, hfilled⟩
    have hsame : item.isRequested instruction = original.isRequested instruction :=
      Item.IsFilledFrom.eq_of (f := (·.isRequested instruction)) (fun _ _ => rfl) hfilled
    rw [hsame]
    exact isRequested_of_mem_kept (List.mem_filter.mp horiginal).1
  · rw [Bool.not_eq_true] at hclose
    -- Any other item was proposed, or it was put in.
    have hother : item ∈ out.filter (!·.isClose) :=
      List.mem_filter.mpr ⟨hmem, (Bool.not_eq_true' _).mpr hclose⟩
    rcases h.others.mem hother with hkept | hput
    · exact isRequested_of_mem_kept (List.mem_filter.mp hkept).1
    · exact hput.isRequested

end Plan

end ActionPlan
