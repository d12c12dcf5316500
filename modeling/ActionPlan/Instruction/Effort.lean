import ActionPlan.Instruction.Wording
import ActionPlan.Text.Blank

/-!
# Estimated Effort

How many actions an instruction will need is estimated by counting its verbs. A verb
counts as often as it occurs; saving stands for the several actions it takes, and for
one more if a name is asked for. An instruction that holds anything at all needs at
least one action.

## Main definitions

* `Instruction.effort`: The estimated number of actions.
-/

namespace ActionPlan

namespace Instruction

/-- The verbs that stand for one action each, with the blank that follows them. -/
def verbs : List String :=
  ["open ", "launch ", "start ", "run ", "close ", "exit ", "quit ", "wait ", "focus ",
    "switch to ", "verify ", "check ", "type ", "write "]

/-- The words that stand for a click, wherever they occur. -/
def clickWords : List String :=
  ["click", "press"]

/-- How often the words occur, all together. -/
def wordCount (text : List Char) (words : List String) : Nat :=
  words.foldl (fun count word => count + Text.occurrences word.toList text) 0

/-- The actions that saving takes. -/
def savingEffort (text : List Char) : Nat :=
  if Text.mentions text "save as" then 4
  else if Text.mentions text "save" then 3
  else 0

/-- The estimated number of actions in a text. -/
def effortOf (instruction : List Char) : Nat :=
  let text := Text.lower instruction
  let count := wordCount text verbs + savingEffort text + wordCount text clickWords
  if count = 0 && !Text.isBlankText instruction then 1 else count

/-- The estimated number of actions. -/
def effort (instruction : String) : Nat :=
  effortOf instruction.toList

end Instruction

end ActionPlan
