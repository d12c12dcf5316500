import ActionPlan.Error
import ActionPlan.Instruction.Effort
import ActionPlan.Text.Split

/-!
# Subtasks

An instruction that needs too many actions is split into subtasks, and these are split
again as long as they need too many and can be split. Strong separators are tried first:
a semicolon, the word *then* with an optional comma in front, and *and then*. Only where
these do not separate anything are the weak ones tried: a comma and the word *and*.

Separators are found in the bare text. A name or a typed text that contains one is split
as well; quotation marks make no difference.

## Main definitions

* `strongSeparator`, `weakSeparator`: The widths of the separators.
* `Instruction.fragments`: What a kind of separator splits a text into.
* `Instruction.subtasks`: The subtasks of an instruction.
-/

namespace ActionPlan

/-- What follows a word with blanks on both sides. -/
def afterSpacedWord? (word : String) (text : List Char) : Option (List Char) :=
  Text.afterBlanks? text >>= Text.afterWord? word >>= Text.afterBlanks?

/-- What follows a semicolon and the blanks behind it. -/
def afterSemicolon? : List Char → Option (List Char)
  | ';' :: text => some (text.dropWhile Text.isBlank)
  | _ => none

/-- What follows *then* between blanks, where a comma and more blanks may come first. -/
def afterThen? (text : List Char) : Option (List Char) := do
  let text ← Text.afterBlanks? text
  let text :=
    match text with
    | ',' :: rest => rest
    | text => text
  let text ← Text.afterWord? "then" (text.dropWhile Text.isBlank)
  Text.afterBlanks? text

/-- What follows *and then* between blanks. -/
def afterAndThen? (text : List Char) : Option (List Char) :=
  afterSpacedWord? "and" text >>= Text.afterWord? "then" >>= Text.afterBlanks?

/-- How much shorter the rest is than the text; zero if there is no rest. -/
def widthOf (text : List Char) : Option (List Char) → Nat
  | some rest => text.length - rest.length
  | none => 0

/-- The width of a strong separator at the head of a text. -/
def strongSeparator (text : List Char) : Nat :=
  widthOf text (afterSemicolon? text <|> afterThen? text <|> afterAndThen? text)

/-- What follows a comma. -/
def afterComma? : List Char → Option (List Char)
  | ',' :: text => some text
  | _ => none

/-- The width of a weak separator at the head of a text. -/
def weakSeparator (text : List Char) : Nat :=
  widthOf text (afterComma? text <|> afterSpacedWord? "and" text)

namespace Instruction

/-- What the separators split a text into, without blanks around and without pieces that
    are nothing but blanks. -/
def fragments (separator : List Char → Nat) (text : List Char) : List (List Char) :=
  ((Text.split separator text).map Text.trim).filter (!·.isEmpty)

/-- How an instruction may be split. -/
structure Limits where
  maxActions : Nat
  maxDepth : Nat

/-- The error that splitting would have to go on for too long. -/
def tooDeep (limits : Limits) (estimate : Nat) (text : List Char) : PlanError :=
  .tooComplex ("decomposition exceeded depth " ++ toString limits.maxDepth ++ " (estimated " ++
    toString estimate ++ " actions in '" ++ String.ofList text ++ "')")

/-- The subtasks of a text that may be split at most `levels` more times. -/
def splitText (limits : Limits) : Nat → List Char → Except PlanError (List (List Char))
  | levels, text =>
    let text := Text.trim text
    if text.isEmpty then .ok []
    else
      let estimate := effortOf text
      if estimate ≤ limits.maxActions then .ok [text]
      else
        match levels with
        | 0 => .error (tooDeep limits estimate text)
        | levels + 1 =>
          let strong := fragments strongSeparator text
          let weak := fragments weakSeparator text
          if 1 < strong.length then
            (strong.mapM (splitText limits levels)).map List.flatten
          else if 1 < weak.length then
            (weak.mapM (splitText limits levels)).map List.flatten
          else .ok [text]

/-- The subtasks of an instruction. One that fits is its own only subtask, as it is. -/
def subtasks (limits : Limits) (instruction : String) : Except PlanError (List String) :=
  if effort instruction ≤ limits.maxActions then .ok [instruction]
  else (splitText limits limits.maxDepth instruction.toList).map (·.map String.ofList)

end Instruction

end ActionPlan
