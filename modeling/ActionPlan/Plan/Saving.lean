import ActionPlan.Instruction.Wording
import ActionPlan.Item.Basic
import ActionPlan.Text.Digit

/-!
# Saving Files

A file is saved by a shortcut, which opens a dialog, and then by typing its name and
confirming. Models tend to stop after the shortcut. If the instruction speaks of saving,
a shortcut without a name among the next three items is completed by a wait, the name
and the confirming key; if it does not, the shortcut was invented and is dropped.

The name is the first one in the instruction that looks like a file name: letters,
digits, underscores, hyphens and backslashes, a point, and one of five extensions. On
the desktop, a name without a folder is put into the user's desktop folder.

## Main definitions

* `Item.isSaveShortcut`, `Item.namesFile`: The two parts of saving.
* `Instruction.savedName`: The name that an instruction gives.
* `Plan.completeSaves`: The plan with complete or without any saves.
-/

namespace ActionPlan

/-- The keys that open the save dialog. -/
def saveShortcut : String := "^s"

/-- The name of a file that an instruction does not name. -/
def unnamedFile : String := "untitled.txt"

namespace Instruction

/-- The extensions that a file name can have. -/
def fileExtensions : List String :=
  ["txt", "md", "json", "csv", "py"]

/-- The characters in front of the extension of a file name. -/
def isNameChar (c : Char) : Bool :=
  Text.isAsciiDigit c || ('a' ≤ c && c ≤ 'z') || ('A' ≤ c && c ≤ 'Z') ||
    c == '_' || c == '-' || c == '\\'

/-- The file name at the head of a text. -/
def nameAtHead? (text : List Char) : Option (List Char) :=
  let stem := text.takeWhile isNameChar
  if stem.isEmpty then none
  else
    match text.dropWhile isNameChar with
    | '.' :: rest =>
      (fileExtensions.find? fun ext => ext.toList.isPrefixOf rest).map fun ext =>
        stem ++ '.' :: ext.toList
    | _ => none

/-- The first file name in a text, given whether the character before it could belong to a
    name. A name that begins in the middle of others ends where they do, so it is enough to
    look at the first of them. -/
def firstName? (insideName : Bool) : List Char → Option (List Char)
  | [] => none
  | c :: text =>
    let here := if insideName then none else nameAtHead? (c :: text)
    here <|> firstName? (isNameChar c) text

/-- The name of the file that the instruction wants saved. -/
def savedName (instruction : String) : String :=
  match firstName? false instruction.toList with
  | none => unnamedFile
  | some name =>
    if Text.mentions (lowered instruction) "desktop" && !name.contains '\\' then
      "%USERPROFILE%\\Desktop\\" ++ String.ofList name
    else String.ofList name

end Instruction

namespace Item

/-- The text that the item types, if typing is what it does. -/
def typedText? (item : Item) : Option String :=
  if item.isKind .typeText then item.text? else none

/-- The item types the save shortcut, possibly among other keys. -/
def isSaveShortcut (item : Item) : Bool :=
  item.typedText?.any fun text => Text.mentions text.toList saveShortcut

/-- What the text of a file name contains. -/
def fileNameMarkers : List String :=
  [".txt", ".md", ".json", ".py", "\\", "/"]

/-- The item types something that looks like a file name. -/
def namesFile (item : Item) : Bool :=
  item.typedText?.any fun text => Text.mentionsAny text.toList fileNameMarkers

end Item

namespace Plan

/-- How many items behind a shortcut the name may come. -/
def nameLookahead : Nat := 3

/-- The items that complete a save. -/
def saveCompletion (name : String) : Plan :=
  [.action (.waitFor "1.0"), .action (.keystrokes name), .action (.keystrokes "\x7bENTER\x7d")]

/-- The shortcuts that lack a name completed with the given one. -/
def completeSavesWith (name : String) : Plan → Plan
  | [] => []
  | item :: items =>
    if item.isSaveShortcut && !(items.take nameLookahead).any (·.namesFile) then
      item :: (saveCompletion name ++ completeSavesWith name items)
    else item :: completeSavesWith name items

/-- The saves completed if the instruction speaks of saving, and dropped if not. -/
def completeSaves (plan : Plan) (instruction : String) : Plan :=
  if !plan.any (·.isSaveShortcut) then plan
  else if !Text.mentions (Instruction.lowered instruction) "save" then
    plan.filter (!·.isSaveShortcut)
  else completeSavesWith (Instruction.savedName instruction) plan

end Plan

end ActionPlan
