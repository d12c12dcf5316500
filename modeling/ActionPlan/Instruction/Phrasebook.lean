import ActionPlan.Decimal.Reader
import ActionPlan.Error
import ActionPlan.Instruction.FileCreation
import ActionPlan.Item.Basic
import ActionPlan.Plan.Saving

/-!
# The Phrasebook

A generator that needs no model: it knows a few phrasings, tries them in order, and takes
the first that fits. What it builds is short and of a known form; what it does not know it
refuses, with a list of what it knows.

Phrases are found in the instruction with small ASCII letters, and what follows them is
taken from the instruction itself.

## Main definitions

* `Phrasebook.plan`: The plan of an instruction.
-/

namespace ActionPlan

namespace Phrasebook

/-- The app that the phrasebook opens and closes. -/
def editor : String := "notepad.exe"

/-- The phrasings that the phrasebook knows. -/
def knownPhrasings : String :=
  "'read file <path>', 'create file <path> with text <text>', " ++
  "'open notepad and type <text>', 'type <text>', 'open notepad', 'focus <window>', " ++
  "'close <app>', 'save', 'wait <n> seconds'"

/-- The text without blanks and quotation marks around it. -/
def bare (text : List Char) : List Char :=
  Text.trim (Text.unquote text)

/-- An item's error as that of the only item of a plan. -/
def checked {α : Type} : Except ItemError α → Except PlanError α
  | .ok a => .ok a
  | .error e => .error (.schemaViolation 1 "<deterministic>" e)

/-- The plan with a single action. -/
def singleAction (action : Except ItemError Action) : Except PlanError Plan := do
  let action ← checked action
  return [.action action]

/-- A rule of the phrasebook. It does not apply, or it decides. -/
abbrev Outcome := Option (Except PlanError Plan)

/-- Reading a file: whatever follows the phrase is its path. -/
def reading (text : List Char) : Outcome := do
  let rest ← Text.afterPhrase? "read text from file" text <|> Text.afterPhrase? "read file" text
  let path := bare rest
  if path.isEmpty then
    some (.error (.ambiguousInstruction "could not extract filename from read instruction"))
  else
    some do
      let observation ← checked (Observation.readFile (String.ofList path))
      return [.observation observation]

/-- Creating a file with a text. -/
def creating (text : List Char) : Outcome := do
  let sentence ← fileSentence? text
  let body := bare sentence.text
  if body.isEmpty then none
  else
    some (singleAction
      (Action.typing .file (some (String.ofList sentence.name)) (String.ofList body)))

/-- Opening the editor and typing a text. -/
def openingAndTyping (text : List Char) : Outcome :=
  if Text.mentions (Text.lowerAscii text) "notepad" then do
    let rest ← Text.afterPhrase? " type " text
    let typed := bare rest
    if typed.isEmpty then none
    else
      some do
        let launch ← checked (Action.launch .desktop editor)
        return [.action launch, .action (.keystrokes (String.ofList typed))]
  else none

/-- Typing a text. -/
def typing (text : List Char) : Outcome :=
  if "type ".toList.isPrefixOf (Text.lowerAscii text) then
    let typed := bare (text.drop "type ".toList.length)
    if typed.isEmpty then none
    else some (.ok [.action (.keystrokes (String.ofList typed))])
  else none

/-- Opening the editor. -/
def opening (text : List Char) : Outcome :=
  let lowered := Text.lowerAscii text
  let opens := Text.mentionsAny lowered ["open", "launch"] || lowered == "notepad".toList
  if Text.mentions lowered "notepad" && opens && !Text.mentions lowered "type" then
    some (singleAction (Action.launch .desktop editor))
  else none

/-- Focusing a window: whatever follows the first phrase that occurs. -/
def focusing (text : List Char) : Outcome := do
  let rest ← Text.afterPhrase? "focus" text <|> Text.afterPhrase? "switch to" text
  let window := Text.trim rest
  if window.isEmpty then none
  else
    some (singleAction (Action.make .focusWindow .desktop (some (String.ofList window)) none))

/-- Closing the editor. -/
def closing (text : List Char) : Outcome :=
  if Text.mentionsAny (Text.lowerAscii text) ["close", "exit"] then
    some (singleAction (Action.make .closeApp .desktop (some editor) none))
  else none

/-- Saving. -/
def saving (text : List Char) : Outcome :=
  if Text.mentions (Text.lowerAscii text) "save" then
    some (.ok [.action (.keystrokes saveShortcut)])
  else none

/-- A number of seconds at the head of a text: digits of any script, a fraction if there
    is one, and behind them the first letter of the unit. -/
def secondsAtHead? (text : List Char) : Option (List Char) :=
  let whole := text.takeWhile Text.isDigit
  if whole.isEmpty then none
  else
    let (number, rest) :=
      match text.dropWhile Text.isDigit with
      | '.' :: rest =>
        let fraction := rest.takeWhile Text.isDigit
        if fraction.isEmpty then (whole, '.' :: rest)
        else (whole ++ '.' :: fraction, rest.dropWhile Text.isDigit)
      | rest => (whole, rest)
    if (rest.dropWhile Text.isBlank).head? == some 's' then some number else none

/-- The first number of seconds in a text. -/
def seconds? : List Char → Option (List Char)
  | [] => none
  | c :: text =>
    match secondsAtHead? (c :: text) with
    | some number => some number
    | none => seconds? text

/-- Waiting. The duration stays as it is written, but has to be a number. -/
def waiting (text : List Char) : Outcome :=
  let lowered := Text.lowerAscii text
  if Text.mentions lowered "wait" then do
    let number ← seconds? lowered
    if (Decimal.read? number).isSome then
      some (singleAction (Action.make .wait .desktop (some (String.ofList number)) none))
    else none
  else none

/-- The rules in the order in which they are tried. -/
def rules : List (List Char → Outcome) :=
  [reading, creating, openingAndTyping, typing, opening, focusing, closing, saving, waiting]

/-- The plan of an instruction. -/
def plan (instruction : String) : Except PlanError Plan :=
  let text := Text.trim instruction.toList
  match rules.findSome? (· text) with
  | some outcome => outcome
  | none =>
    .error (.ambiguousInstruction
      ("unsupported instruction '" ++ instruction ++ "'; supported: " ++ knownPhrasings))

end Phrasebook

end ActionPlan
