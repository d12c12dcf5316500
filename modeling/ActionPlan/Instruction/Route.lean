import ActionPlan.Error
import ActionPlan.Item.Basic
import ActionPlan.Path.Sandbox
import ActionPlan.Text.Phrase

/-!
# Routes

Before a plan is generated, an instruction is looked at for intents that need no
generator. A request for market analysis is not for this program. An instruction to read
a file becomes the one observation it asks for, if the file may be read. An instruction
to verify that something can be seen becomes the launch of the app in question, with the
check attached.

What is left is screened for its length and for unsafe wording, and then handed to a
generator.

## Main definitions

* `Rejection`: Why an instruction is refused.
* `Route`: What becomes of an instruction.
* `Instruction.readTarget?`: The file that an instruction wants read.
* `Instruction.verification?`: The launch that an instruction wants verified.
* `Instruction.route`: The route of an instruction.
* `Instruction.screen`: The last look before a generator.
-/

namespace ActionPlan

/-- Why an instruction is refused. A refusal shows as an empty plan. -/
inductive Rejection
  | outOfDomain
  | outsideWorkspace (escape : Escape)
  | unsafeWording (keyword : String)
  deriving DecidableEq

/-- The text of a rejection. -/
def Rejection.message : Rejection → String
  | .outOfDomain => "market analysis request is out of domain for the planner"
  | .outsideWorkspace escape => escape.message
  | .unsafeWording keyword => "unsafe instruction: contains '" ++ keyword ++ "'"

/-- What becomes of an instruction. -/
inductive Route
  /-- The plan follows from the instruction alone. -/
  | direct (plan : Plan)
  | rejected (rejection : Rejection)
  /-- A generator has to find the plan. -/
  | generate
  deriving DecidableEq

namespace Instruction

/-! ### Market analysis -/

/-- The words of market analysis. -/
def marketWords : List String :=
  ["analyze", "analysis", "technical", "support", "resistance", "trend", "tradingview"]

/-- The words of trading, which keep an instruction in the domain. -/
def tradingWords : List String :=
  ["buy", "sell", "trade", "execute", "order"]

/-- The words of acting on a chart, which keep an instruction in the domain too. -/
def chartWords : List String :=
  ["draw", "mark", "click", "type", "open browser"]

/-- Market analysis and nothing to do about it. -/
def isOutOfDomain (text : List Char) : Bool :=
  Text.mentionsAny text marketWords && !Text.mentionsAny text tradingWords &&
    !Text.mentionsAny text chartWords

/-! ### Reading a file -/

/-- The phrases that ask for a file to be read or shown. -/
def readPhrases : List String :=
  ["read file", "read text from", "show contents of", "open file", "read the file"]

/-- What follows a phrase, without blanks around it. -/
def behind (phrase : String) (instruction : List Char) : Option (List Char) :=
  (Text.afterPhrase? phrase instruction).map Text.trim

/-- The text without its first word, if that is the given one in any casing. -/
def withoutLeadingWord (word : String) (text : List Char) : List Char :=
  let first := text.takeWhile (!Text.isBlank ·)
  if Text.sameIgnoringCase first word.toList then
    Text.dropStart Text.isBlank (text.drop first.length)
  else text

/-- The words up to the first *and*, with single spaces between them. -/
def upToAnd (text : List Char) : List Char :=
  Text.joinWords ((Text.words text).takeWhile (!Text.sameIgnoringCase · ['a', 'n', 'd']))

/-- What stands where a phrase announces a file. -/
def announcedFile? (instruction : List Char) : Option (List Char) :=
  let text := Text.lowerAscii instruction
  if Text.mentions text "read file" then behind "read file" instruction
  else if Text.mentions text "read text from" then
    (behind "read text from" instruction).map (withoutLeadingWord "file")
  else if Text.mentions text "show contents of" then
    (behind "show contents of" instruction).map (withoutLeadingWord "file")
  else if Text.mentions text "open file" && Text.mentions text "read" then
    (behind "open file" instruction).map upToAnd
  else none

/-- The name, unless nothing of it is left without quotation marks. -/
def unquotedName? (name : List Char) : Option (List Char) :=
  let name := Text.unquote name
  if name.isEmpty then none else some name

/-- The file that an instruction wants read: the one that is announced, or else the last
    word. -/
def readTarget? (instruction : String) : Option String :=
  let text := instruction.toList
  let announced := announcedFile? text >>= unquotedName?
  let last := (Text.words text).getLast? >>= unquotedName?
  (announced <|> last).map String.ofList

/-! ### Verifying a text -/

/-- The phrases that ask for a verification. Longer ones come first, so that what follows
    does not start with the end of one. -/
def verifyPhrases : List String :=
  ["verify_text_visible", "verify that", "check that", "confirm that", "verify"]

/-- The words that are no part of a text to be verified. -/
def fillerWords : List String :=
  ["that", "the"]

/-- The word is a filler in any casing. -/
def isFiller (word : List Char) : Bool :=
  fillerWords.any fun filler => Text.sameIgnoringCase word filler.toList

/-- The text to be verified: the words behind the phrase, without fillers. -/
def verifiedText? (instruction : List Char) : Option (List Char) := do
  let phrase ← verifyPhrases.find? (Text.mentions (Text.lowerAscii instruction))
  let rest ← behind phrase instruction
  let text := Text.joinWords ((Text.words rest).filter (!isFiller ·))
  if text.isEmpty then none else some text

/-- The app that is launched if the instruction names none. -/
def defaultApp : String := "notepad.exe"

/-- The page that is opened if the instruction names none. -/
def defaultPage : String := "https://example.com"

/-- The first word that looks like a web address, in its own casing. -/
def addressWord? (instruction : List Char) : Option (List Char) :=
  (Text.words instruction).find? (Text.mentionsAny · [".com", ".org", "http", "www"])

/-- Where a verification takes place. -/
def verificationPlace (instruction : List Char) : Context × String :=
  let text := Text.lowerAscii instruction
  if Text.mentions text "notepad" then (.desktop, defaultApp)
  else if Text.mentionsAny text ["browser", "http", "www"] then
    (.web, ((addressWord? instruction).map String.ofList).getD defaultPage)
  else (.desktop, defaultApp)

/-- The launch that an instruction wants verified. -/
def verification? (instruction : String) : Option Action := do
  let text ← verifiedText? instruction.toList
  let (context, target) := verificationPlace instruction.toList
  match Action.launch context target with
  | .ok action =>
    some { action with verification := some (.textVisible (String.ofList text)) }
  | .error _ => none

/-! ### Routing -/

/-- The route of an instruction that asks for a file, once the file is known. -/
def routeRead (rule : PathRule) (target : String) : Route :=
  match rule target with
  | .error escape => .rejected (.outsideWorkspace escape)
  | .ok _ =>
    match Observation.readFile target with
    | .ok observation => .direct [.observation observation]
    | .error _ => .generate

/-- The route of an instruction that asks for no file. -/
def routeVerification (instruction : String) (text : List Char) : Route :=
  if Text.mentionsAny text verifyPhrases then
    match verification? instruction with
    | some action => .direct [.action action]
    | none => .generate
  else .generate

/-- The route of an instruction. Reading comes before verifying; a phrase that announces
    nothing is passed over. -/
def route (rule : PathRule) (instruction : String) : Route :=
  let text := Text.lowerAscii (Text.trim instruction.toList)
  if isOutOfDomain text then .rejected .outOfDomain
  else if Text.mentionsAny text readPhrases then
    match readTarget? instruction with
    | some target => routeRead rule target
    | none => routeVerification instruction text
  else routeVerification instruction text

/-! ### Screening -/

/-- The wording that is never compiled. -/
def unsafeWords : List String :=
  ["delete system", "format drive", "regedit", "registry"]

/-- The least number of characters, blanks around them not counted. -/
def minLength : Nat := 3

/-- The greatest number of characters, all of them counted. -/
def maxLength : Nat := 500

/-- The last look before a generator. Too short and too long are errors; unsafe wording is
    refused. -/
def screen (instruction : String) : Except PlanError Route :=
  let trimmed := Text.trim instruction.toList
  if trimmed.length < minLength then
    .error (.ambiguousInstruction
      "instruction too short, please provide a clear task description")
  else if maxLength < instruction.toList.length then
    .error (.tooComplex ("instruction too long (max " ++ toString maxLength ++
      " characters), please simplify"))
  else
    match unsafeWords.find? (Text.mentions (Text.lower trimmed)) with
    | some keyword => .ok (.rejected (.unsafeWording keyword))
    | none => .ok .generate

end Instruction

end ActionPlan
