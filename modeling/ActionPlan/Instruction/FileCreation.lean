import ActionPlan.Text.Phrase
import ActionPlan.Text.WordChar

/-!
# File Creation by Phrase

One sentence describes a whole file: a verb of creating, the word *file*, a name, and
behind *with text* or *with content* the text, which runs to the end of the instruction
on one line. Articles and a few other words may stand in between, the name may be quoted,
and the casing of the words does not matter. The verb has to begin a word.

The sentence may begin anywhere in the instruction, and the first place where one begins
counts. The word *named* or *called* in front of the name is passed over if a name
follows; otherwise it is the name.

## Main definitions

* `FileSentence`: The name and the text that a sentence gives.
* `fileSentence?`: The first sentence in an instruction without blanks around it.
-/

namespace ActionPlan

/-- The name and the text of a file that a sentence describes. -/
structure FileSentence where
  name : List Char
  text : List Char
  deriving DecidableEq

namespace FileSentence

/-- What follows a word and the blanks behind it. -/
def word? (word : String) (text : List Char) : Option (List Char) :=
  Text.afterWord? word text >>= Text.afterBlanks?

/-- What follows a word and the blanks behind it, or the text itself. -/
def optionalWord (w : String) (text : List Char) : List Char :=
  (word? w text).getD text

/-- What follows a quotation mark, or the text itself. -/
def optionalQuote : List Char → List Char
  | [] => []
  | c :: text => if Text.isQuote c then text else c :: text

/-- A character that a name may hold. -/
def isNameChar (c : Char) : Bool :=
  !Text.isBlank c && !Text.isQuote c

/-- The text of the file: all that is left, which is one line and not empty. -/
def body? (text : List Char) : Option (List Char) :=
  if text.isEmpty || text.contains '\n' then none else some text

/-- A sentence from the name on. -/
def fromName? (text : List Char) : Option FileSentence := do
  let text := optionalQuote text
  let name := text.takeWhile isNameChar
  if name.isEmpty then none
  else
    let text ← Text.afterBlanks? (optionalQuote (text.dropWhile isNameChar))
    let text ← word? "with" text
    let text := optionalWord "the" text
    let text ← word? "text" text <|> word? "content" text
    let body ← body? text
    some ⟨name, body⟩

/-- The verbs of creating. -/
def verbs : List String :=
  ["create", "make", "write", "generate", "new"]

/-- A sentence that begins with its verb at the head of a text. -/
def atHead? (text : List Char) : Option FileSentence := do
  let text ← verbs.findSome? fun verb => word? verb text
  let text := optionalWord "new" (optionalWord "a" text)
  let text ← word? "file" text
  let named := word? "named" text <|> word? "called" text
  (named >>= fromName?) <|> fromName? text

/-- The first sentence in a text, given whether the character before it belongs to a
    word. -/
def find? (insideWord : Bool) : List Char → Option FileSentence
  | [] => none
  | c :: text =>
    let here := if insideWord then none else atHead? (c :: text)
    here <|> find? (Text.isWordChar c) text

end FileSentence

/-- The first sentence in an instruction that has no blanks around it. -/
def fileSentence? (text : List Char) : Option FileSentence :=
  FileSentence.find? false text

end ActionPlan
