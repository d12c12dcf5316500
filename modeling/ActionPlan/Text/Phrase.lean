import ActionPlan.Text.Blank
import ActionPlan.Text.LetterCase
import ActionPlan.Text.Search

/-!
# Text Behind a Phrase

Instructions put what they are about behind a fixed phrase. The phrase is found in the
text with small ASCII letters, and because that has the same length as the text, what
follows the phrase can be taken from the text itself, in its own casing.

## Main definitions

* `afterPhrase?`: What follows the first occurrence of a phrase.
* `unquote`: A text without the quotation marks around it.
-/

namespace ActionPlan

namespace Text

/-- What follows the first occurrence of the phrase, in any casing of ASCII letters. -/
def afterPhrase? (phrase : String) (text : List Char) : Option (List Char) :=
  (index? phrase.toList (lowerAscii text)).map fun i => text.drop (i + phrase.toList.length)

/-- The text without blanks, and then without quotation marks, at its two ends. -/
def unquote (text : List Char) : List Char :=
  strip isQuote (trim text)

end Text

end ActionPlan
