/-!
# Letter Case

Keywords are written in small ASCII letters and are to be found in any casing.
Three notions of "any casing" are in use, and they differ outside ASCII.

* `Char.toLower` and `lowerAscii` change the ASCII capitals and nothing else, so
  positions in the lowered copy are positions in the text.
* `lower` is Unicode lower case as far as a search for an ASCII keyword can tell.
  Besides the ASCII capitals only two characters have a lower-case form that
  contains an ASCII character: the Kelvin sign, whose form is `k`, and the capital
  I with a dot above, whose form is `i` followed by a combining dot. Every other
  character is left alone, because no search could see the difference.
* `isLetter` is Unicode simple case folding against a small ASCII letter. Besides
  the two ASCII casings, the Kelvin sign folds to `k` and the long s to `s`.

## Main definitions

* `lowerAscii`: The text with its ASCII capitals made small.
* `lower`: The text in lower case, for searching ASCII keywords.
* `isLetter`: A character that folds to the given small letter.
* `afterWord?`: What follows a word that stands at the head in any casing.
-/

namespace ActionPlan

namespace Text

/-- The text with its ASCII capitals made small. -/
def lowerAscii (text : List Char) : List Char :=
  text.map Char.toLower

/-- The lower-case form of a character, as far as ASCII keywords can tell. -/
def lowerChar (c : Char) : List Char :=
  if c == '\u212A' then ['k']
  else if c == '\u0130' then ['i', '\u0307']
  else [c.toLower]

/-- The text in lower case, as far as ASCII keywords can tell. -/
def lower (text : List Char) : List Char :=
  text.flatMap lowerChar

/-- The character is the given small ASCII letter in some casing. -/
def isLetter (letter c : Char) : Bool :=
  c.toLower == letter || (letter == 'k' && c == '\u212A') || (letter == 's' && c == '\u017F')

/-- What follows the word, if the text starts with it in some casing. -/
def afterLetters? : List Char → List Char → Option (List Char)
  | [], text => some text
  | _ :: _, [] => none
  | letter :: letters, c :: cs => if isLetter letter c then afterLetters? letters cs else none

/-- What follows the word, if the text starts with it in some casing. -/
def afterWord? (word : String) (text : List Char) : Option (List Char) :=
  afterLetters? word.toList text

/-- The two texts differ at most in the casing of ASCII letters. -/
def sameIgnoringCase (a b : List Char) : Bool :=
  lowerAscii a == lowerAscii b

end Text

end ActionPlan
