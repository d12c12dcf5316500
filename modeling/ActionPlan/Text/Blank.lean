/-!
# Blank Characters and Words

Instructions arrive as free text, so the first thing every reader of one does is
to set blank characters aside. A character is blank when it has the Unicode
property White_Space; the same twenty-five characters are meant wherever the
library trims, splits into words, or asks whether a field is filled in.

Texts are handled as lists of characters. The domain types hold `String`, and
cross over by `String.toList` and `String.ofList`, which lose nothing.

## Main definitions

* `isBlank`: The white-space characters.
* `trim`: A text without the blanks at its two ends.
* `afterBlanks?`: What follows the blanks at the head of a text.
* `isBlankText`: A text that holds nothing but blanks.
* `words`: The maximal runs of non-blank characters.
* `joinWords`: Words put back together with single spaces.
-/

namespace ActionPlan

namespace Text

/-- The characters with the Unicode property White_Space. -/
def isBlank (c : Char) : Bool :=
  let n := c.toNat
  (0x09 ≤ n && n ≤ 0x0D) || n == 0x20 || n == 0x85 || n == 0xA0 || n == 0x1680 ||
    (0x2000 ≤ n && n ≤ 0x200A) || n == 0x2028 || n == 0x2029 || n == 0x202F ||
    n == 0x205F || n == 0x3000

/-- The text without the characters of the class at its start. -/
def dropStart (p : Char → Bool) (text : List Char) : List Char :=
  text.dropWhile p

/-- The text without the characters of the class at its end. -/
def dropEnd (p : Char → Bool) (text : List Char) : List Char :=
  (text.reverse.dropWhile p).reverse

/-- The text without the characters of the class at its start and at its end. -/
def strip (p : Char → Bool) (text : List Char) : List Char :=
  dropEnd p (dropStart p text)

/-- The text without the blanks at its start and at its end. -/
def trim (text : List Char) : List Char :=
  strip isBlank text

/-- What follows the blanks at the head of a text; there has to be one. -/
def afterBlanks? : List Char → Option (List Char)
  | [] => none
  | c :: text => if isBlank c then some (text.dropWhile isBlank) else none

/-- Nothing but blanks, or nothing at all. -/
def isBlankText (text : List Char) : Bool :=
  text.all isBlank

/-- The maximal runs of non-blank characters, in order. A character that is
    followed by another non-blank belongs to the word that starts there. -/
def words : List Char → List (List Char)
  | [] => []
  | c :: cs =>
    if isBlank c then words cs
    else if cs.head?.all isBlank then [c] :: words cs
    else match words cs with
      | [] => [[c]]
      | w :: ws => (c :: w) :: ws

/-- The words one after another with a single space between neighbours. -/
def joinWords (ws : List (List Char)) : List Char :=
  [' '].intercalate ws

/-- The two quotation marks that may surround a name or a text. -/
def isQuote (c : Char) : Bool :=
  c == '"' || c == '\''

end Text

end ActionPlan
