import ActionPlan.Text.Extending
import ActionPlan.Text.Printable

/-!
# Quoted Texts

Messages show a text in quotation marks, in a form from which it can be told
exactly. A quotation mark and a backslash take a backslash in front; the four
common controls have a letter of their own; a character that cannot be seen, or
that would attach itself to its neighbour, is written as its code point in braces.
All other characters stand for themselves.

## Main definitions

* `quoteChar`: The quoted form of one character.
* `quote`: A text in quotation marks.
* `quoteList`: A list of texts, each in quotation marks.
-/

namespace ActionPlan

namespace Text

/-- The digits of a number to base sixteen, in small letters. -/
def hexDigits (n : Nat) : List Char :=
  Nat.toDigits 16 n

/-- The quoted form of one character. -/
def quoteChar (c : Char) : List Char :=
  match c with
  | '\x00' => ['\\', '0']
  | '\t' => ['\\', 't']
  | '\r' => ['\\', 'r']
  | '\n' => ['\\', 'n']
  | '\\' => ['\\', '\\']
  | '"' => ['\\', '"']
  | c =>
    if isExtending c || !isPrintable c then
      ['\\', 'u', '\x7b'] ++ hexDigits c.toNat ++ ['\x7d']
    else [c]

/-- The text in quotation marks. -/
def quote (text : String) : String :=
  String.ofList ('"' :: text.toList.flatMap quoteChar ++ ['"'])

/-- The texts in quotation marks, between brackets and separated by commas. -/
def quoteList (texts : List String) : String :=
  "[" ++ ", ".intercalate (texts.map quote) ++ "]"

end Text

end ActionPlan
