import ActionPlan.Json.Value

/-!
# Printing JSON

There are two forms of one value: on a single line without any space, and with one
item or field a line, indented by two spaces a level. In both, an empty array and
an empty object are two brackets with nothing between them.

In a string the quotation mark, the backslash and the control characters are
escaped, the five controls that have a letter of their own by that letter and the
others by four hexadecimal digits; all else stands for itself.

## Main definitions

* `escapeChar`: A character of a string as it is printed.
* `Value.compact`: The form on a single line.
* `Value.pretty`: The indented form.
-/

namespace ActionPlan

namespace Json

/-- A hexadecimal digit, small letters above nine. -/
def hexDigit (n : Nat) : Char :=
  if n < 10 then Char.ofNat ('0'.toNat + n) else Char.ofNat ('a'.toNat + (n - 10))

/-- A character of a string as it is printed. -/
def escapeChar (c : Char) : List Char :=
  match c with
  | '"' => ['\\', '"']
  | '\\' => ['\\', '\\']
  | '\x08' => ['\\', 'b']
  | '\x0c' => ['\\', 'f']
  | '\n' => ['\\', 'n']
  | '\r' => ['\\', 'r']
  | '\t' => ['\\', 't']
  | c =>
    if c.toNat < 0x20 then
      ['\\', 'u', '0', '0', hexDigit (c.toNat / 16), hexDigit (c.toNat % 16)]
    else [c]

/-- A string as it is printed, in quotation marks. -/
def printString (s : String) : List Char :=
  '"' :: (s.toList.flatMap escapeChar ++ ['"'])

/-- The texts with a separator between neighbours. -/
def separated (separator : List Char) (texts : List (List Char)) : List Char :=
  separator.intercalate texts

mutual

/-- The value on a single line. -/
def compactChars : Value → List Char
  | .null => "null".toList
  | .bool b => (if b then "true" else "false").toList
  | .number n => n.text.toList
  | .string s => printString s
  | .array items => '[' :: (separated [','] (compactItems items) ++ [']'])
  | .object fields => '\x7b' :: (separated [','] (compactFields fields) ++ ['\x7d'])

/-- The items of an array, each on a single line. -/
def compactItems : List Value → List (List Char)
  | [] => []
  | v :: vs => compactChars v :: compactItems vs

/-- The fields of an object, each on a single line. -/
def compactFields : List (String × Value) → List (List Char)
  | [] => []
  | (k, v) :: fields => (printString k ++ ':' :: compactChars v) :: compactFields fields

end

/-- The break before a line of the given level. -/
def newline (level : Nat) : List Char :=
  '\n' :: List.replicate (2 * level) ' '

/-- Lines of the level inside a pair of brackets, which stay together around nothing. -/
def bracketed (left right : Char) (level : Nat) (lines : List (List Char)) : List Char :=
  if lines.isEmpty then [left, right]
  else left :: (separated [','] (lines.map (newline (level + 1) ++ ·)) ++ newline level ++ [right])

mutual

/-- The value in indented form, on a line of the given level. -/
def prettyChars (level : Nat) : Value → List Char
  | .null => "null".toList
  | .bool b => (if b then "true" else "false").toList
  | .number n => n.text.toList
  | .string s => printString s
  | .array items => bracketed '[' ']' level (prettyItems (level + 1) items)
  | .object fields => bracketed '\x7b' '\x7d' level (prettyFields (level + 1) fields)

/-- The items of an array in indented form. -/
def prettyItems (level : Nat) : List Value → List (List Char)
  | [] => []
  | v :: vs => prettyChars level v :: prettyItems level vs

/-- The fields of an object in indented form. -/
def prettyFields (level : Nat) : List (String × Value) → List (List Char)
  | [] => []
  | (k, v) :: fields =>
    (printString k ++ ':' :: ' ' :: prettyChars level v) :: prettyFields level fields

end

/-- The value's text on a single line. -/
def Value.compact (v : Value) : String :=
  String.ofList (compactChars v)

/-- The value's text in indented form. -/
def Value.pretty (v : Value) : String :=
  String.ofList (prettyChars 0 v)

end Json

end ActionPlan
