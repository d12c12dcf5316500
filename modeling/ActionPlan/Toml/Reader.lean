import ActionPlan.Decimal.Reader
import ActionPlan.Json.Token
import ActionPlan.Toml.Value

/-!
# Reading TOML

A document is read line by line: each line is empty, a comment, a header or an
assignment, and only strings in three quotation marks and arrays run over several lines.

Values can hold values, so the readers call one another; a bound on the number of calls,
which the length of the text provides, makes them end. A second bound is a rule of the
reader: keys and brackets that go deeper than any useful document are refused.

## Main definitions

* `depthLimit`: How deep keys and brackets may not go.
* `Document.ofText?`: The table that a text describes.
-/

namespace ActionPlan

namespace Toml

/-! ### Blanks, comments and line ends -/

/-- A blank within a line. -/
def isBlank (c : Char) : Bool :=
  c == ' ' || c == '\t'

/-- A control character that may not appear in a line. -/
def isControl (c : Char) : Bool :=
  (c.toNat < 0x20 && c != '\t') || c.toNat == 0x7F

/-- The text without the blanks at its start. -/
def skipBlanks (text : List Char) : List Char :=
  text.dropWhile isBlank

/-- What follows the end of a line, if it stands at the head. -/
def lineEnd? : List Char → Option (List Char)
  | '\n' :: text => some text
  | '\r' :: '\n' :: text => some text
  | _ => none

/-- The text at the end of a comment's line; none if the comment holds a control. -/
def afterComment? : List Char → Option (List Char)
  | [] => some []
  | c :: text =>
    match lineEnd? (c :: text) with
    | some _ => some (c :: text)
    | none => if isControl c then none else afterComment? text

/-- The text behind a comment, if one stands at the head, and the text itself if not. -/
def skipComment? : List Char → Option (List Char)
  | '#' :: text => afterComment? text
  | text => some text

/-- What follows the rest of a line that may only hold blanks and a comment. -/
def finishLine? (text : List Char) : Option (List Char) := do
  let text ← skipComment? (skipBlanks text)
  if text.isEmpty then some [] else lineEnd? text

/-- The text behind blanks, comments and line ends. -/
def skipLines? : Nat → List Char → Option (List Char)
  | 0, text => some text
  | fuel + 1, text => do
    let rest ← skipComment? (skipBlanks text)
    match lineEnd? rest with
    | some rest => skipLines? fuel rest
    | none => some rest

/-! ### Strings -/

/-- The character with a code point given in hexadecimal digits. -/
def hexChar? (digits : List Char) : Option Char := do
  let values ← digits.mapM Json.hexValue?
  let n := values.foldl (fun n d => 16 * n + d) 0
  if n.isValidChar then some (Char.ofNat n) else none

/-- The character that an escape denotes, and what follows it. The backslash is behind
    us. -/
def escape? : List Char → Option (Char × List Char)
  | 'b' :: text => some ('\x08', text)
  | 't' :: text => some ('\t', text)
  | 'n' :: text => some ('\n', text)
  | 'f' :: text => some ('\x0c', text)
  | 'r' :: text => some ('\r', text)
  | '"' :: text => some ('"', text)
  | '\\' :: text => some ('\\', text)
  | 'u' :: text =>
    if text.length < 4 then none else (hexChar? (text.take 4)).map (·, text.drop 4)
  | 'U' :: text =>
    if text.length < 8 then none else (hexChar? (text.take 8)).map (·, text.drop 8)
  | _ => none

/-- A character in front of the content of a string. -/
def prepend (c : Char) (scanned : List Char × List Char) : List Char × List Char :=
  (c :: scanned.1, scanned.2)

/-- A string on one line that knows escapes, behind its quotation mark. -/
def basicString? : Nat → List Char → Option (List Char × List Char)
  | 0, _ => none
  | _, [] => none
  | _ + 1, '"' :: text => some ([], text)
  | fuel + 1, '\\' :: text => do
    let (c, text) ← escape? text
    (basicString? fuel text).map (prepend c)
  | fuel + 1, c :: text =>
    if isControl c then none else (basicString? fuel text).map (prepend c)

/-- A string on one line without escapes, behind its quotation mark. -/
def literalString? : List Char → Option (List Char × List Char)
  | [] => none
  | c :: text =>
    if c == '\'' then some ([], text)
    else if isControl c then none
    else (literalString? text).map (prepend c)

/-- Quotation marks at the head of a string of several lines: fewer than three are part of
    it, three end it, and up to two in front of those belong to it. -/
def closingQuotes? (quote : Char) (text : List Char) : Option (List Char × List Char) :=
  let count := (text.takeWhile (· == quote)).length
  if 3 ≤ count && count ≤ 5 then some (List.replicate (count - 3) quote, text.drop count)
  else none

/-- The text behind blanks and line ends. -/
def skipBlankLines : List Char → List Char
  | [] => []
  | '\r' :: '\n' :: text => skipBlankLines text
  | c :: text => if isBlank c || c == '\n' then skipBlankLines text else c :: text

/-- The text behind the blanks and line ends that a backslash at the end of a line takes
    away; there has to be a line end. -/
def foldedLine? (text : List Char) : Option (List Char) :=
  (lineEnd? (skipBlanks text)).map skipBlankLines

/-- A string of several lines, behind its three quotation marks and the first line end. -/
def longString? (quote : Char) (escapes : Bool) : Nat → List Char → Option (List Char × List Char)
  | 0, _ => none
  | _, [] => none
  | fuel + 1, c :: text =>
    if c == quote then
      match closingQuotes? quote (c :: text) with
      | some closed => some closed
      | none =>
        if ((c :: text).takeWhile (· == quote)).length < 3 then
          (longString? quote escapes fuel text).map (prepend c)
        else none
    else if c == '\\' && escapes then
      match foldedLine? text with
      | some text => longString? quote escapes fuel text
      | none => do
        let (c, text) ← escape? text
        (longString? quote escapes fuel text).map (prepend c)
    else
      match lineEnd? (c :: text) with
      | some text => (longString? quote escapes fuel text).map (prepend '\n')
      | none =>
        if isControl c then none else (longString? quote escapes fuel text).map (prepend c)

/-- The text without a line end at its start. -/
def skipLineEnd (text : List Char) : List Char :=
  (lineEnd? text).getD text

/-- A string of any of the four forms, behind its first quotation mark. -/
def string? (quote : Char) (text : List Char) : Option (String × List Char) := do
  let (content, rest) ←
    match text with
    | c :: d :: long =>
      if c == quote && d == quote then
        longString? quote (quote == '"') (long.length + 1) (skipLineEnd long)
      else if quote == '"' then basicString? (text.length + 1) text
      else literalString? text
    | text => if quote == '"' then basicString? (text.length + 1) text else literalString? text
  some (String.ofList content, rest)

/-! ### Keys -/

/-- A character of a key without quotation marks. -/
def isKeyChar (c : Char) : Bool :=
  Text.isAsciiDigit c || ('a' ≤ c && c ≤ 'z') || ('A' ≤ c && c ≤ 'Z') || c == '_' || c == '-'

/-- One key. -/
def simpleKey? (text : List Char) : Option (String × List Char) :=
  match text with
  | '"' :: rest =>
    (basicString? (rest.length + 1) rest).map fun (k, rest) => (String.ofList k, rest)
  | '\'' :: rest => (literalString? rest).map fun (k, rest) => (String.ofList k, rest)
  | text =>
    let key := text.takeWhile isKeyChar
    if key.isEmpty then none else some (String.ofList key, text.dropWhile isKeyChar)

/-- How many keys a path may not have, and how many brackets may not be open at once. -/
def depthLimit : Nat := 80

/-- At most so many keys with points between them, and blanks around each. -/
def keysWithin? : Nat → List Char → Option (List String × List Char)
  | 0, _ => none
  | count + 1, text => do
    let (key, rest) ← simpleKey? (skipBlanks text)
    match skipBlanks rest with
    | '.' :: rest => (keysWithin? count rest).map fun (ks, rest) => (key :: ks, rest)
    | rest => some ([key], rest)

/-- Keys with points between them, fewer than the limit. -/
def keys? (text : List Char) : Option (List String × List Char) :=
  keysWithin? (depthLimit - 1) text

/-! ### Numbers -/

/-- The digits without the underscores between them; none if an underscore is not between
    digits. -/
def plainDigits? (isDigit : Char → Bool) : List Char → Option (List Char)
  | [] => none
  | [c] => if isDigit c then some [c] else none
  | c :: '_' :: text =>
    if isDigit c then (plainDigits? isDigit text).map (c :: ·) else none
  | c :: text => if isDigit c then (plainDigits? isDigit text).map (c :: ·) else none

/-- The digits of a number whose first digit is a zero only if it is the only one. -/
def leadingDigits? (text : List Char) : Option (List Char) := do
  let digits ← plainDigits? Text.isAsciiDigit text
  if digits.head? == some '0' && digits.length != 1 then none else some digits

/-- A number to a base, behind the mark of the base. -/
def based? (base : Nat) (text : List Char) : Option Int := do
  let digits ← plainDigits? (fun c => (Json.hexValue? c).any (· < base)) text
  let values ← digits.mapM Json.hexValue?
  some (values.foldl (fun n d => base * n + d) 0 : Nat)

/-- A sign at the head of a number. -/
def splitSign : List Char → List Char × List Char
  | '+' :: text => ([], text)
  | '-' :: text => (['-'], text)
  | text => ([], text)

/-- The integers that fit into sixty-four bits. -/
def bounded? (n : Int) : Option Value :=
  if -(Nat.pow 2 63 : Int) ≤ n && n < (Nat.pow 2 63 : Int) then some (.integer n) else none

/-- An integer. -/
def integer? (token : List Char) : Option Value :=
  match token with
  | '0' :: 'x' :: text => based? 16 text >>= bounded?
  | '0' :: 'o' :: text => based? 8 text >>= bounded?
  | '0' :: 'b' :: text => based? 2 text >>= bounded?
  | token => do
    let (sign, text) := splitSign token
    let digits ← leadingDigits? text
    let n : Int := Decimal.natOfDigits digits
    bounded? (if sign.isEmpty then n else -n)

/-- The exponent of a float, with its mark and sign. -/
def exponent? : List Char → Option (List Char)
  | [] => some []
  | mark :: text =>
    if mark == 'e' || mark == 'E' then do
      let (sign, text) := splitSign text
      let digits ← plainDigits? Text.isAsciiDigit text
      some ('e' :: sign ++ digits)
    else none

/-- The text of a float without underscores: digits with a fraction, an exponent or both. -/
def floatText? (text : List Char) : Option (List Char) := do
  let inDigits (c : Char) : Bool := Text.isAsciiDigit c || c == '_'
  let whole ← leadingDigits? (text.takeWhile inDigits)
  match text.dropWhile inDigits with
  | '.' :: rest => do
    let fraction ← plainDigits? Text.isAsciiDigit (rest.takeWhile inDigits)
    let exponent ← exponent? (rest.dropWhile inDigits)
    some (whole ++ '.' :: fraction ++ exponent)
  | [] => none
  | rest => do
    let exponent ← exponent? rest
    some (whole ++ exponent)

/-- A float. One that is too large for its range is refused, unless it is negative. -/
def float? (token : List Char) : Option Value := do
  let (sign, text) := splitSign token
  if text == ['i', 'n', 'f'] then some (.float (.infinite (!sign.isEmpty)))
  else if text == ['n', 'a', 'n'] then some (.float .nan)
  else
    let text ← floatText? text
    match ← Decimal.read? (sign ++ text) with
    | .infinite false => none
    | x => some (.float x)

/-! ### Dates and times -/

/-- So many digits at the head of a text, as a number. -/
def fixedDigits? (count : Nat) (text : List Char) : Option (Nat × List Char) :=
  let digits := text.take count
  if digits.length == count && digits.all Text.isAsciiDigit then
    some (Decimal.natOfDigits digits, text.drop count)
  else none

/-- Two digits whose number lies between two others. -/
def twoDigits? (least most : Nat) (text : List Char) : Option (Nat × List Char) := do
  let (n, rest) ← fixedDigits? 2 text
  if least ≤ n && n ≤ most then some (n, rest) else none

/-- What follows a mark, if it stands at the head. -/
def afterMark? (mark : Char) : List Char → Option (List Char)
  | [] => none
  | c :: text => if c == mark then some text else none

/-- The number of days in a month. -/
def daysIn (year month : Nat) : Nat :=
  if month == 2 then
    if year % 4 == 0 && (year % 100 != 0 || year % 400 == 0) then 29 else 28
  else if month == 4 || month == 6 || month == 9 || month == 11 then 30
  else 31

/-- The text behind a date that the calendar has. -/
def afterDate? (text : List Char) : Option (List Char) := do
  let (year, text) ← fixedDigits? 4 text
  let text ← afterMark? '-' text
  let (month, text) ← twoDigits? 1 12 text
  let text ← afterMark? '-' text
  let (_, text) ← twoDigits? 1 (daysIn year month) text
  some text

/-- The text behind a fraction of a second, if one stands at the head. -/
def skipFraction : List Char → List Char
  | '.' :: c :: text =>
    if Text.isAsciiDigit c then text.dropWhile Text.isAsciiDigit else '.' :: c :: text
  | text => text

/-- The text behind a time of day. The last minute of a day may have a second more. -/
def afterTime? (text : List Char) : Option (List Char) := do
  let (_, text) ← twoDigits? 0 23 text
  let text ← afterMark? ':' text
  let (_, text) ← twoDigits? 0 59 text
  let text ← afterMark? ':' text
  let (_, text) ← twoDigits? 0 60 text
  some (skipFraction text)

/-- The text behind the distance of a time from that of the zero meridian. -/
def afterOffset? : List Char → Option (List Char)
  | [] => none
  | c :: text =>
    if c == 'Z' || c == 'z' then some text
    else if c == '+' || c == '-' then do
      let (_, text) ← twoDigits? 0 23 text
      let text ← afterMark? ':' text
      let (_, text) ← twoDigits? 0 59 text
      some text
    else none

/-- The text behind the time that may follow a date. -/
def skipTime (text : List Char) : List Char :=
  match text with
  | c :: rest =>
    if c == 'T' || c == 't' || c == ' ' then
      match afterTime? rest with
      | some rest => (afterOffset? rest).getD rest
      | none => text
    else text
  | [] => []

/-- The text behind a date, a time or both. -/
def afterMoment? (text : List Char) : Option (List Char) :=
  match afterDate? text with
  | some rest => some (skipTime rest)
  | none => afterTime? text

/-- A date, a time or both, and what follows. -/
def moment? (text : List Char) : Option (Value × List Char) :=
  (afterMoment? text).map fun rest =>
    (.moment (String.ofList (text.take (text.length - rest.length))), rest)

/-! ### Values -/

/-- A character of a value that is not in quotation marks or brackets. -/
def isTokenChar (c : Char) : Bool :=
  isKeyChar c || c == '+' || c == '.' || c == ':'

/-- A truth value or a number. -/
def scalar? (token : List Char) : Option Value :=
  if token == ['t', 'r', 'u', 'e'] then some (.boolean true)
  else if token == ['f', 'a', 'l', 's', 'e'] then some (.boolean false)
  else integer? token <|> float? token

/-- A value without brackets or quotation marks, and what follows. -/
def plain? (text : List Char) : Option (Value × List Char) :=
  moment? text <|>
    (scalar? (text.takeWhile isTokenChar)).map (·, text.dropWhile isTokenChar)

mutual

/-- A value at the head of a text, and what follows it. So many brackets may still be
    opened. -/
def value? (depth : Nat) : Nat → List Char → Option (Value × List Char)
  | 0, _ => none
  | fuel + 1, text =>
    match text, depth with
    | '"' :: rest, _ => (string? '"' rest).map fun (s, rest) => (.string s, rest)
    | '\'' :: rest, _ => (string? '\'' rest).map fun (s, rest) => (.string s, rest)
    | '[' :: _, 0 => none
    | '[' :: rest, depth + 1 =>
      (items? depth fuel rest).map fun (items, rest) => (.array items, rest)
    | '\x7b' :: _, 0 => none
    | '\x7b' :: rest, depth + 1 =>
      match skipBlanks rest with
      | '\x7d' :: rest => some (.inlineTable false [], rest)
      | rest =>
        (inlineEntries? depth fuel [] rest).map fun (es, rest) => (.inlineTable false es, rest)
    | text, _ => plain? text

/-- The items of an array behind its opening bracket or a comma. -/
def items? (depth : Nat) : Nat → List Char → Option (List Value × List Char)
  | 0, _ => none
  | fuel + 1, text => do
    match ← skipLines? text.length text with
    | ']' :: rest => some ([], rest)
    | text =>
      let (v, text) ← value? depth fuel text
      match ← skipLines? text.length text with
      | ',' :: rest => (items? depth fuel rest).map fun (vs, rest) => (v :: vs, rest)
      | ']' :: rest => some ([v], rest)
      | _ => none

/-- The assignments of an inline table, which ends on the line it begins on and without a
    comma. -/
def inlineEntries? (depth : Nat) : Nat → Entries → List Char → Option (Entries × List Char)
  | 0, _, _ => none
  | fuel + 1, entries, text => do
    let (path, key, v, text) ← assignment? depth fuel text
    let entries ← assignInline? key v path entries
    match skipBlanks text with
    | ',' :: rest => inlineEntries? depth fuel entries rest
    | '\x7d' :: rest => some (entries, rest)
    | _ => none

/-- An assignment: the keys on the way, the last key, the value, and what follows. -/
def assignment? (depth : Nat) :
    Nat → List Char → Option (List String × String × Value × List Char)
  | 0, _ => none
  | fuel + 1, text => do
    let (keys, text) ← keys? text
    let key ← keys.getLast?
    match text with
    | '=' :: text => do
      let (v, text) ← value? depth fuel (skipBlanks text)
      some (keys.dropLast, key, v, text)
    | _ => none

end

/-! ### Documents -/

/-- A header, behind its opening brackets. -/
def header? (close : List Char) (text : List Char) : Option (List String × List Char) := do
  let (keys, text) ← keys? text
  if close.isPrefixOf text then some (keys, text.drop close.length) else none

/-- The statement at the head of a text, and what follows it. -/
def statement? (text : List Char) : Option (Statement × List Char) :=
  match text with
  | '[' :: '[' :: rest =>
    (header? [']', ']'] rest).map fun (keys, rest) => (.arrayHeader keys, rest)
  | '[' :: rest => (header? [']'] rest).map fun (keys, rest) => (.header keys, rest)
  | text =>
    (assignment? (depthLimit - 1) (text.length + 2) text).map fun (path, key, v, rest) =>
      (.assign path key v, rest)

/-- The statements of a text, which takes no more steps than it has characters. -/
def statements? : Nat → List Char → Option (List Statement)
  | 0, _ => none
  | fuel + 1, text => do
    match ← skipLines? (text.length + 1) text with
    | [] => some []
    | text =>
      let (s, text) ← statement? text
      let text ← finishLine? text
      let rest ← statements? fuel text
      some (s :: rest)

/-- The table that a text describes; none if it is malformed or breaks a rule. A mark of
    the byte order may stand in front. -/
def Document.ofText? (text : String) : Option Entries := do
  let text :=
    match text.toList with
    | '\uFEFF' :: rest => rest
    | cs => cs
  let statements ← statements? (text.length + 1) text
  Document.ofStatements? statements

end Toml

end ActionPlan
