import ActionPlan.Json.Number

/-!
# JSON Tokens

A text is cut into tokens before its structure is looked at. The cut stops at the
first character that no token starts with, or inside a token that is malformed, and
leaves a `junk` token there; what follows is not looked at.

Two kinds of token are well formed but may have no content. A number literal can be
out of range, and a string can escape half of a surrogate pair without the other
half. A reader that wants the content has to refuse them; one that skips a value it
does not know has no reason to, so the token is kept and its content is missing.

## Main definitions

* `Token`: A token.
* `scanString?`: A string behind its opening quotation mark.
* `tokens`: The tokens of a text.

## Theorems

* `scanString?_length_le`: What follows a string is no longer than the text.
* `scan?_length_le`: The same of every token.
-/

namespace ActionPlan

namespace Json

/-- A token; `junk` marks the place where a text ceases to be one of JSON. -/
inductive Token
  | openArray
  | closeArray
  | openObject
  | closeObject
  | colon
  | comma
  | null
  | bool (b : Bool)
  | number (n : Option Number)
  | string (s : Option String)
  | junk

/-- The four characters that may stand between tokens. -/
def isSpace (c : Char) : Bool :=
  c == ' ' || c == '\n' || c == '\t' || c == '\r'

/-- The value of a hexadecimal digit. -/
def hexValue? (c : Char) : Option Nat :=
  if '0' ≤ c && c ≤ '9' then some (c.toNat - '0'.toNat)
  else if 'a' ≤ c && c ≤ 'f' then some (c.toNat - 'a'.toNat + 10)
  else if 'A' ≤ c && c ≤ 'F' then some (c.toNat - 'A'.toNat + 10)
  else none

/-- The number that four hexadecimal digits denote. -/
def hexUnit? (a b c d : Char) : Option Nat := do
  let a ← hexValue? a
  let b ← hexValue? b
  let c ← hexValue? c
  let d ← hexValue? d
  some (((a * 16 + b) * 16 + c) * 16 + d)

/-- The character that a letter behind a backslash stands for. -/
def escapedChar? : Char → Option Char
  | '"' => some '"'
  | '\\' => some '\\'
  | '/' => some '/'
  | 'b' => some '\x08'
  | 'f' => some '\x0c'
  | 'n' => some '\n'
  | 'r' => some '\r'
  | 't' => some '\t'
  | _ => none

/-- A part of a string: a character, or half of a surrogate pair, which only an escape
    can write. -/
inductive Piece
  | char (c : Char)
  | half (unit : Nat)

/-- The part of a string that an escaped sixteen-bit unit denotes. -/
def Piece.ofUnit (unit : Nat) : Piece :=
  if 0xD800 ≤ unit && unit < 0xE000 then .half unit else .char (Char.ofNat unit)

/-- The character that a leading and a trailing half make up, if they are in order. -/
def joinHalves? (leading trailing : Nat) : Option Char :=
  if leading < 0xDC00 && 0xDC00 ≤ trailing then
    some (Char.ofNat (0x10000 + (leading - 0xD800) * 0x400 + (trailing - 0xDC00)))
  else none

/-- The content that the parts of a string make up; none if a half stands alone. -/
def content? : List Piece → Option (List Char)
  | [] => some []
  | .char c :: pieces => (content? pieces).map (c :: ·)
  | .half leading :: .half trailing :: pieces => do
    let c ← joinHalves? leading trailing
    let cs ← content? pieces
    some (c :: cs)
  | .half _ :: _ => none

/-- The parts of a string and what follows its closing quotation mark; none if the
    string is malformed. -/
def scanString? : List Char → Option (List Piece × List Char)
  | [] => none
  | '"' :: text => some ([], text)
  | '\\' :: 'u' :: a :: b :: c :: d :: text =>
    match hexUnit? a b c d with
    | none => none
    | some unit => (scanString? text).map fun (ps, rest) => (.ofUnit unit :: ps, rest)
  | '\\' :: c :: text =>
    match escapedChar? c with
    | none => none
    | some e => (scanString? text).map fun (ps, rest) => (.char e :: ps, rest)
  | c :: text =>
    if c == '\\' || c.toNat < 0x20 then none
    else (scanString? text).map fun (ps, rest) => (.char c :: ps, rest)

theorem scanString?_length_le (text : List Char) :
    ∀ {pieces rest}, scanString? text = some (pieces, rest) → rest.length ≤ text.length := by
  fun_induction scanString? text <;> intro pieces rest h <;>
    simp_all only [Option.map_eq_some_iff, Prod.mk.injEq, reduceCtorEq, Option.some.injEq,
      List.length_cons, Prod.exists]
  all_goals first
    | omega
    | (rename_i ih
       obtain ⟨_, _, hs, _, rfl⟩ := h
       have := ih hs
       omega)

/-- The rest of a word that has to stand at the head of a text. -/
def afterWord? : List Char → List Char → Option (List Char)
  | [], text => some text
  | _ :: _, [] => none
  | w :: ws, c :: text => if w == c then afterWord? ws text else none

theorem afterWord?_length_le {word text rest : List Char} (h : afterWord? word text = some rest) :
    rest.length ≤ text.length := by
  fun_induction afterWord? word text with
  | case1 => cases h; exact Nat.le_refl _
  | case2 => cases h
  | case3 w ws c text hw ih => exact Nat.le_succ_of_le (ih h)
  | case4 => cases h

/-- The token that starts with a character, and what follows it. -/
def scan? (c : Char) (text : List Char) : Option (Token × List Char) :=
  match c with
  | '[' => some (.openArray, text)
  | ']' => some (.closeArray, text)
  | '\x7b' => some (.openObject, text)
  | '\x7d' => some (.closeObject, text)
  | ':' => some (.colon, text)
  | ',' => some (.comma, text)
  | '"' => (scanString? text).map fun (pieces, rest) =>
      (.string ((content? pieces).map String.ofList), rest)
  | 'n' => (afterWord? ['u', 'l', 'l'] text).map (Token.null, ·)
  | 't' => (afterWord? ['r', 'u', 'e'] text).map (Token.bool true, ·)
  | 'f' => (afterWord? ['a', 'l', 's', 'e'] text).map (Token.bool false, ·)
  | c =>
    if c == '-' || Text.isAsciiDigit c then
      (Literal.scan? (c :: text)).map fun (l, rest) => (.number l.number?, rest)
    else none

/-- What follows a token is no longer than what follows its first character. -/
theorem scan?_length_le {c : Char} {text rest : List Char} {t : Token}
    (h : scan? c text = some (t, rest)) : rest.length ≤ text.length := by
  unfold scan? at h
  split at h
  all_goals
    first
    | (cases h; exact Nat.le_refl _)
    | (simp only [Option.map_eq_some_iff, Prod.mk.injEq, Prod.exists] at h
       obtain ⟨_, _, hs, _, rfl⟩ := h
       exact scanString?_length_le text hs)
    | (simp only [Option.map_eq_some_iff, Prod.mk.injEq] at h
       obtain ⟨_, hs, _, rfl⟩ := h
       exact afterWord?_length_le hs)
    | (split at h
       · simp only [Option.map_eq_some_iff, Prod.mk.injEq, Prod.exists] at h
         obtain ⟨_, _, hs, _, rfl⟩ := h
         exact Nat.le_of_lt_succ (Literal.scan?_length_lt hs)
       · cases h)

/-- The tokens of a text, up to the first place that is malformed. -/
def tokens : List Char → List Token
  | [] => []
  | c :: text =>
    if isSpace c then tokens text
    else
      match _h : scan? c text with
      | none => [.junk]
      | some (t, rest) => t :: tokens rest
termination_by text => text.length
decreasing_by
  · exact Nat.lt_succ_self _
  · exact Nat.lt_succ_of_le (scan?_length_le _h)

end Json

end ActionPlan
