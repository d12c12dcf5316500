import ActionPlan.Json.Printer
import ActionPlan.Json.Token
import Mathlib.Algebra.Group.Nat.Defs
import Mathlib.Data.List.Forall2

/-!
# Tokens of Printed Values

A printed value is cut into the tokens that one would read off the value itself: its strings
come back with their content, its numbers as the same numbers, and the layout leaves no trace.

The cut goes on to the end of the text, so nothing about a part of the text can be said without
what comes behind it. For most tokens that makes no difference, as they end by themselves. A
number literal does not: it goes on as long as it can. `CutsInto` therefore speaks of every rest
that no literal can go on with (`IsBoundary`), and two texts may be put together if the second
one starts in such a way. The printer sees to it that each of its parts does, because a value
is followed by a comma, a bracket or the end of a line.

The numbers are natural ones that fit into sixty-four bits. These are the numbers that the
library itself writes, and they are read exactly as they are printed.

## Main definitions

* `IsBoundary`: A number literal ends in front of the text.
* `CutsInto`: The text is cut into the tokens, whatever comes behind it.
* `valueTokens`: The tokens of a printed value.
* `Value.HasWordNumbers`: All numbers in the value are natural numbers of one machine word.

## Theorems

* `CutsInto.append`: Two texts, one behind the other.
* `scanString?_escaped`: A string is read back from its escaped form.
* `CutsInto.string`: A printed string is a token with the string for its content.
* `scan?_toDigits`, `number?_toDigits`: A number is read back from its digits.
* `cutsInto_bracketed`: Lines in a pair of brackets.
* `cutsInto_prettyChars`: A printed value is cut into its tokens.
* `tokens_pretty`: A text that holds a printed value has its tokens and no others.
-/

namespace ActionPlan

namespace Json

/-! ### Tokens and what comes behind them -/

/-- A number literal can go on with the character. -/
def continuesNumber (c : Char) : Bool :=
  Text.isAsciiDigit c || c == '.' || c == 'e' || c == 'E'

/-- A number literal ends in front of the text. -/
def IsBoundary (text : List Char) : Prop :=
  ∀ c, text.head? = some c → continuesNumber c = false

theorem isBoundary_nil : IsBoundary [] :=
  nofun

theorem isBoundary_cons {c : Char} {text : List Char} (h : continuesNumber c = false) :
    IsBoundary (c :: text) :=
  fun _ hc => Option.some.inj hc ▸ h

/-- The text is cut into the tokens, whatever comes behind it. -/
def CutsInto (text : List Char) (ts : List Token) : Prop :=
  ∀ rest, IsBoundary rest → tokens (text ++ rest) = ts ++ tokens rest

theorem tokens_of_isSpace {c : Char} {text : List Char} (h : isSpace c = true) :
    tokens (c :: text) = tokens text := by
  rw [tokens, if_pos h]

theorem tokens_of_scan? {c : Char} {text rest : List Char} {t : Token} (hspace : isSpace c = false)
    (h : scan? c text = some (t, rest)) : tokens (c :: text) = t :: tokens rest := by
  rw [tokens, if_neg (by rw [hspace]; exact Bool.false_ne_true)]
  split
  · next hnone =>
    rw [h] at hnone
    cases hnone
  · next hsome =>
    rw [h] at hsome
    cases hsome
    rfl

namespace CutsInto

variable {text text' : List Char} {ts ts' : List Token}

theorem nil : CutsInto [] [] :=
  fun _ _ => rfl

theorem space {c : Char} (hc : isSpace c = true) (h : CutsInto text ts) :
    CutsInto (c :: text) ts :=
  fun rest hrest => (tokens_of_isSpace hc).trans (h rest hrest)

theorem append (h : CutsInto text ts) (h' : CutsInto text' ts') (hboundary : IsBoundary text') :
    CutsInto (text ++ text') (ts ++ ts') := by
  intro rest hrest
  -- What comes behind the first text is the second one, or the rest if that is empty.
  have hboundary' : IsBoundary (text' ++ rest) := by
    rcases text' with _ | ⟨c, text'⟩
    · exact hrest
    · exact hboundary
  rw [List.append_assoc, h _ hboundary', h' rest hrest, List.append_assoc]

theorem newline (level : Nat) (h : CutsInto text ts) : CutsInto (newline level ++ text) ts := by
  refine space rfl ?_
  generalize 2 * level = count
  induction count with
  | zero => exact h
  | succ count ih => exact space rfl ih

end CutsInto

/-- The character is a token by itself. -/
structure IsMark (c : Char) (t : Token) : Prop where
  scan : ∀ text, scan? c text = some (t, text)
  isSpace : isSpace c = false
  continuesNumber : continuesNumber c = false

theorem isMark_comma : IsMark ',' .comma :=
  ⟨fun _ => rfl, rfl, rfl⟩

theorem CutsInto.mark {c : Char} {t : Token} {text : List Char} {ts : List Token}
    (hc : IsMark c t) (h : CutsInto text ts) : CutsInto (c :: text) (t :: ts) :=
  fun rest hrest => (tokens_of_scan? hc.isSpace (hc.scan _)).trans (congrArg _ (h rest hrest))

/-! ### Lists of texts -/

theorem cutsInto_separated {texts : List (List Char)} {parts : List (List Token)}
    (h : List.Forall₂ CutsInto texts parts) :
    CutsInto (separated [','] texts) ([Token.comma].intercalate parts) := by
  induction h with
  | nil => exact .nil
  | cons hfirst hrest ih =>
      cases hrest with
      | nil =>
          rw [separated, List.intercalate_singleton, List.intercalate_singleton]
          exact hfirst
      | cons _ _ =>
          -- A comma ends whatever stands in front of it.
          rw [separated, List.intercalate_cons_cons, List.intercalate_cons_cons,
            List.append_assoc, List.append_assoc]
          exact hfirst.append (.mark isMark_comma ih) (isBoundary_cons isMark_comma.continuesNumber)

/-- Lines in a pair of brackets are cut as they are, with commas between them. -/
theorem cutsInto_bracketed {left right : Char} {first last : Token} (hleft : IsMark left first)
    (hright : IsMark right last) (level : Nat) {lines : List (List Char)}
    {parts : List (List Token)} (h : List.Forall₂ CutsInto lines parts) :
    CutsInto (bracketed left right level lines)
      (first :: ([Token.comma].intercalate parts ++ [last])) := by
  have hend : CutsInto [right] [last] := .mark hright .nil
  -- Brackets around nothing stay together; in front of anything else there is a line break.
  unfold bracketed
  cases h with
  | nil => exact .mark hleft hend
  | cons hline hlines =>
      refine .mark hleft ?_
      rw [List.append_assoc]
      refine (cutsInto_separated ?_).append (hend.newline level) (isBoundary_cons rfl)
      rw [List.forall₂_map_left_iff]
      exact (List.Forall₂.cons hline hlines).imp fun _ _ hcut => hcut.newline (level + 1)

/-! ### Strings -/

/-- The unit that a control character is escaped as. -/
theorem hexUnit?_hexDigit {n : Nat} (h : n < 0x20) :
    hexUnit? '0' '0' (hexDigit (n / 16)) (hexDigit (n % 16)) = some n := by
  decide +revert

theorem scanString?_escapeChar (c : Char) (text : List Char) :
    scanString? (escapeChar c ++ text) =
      (scanString? text).map fun (pieces, rest) => (.char c :: pieces, rest) := by
  unfold escapeChar
  split
  -- Seven characters have an escape with a letter or a mark of their own.
  · rfl
  · rfl
  · rfl
  · rfl
  · rfl
  · rfl
  · rfl
  · next hquote hbackslash _ _ _ _ _ =>
    split
    · next hcontrol =>
      -- The unit of a control character is no half of a surrogate pair.
      have hunit : Piece.ofUnit c.toNat = .char c := by
        rw [Piece.ofUnit, if_neg (by simp; omega), Char.ofNat_toNat]
      change scanString? ('\\' :: 'u' :: '0' :: '0' :: _ :: _ :: text) = _
      rw [scanString?, hexUnit?_hexDigit hcontrol, ← hunit]
    · next hprinted =>
      -- The character stands for itself: it starts no escape, and it is no control character.
      have hplain : ¬ (c == '\\' || decide (c.toNat < 0x20)) = true := by
        rw [beq_false_of_ne hbackslash, decide_eq_false hprinted]
        exact Bool.false_ne_true
      rw [List.singleton_append, scanString?, if_neg hplain]
      · exact hquote
      · exact fun _ _ _ _ _ h _ => hbackslash h
      · exact fun _ _ h _ => hbackslash h

theorem scanString?_escaped (text rest : List Char) :
    scanString? (text.flatMap escapeChar ++ '"' :: rest) = some (text.map .char, rest) := by
  induction text with
  | nil => rfl
  | cons c text ih =>
      rw [List.flatMap_cons, List.append_assoc, scanString?_escapeChar, ih, List.map_cons,
        Option.map_some]

theorem content?_chars (text : List Char) : content? (text.map .char) = some text := by
  induction text with
  | nil => rfl
  | cons c text ih => rw [List.map_cons, content?, ih, Option.map_some]

/-- A printed string is a token with the string for its content, whatever its characters. -/
theorem CutsInto.string (s : String) {text : List Char} {ts : List Token}
    (h : CutsInto text ts) : CutsInto (printString s ++ text) (.string (some s) :: ts) := by
  intro rest hrest
  -- Every quote in the content is escaped, so the first bare one is the one that closes.
  have hscan : scan? '"' (s.toList.flatMap escapeChar ++ '"' :: (text ++ rest)) =
      some (.string (some s), text ++ rest) := by
    rw [scan?, scanString?_escaped, Option.map_some]
    simp only [content?_chars, Option.map_some, String.ofList_toList]
  have hprinted : printString s ++ text ++ rest =
      '"' :: (s.toList.flatMap escapeChar ++ '"' :: (text ++ rest)) := by
    simp [printString]
  rw [hprinted, tokens_of_scan? rfl hscan, h rest hrest, List.cons_append]

/-! ### Whole numbers -/

theorem isAsciiDigit_of_mem_toDigits {n : Nat} {c : Char} (h : c ∈ Nat.toDigits 10 n) :
    Text.isAsciiDigit c = true :=
  Nat.isDigit_of_mem_toDigits (by decide) (by decide) h

theorem exists_toDigits_eq_cons (n : Nat) :
    ∃ c digits, Nat.toDigits 10 n = c :: digits ∧ Text.isAsciiDigit c = true := by
  rcases hdigits : Nat.toDigits 10 n with _ | ⟨c, digits⟩
  · exact absurd hdigits Nat.toDigits_ne_nil
  · exact ⟨c, digits, rfl, isAsciiDigit_of_mem_toDigits (hdigits ▸ List.mem_cons_self)⟩

/-- A number does not start with a zero, unless it is zero. -/
theorem head?_toDigits {n : Nat} (hn : 0 < n) : (Nat.toDigits 10 n).head? ≠ some '0' := by
  induction n using Nat.strongRecOn with
  | ind n ih =>
      by_cases hsmall : n < 10
      · rw [Nat.toDigits_of_lt_base hsmall]
        exact (by decide : ∀ n < 10, 0 < n → [Nat.digitChar n].head? ≠ some '0') n hsmall hn
      · -- The first digit is that of the number without its last digit.
        have hrest : 0 < n / 10 := Nat.div_pos (Nat.not_lt.mp hsmall) (by decide)
        rw [Nat.toDigits_of_base_le (by decide) (Nat.not_lt.mp hsmall),
          List.head?_append_of_ne_nil _ Nat.toDigits_ne_nil]
        exact ih (n / 10) (by omega) hrest

theorem natOfDigits_toDigits (n : Nat) : Decimal.natOfDigits (Nat.toDigits 10 n) = n :=
  Nat.ofDigitChars_toDigits (by decide) (by decide)

/-- A number only grows by further digits. -/
theorem le_foldl_digits (digits : List Char) (start : Nat) :
    start ≤ digits.foldl (fun n c => 10 * n + Decimal.digitValue c) start := by
  induction digits generalizing start with
  | nil => exact Nat.le_refl start
  | cons c digits ih =>
      have hstep : start ≤ 10 * start + Decimal.digitValue c := by omega
      exact Nat.le_trans hstep (ih _)

/-- Digits are gathered to the end if the number fits. -/
theorem gather_eq {digits : List Char} {start : Nat}
    (h : digits.foldl (fun n c => 10 * n + Decimal.digitValue c) start < 2 ^ 64) :
    Literal.gather start digits =
      (digits.foldl (fun n c => 10 * n + Decimal.digitValue c) start, []) := by
  induction digits generalizing start with
  | nil => rfl
  | cons c digits ih =>
      -- What is gathered up to here is no more than what comes out in the end.
      have hnext : 10 * start + Decimal.digitValue c < Nat.pow 2 64 :=
        Nat.lt_of_le_of_lt (le_foldl_digits digits _) h
      exact (if_pos hnext).trans (ih h)

theorem gather_toDigits {n : Nat} (hn : n < 2 ^ 64) :
    Literal.gather 0 (Nat.toDigits 10 n) = (n, []) := by
  have hvalue := natOfDigits_toDigits n
  rw [Decimal.natOfDigits] at hvalue
  rw [gather_eq (by rw [hvalue]; exact hn), hvalue]

theorem continuesNumber_eq_false_iff {c : Char} : continuesNumber c = false ↔
    Text.isAsciiDigit c = false ∧ c ≠ '.' ∧ c ≠ 'e' ∧ c ≠ 'E' := by
  simp [continuesNumber, and_assoc]

theorem digits?_append {digits rest : List Char} (hne : digits ≠ [])
    (hdigits : ∀ c ∈ digits, Text.isAsciiDigit c = true) (hrest : IsBoundary rest) :
    Literal.digits? (digits ++ rest) = some (digits, rest) := by
  have hstop : rest.takeWhile Text.isAsciiDigit = [] ∧ rest.dropWhile Text.isAsciiDigit = rest := by
    rcases rest with _ | ⟨c, rest⟩
    · exact ⟨rfl, rfl⟩
    · have hc := (continuesNumber_eq_false_iff.mp (hrest c rfl)).1
      exact ⟨List.takeWhile_cons_of_neg (by simp [hc]), List.dropWhile_cons_of_neg (by simp [hc])⟩
  rw [Literal.digits?, List.takeWhile_append_of_pos hdigits, List.dropWhile_append_of_pos hdigits,
    hstop.1, hstop.2, List.append_nil]
  simp [hne]

theorem fraction?_of_isBoundary {rest : List Char} (h : IsBoundary rest) :
    Literal.fraction? rest = some (none, rest) := by
  unfold Literal.fraction?
  split
  · exact absurd rfl (continuesNumber_eq_false_iff.mp (h '.' rfl)).2.1
  · rfl

theorem exponent?_of_isBoundary {rest : List Char} (h : IsBoundary rest) :
    Literal.exponent? rest = some (none, rest) := by
  rcases rest with _ | ⟨c, rest⟩
  · rfl
  · rcases continuesNumber_eq_false_iff.mp (h c rfl) with ⟨_, _, he, hE⟩
    refine if_neg ?_
    rw [beq_false_of_ne he, beq_false_of_ne hE]
    exact Bool.false_ne_true

theorem whole?_toDigits (n : Nat) {rest : List Char} (hrest : IsBoundary rest) :
    Literal.whole? (Nat.toDigits 10 n ++ rest) = some (Nat.toDigits 10 n, rest) := by
  -- Only zero begins with the digit, and then it is the only one.
  have hzero : ¬ ((Nat.toDigits 10 n).head? == some '0' &&
      (Nat.toDigits 10 n).length != 1) = true := by
    rcases Nat.eq_zero_or_pos n with rfl | hn
    · decide
    · rw [beq_false_of_ne (head?_toDigits hn)]
      exact Bool.false_ne_true
  rw [Literal.whole?, digits?_append Nat.toDigits_ne_nil
    (fun _ => isAsciiDigit_of_mem_toDigits) hrest]
  exact if_neg hzero

/-- The digits of a number are a literal, without sign, fraction and exponent. -/
theorem scan?_toDigits (n : Nat) {rest : List Char} (hrest : IsBoundary rest) :
    Literal.scan? (Nat.toDigits 10 n ++ rest) =
      some (⟨false, Nat.toDigits 10 n, none, none⟩, rest) := by
  -- A digit comes first, so no sign is taken off.
  have hunsigned : ∀ text, Nat.toDigits 10 n ++ rest ≠ '-' :: text := by
    rcases exists_toDigits_eq_cons n with ⟨c, digits, hdigits, hc⟩
    intro text heq
    rw [hdigits] at heq
    rw [(List.cons.inj heq).1] at hc
    exact absurd hc (by decide)
  unfold Literal.scan?
  split
  next negative text hsplit =>
  split at hsplit
  · next text' heq => exact absurd heq (hunsigned text')
  · cases hsplit
    rw [whole?_toDigits n hrest]
    simp [fraction?_of_isBoundary hrest, exponent?_of_isBoundary hrest]

theorem number?_toDigits {n : Nat} (hn : n < 2 ^ 64) :
    (⟨false, Nat.toDigits 10 n, none, none⟩ : Literal).number? = some (.natural n) := by
  rw [Literal.number?]
  simp only [gather_toDigits hn]
  rfl

theorem scan?_of_isAsciiDigit {c : Char} (hc : Text.isAsciiDigit c = true) (text : List Char) :
    scan? c text = (Literal.scan? (c :: text)).map fun (l, rest) => (.number l.number?, rest) := by
  unfold scan?
  split
  all_goals
    first
    | exact absurd hc (by decide)
    | exact if_pos (by rw [hc, Bool.or_true])

theorem isSpace_of_isAsciiDigit {c : Char} (hc : Text.isAsciiDigit c = true) :
    isSpace c = false := by
  rcases hspace : isSpace c with _ | _
  · rfl
  · simp only [isSpace, Bool.or_eq_true, beq_iff_eq] at hspace
    rcases hspace with ((rfl | rfl) | rfl) | rfl <;> exact absurd hc (by decide)

/-- A printed number is a token with that number for its content. -/
theorem CutsInto.number {n : Nat} (hn : n < 2 ^ 64) :
    CutsInto (Nat.toDigits 10 n) [.number (some (.natural n))] := by
  intro rest hrest
  rcases exists_toDigits_eq_cons n with ⟨c, digits, hdigits, hc⟩
  have hscan := scan?_toDigits n hrest
  rw [hdigits, List.cons_append] at hscan ⊢
  refine tokens_of_scan? (isSpace_of_isAsciiDigit hc) ?_
  rw [scan?_of_isAsciiDigit hc, hscan, ← hdigits, Option.map_some]
  simp only [number?_toDigits hn]

/-! ### Values -/

mutual

/-- The tokens of a printed value. -/
def valueTokens : Value → List Token
  | .null => [.null]
  | .bool b => [.bool b]
  | .number n => [.number (some n)]
  | .string s => [.string (some s)]
  | .array items => .openArray :: ([Token.comma].intercalate (itemTokens items) ++ [.closeArray])
  | .object fields =>
    .openObject :: ([Token.comma].intercalate (fieldTokens fields) ++ [.closeObject])

/-- The tokens of each item of an array. -/
def itemTokens : List Value → List (List Token)
  | [] => []
  | v :: vs => valueTokens v :: itemTokens vs

/-- The tokens of each field of an object. -/
def fieldTokens : List (String × Value) → List (List Token)
  | [] => []
  | (key, v) :: fields => (.string (some key) :: .colon :: valueTokens v) :: fieldTokens fields

end

/-- All numbers in the value are natural numbers of one machine word. -/
inductive Value.HasWordNumbers : Value → Prop
  | null : HasWordNumbers .null
  | bool (b : Bool) : HasWordNumbers (.bool b)
  | natural {n : Nat} (h : n < 2 ^ 64) : HasWordNumbers (.number (.natural n))
  | string (s : String) : HasWordNumbers (.string s)
  | array {items : List Value} (h : ∀ v ∈ items, HasWordNumbers v) : HasWordNumbers (.array items)
  | object {fields : List (String × Value)} (h : ∀ field ∈ fields, HasWordNumbers field.2) :
      HasWordNumbers (.object fields)

theorem cutsInto_word {c : Char} {word : List Char} {t : Token} (hspace : isSpace c = false)
    (hscan : ∀ rest, scan? c (word ++ rest) = some (t, rest)) : CutsInto (c :: word) [t] :=
  fun rest _ => tokens_of_scan? hspace (hscan rest)

mutual

/-- A printed value is cut into its tokens, however far it is indented. -/
theorem cutsInto_prettyChars (level : Nat) : ∀ {v : Value}, v.HasWordNumbers →
    CutsInto (prettyChars level v) (valueTokens v)
  | _, .null => cutsInto_word rfl fun _ => rfl
  | _, .bool true => cutsInto_word rfl fun _ => rfl
  | _, .bool false => cutsInto_word rfl fun _ => rfl
  | _, .natural h => by
      rw [prettyChars, Number.text, String.toList_ofList]
      exact .number h
  | _, .string s => by
      rw [prettyChars, ← List.append_nil (printString s)]
      exact .string s .nil
  | _, .array h => cutsInto_bracketed ⟨fun _ => rfl, rfl, rfl⟩ ⟨fun _ => rfl, rfl, rfl⟩ level
      (cutsInto_prettyItems (level + 1) h)
  | _, .object h => cutsInto_bracketed ⟨fun _ => rfl, rfl, rfl⟩ ⟨fun _ => rfl, rfl, rfl⟩ level
      (cutsInto_prettyFields (level + 1) h)

theorem cutsInto_prettyItems (level : Nat) : ∀ {items : List Value},
    (∀ v ∈ items, v.HasWordNumbers) →
      List.Forall₂ CutsInto (prettyItems level items) (itemTokens items)
  | [], _ => .nil
  | v :: _, h => .cons (cutsInto_prettyChars level (h v List.mem_cons_self))
      (cutsInto_prettyItems level fun w hw => h w (List.mem_cons_of_mem v hw))

theorem cutsInto_prettyFields (level : Nat) : ∀ {fields : List (String × Value)},
    (∀ field ∈ fields, field.2.HasWordNumbers) →
      List.Forall₂ CutsInto (prettyFields level fields) (fieldTokens fields)
  | [], _ => .nil
  | (key, v) :: _, h => .cons
      (.string key (.mark ⟨fun _ => rfl, rfl, rfl⟩ (.space rfl
        (cutsInto_prettyChars level (h (key, v) List.mem_cons_self)))))
      (cutsInto_prettyFields level fun field hfield => h field (List.mem_cons_of_mem _ hfield))

end

/-- A text that holds a printed value has its tokens and no others. -/
theorem tokens_pretty {v : Value} (h : v.HasWordNumbers) :
    tokens v.pretty.toList = valueTokens v := by
  have hcut := cutsInto_prettyChars 0 h [] isBoundary_nil
  rw [List.append_nil, tokens, List.append_nil] at hcut
  rw [Value.pretty, String.toList_ofList, hcut]

end Json

end ActionPlan
