import ActionPlan.Decimal.Reader
import ActionPlan.Text.Digit

/-!
# Addresses

The address of a server is a scheme, an authority, and what to ask the server for: a
path, and behind it a query if there is one. A fragment stays with the caller.

In the path a point as a segment stands for nothing, and two points for the segment
before. A character that may not stand for itself is written as the bytes of its UTF-8
form, each behind a percent sign; percent signs that are there already are kept.

## Main definitions

* `Address.parts?`: The authority of an address and what follows it.
* `Address.target?`: What the server is asked for.
-/

namespace ActionPlan

namespace Address

/-! ### Percent encoding -/

/-- The digit to base sixteen, in capital letters. -/
def capitalDigit (n : Nat) : Char :=
  if n < 10 then Char.ofNat ('0'.toNat + n) else Char.ofNat ('A'.toNat + (n - 10))

/-- A byte behind a percent sign. -/
def percentByte (b : UInt8) : List Char :=
  ['%', capitalDigit (b.toNat / 16), capitalDigit (b.toNat % 16)]

/-- The text with each character outside the class written as its bytes. -/
def encode (isPlain : Char → Bool) (text : List Char) : List Char :=
  text.flatMap fun c =>
    if isPlain c then [c] else (String.singleton c).toUTF8.toList.flatMap percentByte

/-- A printable ASCII character other than the blank. -/
def isGraphic (c : Char) : Bool :=
  '!' ≤ c && c ≤ '~'

/-- The printable characters that are encoded in a path. -/
def encodedInPath : List Char :=
  ['"', '<', '>', '\x60', '#', '?', '\x7b', '\x7d']

/-- The printable characters that are encoded in a query. -/
def encodedInQuery : List Char :=
  ['"', '<', '>', '#', '\'']

/-- The characters that stand for themselves in a path. -/
def isPathChar (c : Char) : Bool :=
  isGraphic c && !encodedInPath.contains c

/-- The characters that stand for themselves in a query. -/
def isQueryChar (c : Char) : Bool :=
  isGraphic c && !encodedInQuery.contains c

/-! ### Paths -/

/-- A slash in either direction. -/
def isSlash (c : Char) : Bool :=
  c == '/' || c == '\\'

/-- A text up to the first character of a class, and the text from there on. -/
def cut (p : Char → Bool) (text : List Char) : List Char × List Char :=
  text.span (!p ·)

/-- The texts between slashes. -/
def segments : List Char → List (List Char)
  | [] => [[]]
  | c :: cs =>
    if isSlash c then [] :: segments cs
    else
      match segments cs with
      | [] => [[c]]
      | s :: ss => (c :: s) :: ss

/-- The segment with its encoded points decoded. -/
def withPoints : List Char → List Char
  | '%' :: '2' :: 'e' :: cs => '.' :: withPoints cs
  | '%' :: '2' :: 'E' :: cs => '.' :: withPoints cs
  | c :: cs => c :: withPoints cs
  | [] => []

/-- The segments with the points among them worked off, given those in front. A path that
    ends in points ends in a slash. -/
def settle (done : List (List Char)) : List (List Char) → List (List Char)
  | [] => done
  | s :: ss =>
    let last := if ss.isEmpty then [[]] else []
    if withPoints s == ['.'] then settle (done ++ last) ss
    else if withPoints s == ['.', '.'] then settle (done.dropLast ++ last) ss
    else settle (done ++ [encode isPathChar s]) ss

/-- The path in its canonical form. -/
def canonicalPath (path : List Char) : List Char :=
  '/' :: ['/'].intercalate (settle [] (segments (path.drop 1)))

/-! ### Addresses -/

/-- Digits that make up at most 65535, or nothing. -/
def isPortNumber (text : List Char) : Bool :=
  text.all Text.isAsciiDigit && Decimal.natOfDigits text ≤ 65535

/-- A host, and a number behind a colon if there is one. -/
def isAuthority (text : List Char) : Bool :=
  let (host, number) := cut (· == ':') text
  !host.isEmpty && isPortNumber (number.drop 1)

/-- The schemes of servers. -/
def schemes : List String :=
  ["http", "https"]

/-- The authority of an address and what follows it. -/
def parts? (address : List Char) : Option (List Char × List Char) :=
  let (scheme, rest) := cut (· == ':') address
  let (authority, rest) :=
    cut (fun c => isSlash c || c == '?' || c == '#') ((rest.drop 1).dropWhile isSlash)
  if schemes.contains (String.ofList (scheme.map Char.toLower)) && isAuthority authority then
    some (authority, rest)
  else none

/-- What the server at an address is asked for; none if this is no address. -/
def target? (address : String) : Option String := do
  let (_, rest) ← parts? address.toList
  let (rest, _) := cut (· == '#') rest
  let (path, query) := cut (· == '?') rest
  return String.ofList (canonicalPath path ++
    (if query.isEmpty then [] else '?' :: encode isQueryChar (query.drop 1)))

end Address

end ActionPlan
