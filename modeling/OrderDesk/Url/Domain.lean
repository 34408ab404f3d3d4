import OrderDesk.Text.Basic
import OrderDesk.Text.Folding
import OrderDesk.Text.Quoted
import OrderDesk.Url.Punycode

/-!
# Domain names

A domain name is labels with points between.  `toAscii?` brings a name into the form in which it is
asked for: letters in lower case, full-width characters as ordinary ones, characters without a look
of their own left out, and each label that is still outside ASCII as `xn--` and its Punycode.

Letters keep the composition they come in; a letter and a mark after it are not joined into one
character.
-/

namespace OrderDesk.Url.Domain

/-! ## Characters -/

/-- Characters that a name is taken without. -/
def ignoredRanges : List (Nat × Nat) :=
  [(0xad, 0xad), (0x34f, 0x34f), (0x115f, 0x1160), (0x17b4, 0x17b5), (0x180b, 0x180f), (0x200b, 0x200b),
   (0x2060, 0x2064), (0x206a, 0x206f), (0x3164, 0x3164), (0xfe00, 0xfe0f), (0xfeff, 0xfeff),
   (0xffa0, 0xffa0), (0x1bca0, 0x1bca3), (0x1d173, 0x1d17a), (0xe0100, 0xe01ef)]

/-- What a character stands for in a name; nothing for one that no name has. -/
def mapped? (c : Char) : Option (List Char) :=
  let n := c.toNat
  if n < 0x80 then some [c.toLower]
  else if Text.inRanges ignoredRanges c then some []
  else if Text.inRanges Text.unprintableRanges c then none
  else if n = 0x3c2 then some [c]
  else if n = 0x3002 ∨ n = 0xff61 then some ['.']
  else if 0xff01 ≤ n ∧ n ≤ 0xff5e then some [(Char.ofNat (n - 0xfee0)).toLower]
  else if 0x24b6 ≤ n ∧ n ≤ 0x24e9 then some [Char.ofNat (0x61 + (n - 0x24b6) % 26)]
  else some [Text.folded c]

/-- ASCII characters that no name has. -/
def isForbidden (c : Char) : Bool :=
  c ≤ ' ' || c == '\x7f' || c ∈ ['%', '#', '/', ':', '<', '>', '?', '@', '[', '\\', ']', '^', '|']

/-! ## Labels -/

/-- All characters are ASCII. -/
def isAscii (s : List Char) : Bool := s.all fun c => c.toNat < 0x80

/-- A label may consist of the given characters, each in the form that stands for itself. -/
def isLabel (s : List Char) : Bool :=
  (s.all fun c => mapped? c = some [c]) &&
    match s with
    | c :: _ => !Text.inRanges Text.extendingRanges c
    | [] => true

/-- A label in ASCII. -/
def labelToAscii? (s : List Char) : Option (List Char) :=
  match s with
  | 'x' :: 'n' :: '-' :: '-' :: code => do
    let label ← Punycode.decode? code
    if isLabel label && !isAscii label then some s else none
  | s =>
    if isAscii s then some s
    else if isLabel s then some ('x' :: 'n' :: '-' :: '-' :: Punycode.encode s)
    else none

/-- The labels one after another with points between. -/
def joinLabels : List (List Char) → List Char
  | [] => []
  | [label] => label
  | label :: labels => label ++ '.' :: joinLabels labels

/-- A name in the form in which it is asked for. -/
def toAscii? (s : List Char) : Option (List Char) := do
  let s := (← s.mapM mapped?).flatten
  guard (!s.any isForbidden)
  return joinLabels (← (Text.splitOn '.' s).mapM labelToAscii?)

end OrderDesk.Url.Domain
