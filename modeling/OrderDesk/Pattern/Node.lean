import OrderDesk.Pattern.CharSet
import OrderDesk.Text.Basic
import OrderDesk.Text.Word

/-!
# Patterns as trees

What a pattern says about a text: the next character lies in a set, the place is of some kind, or
smaller patterns follow one another, stand as a choice or repeat.  Patterns that say too much are
not used: `Node.weight` measures them.
-/

namespace OrderDesk.Pattern

/-- A condition on a place between two characters. -/
inductive Place where
  | textStart
  | textEnd
  | lineStart
  | lineEnd
  /-- The start of a line where carriage returns end lines too. -/
  | crlfStart
  /-- The end of a line where carriage returns end lines too. -/
  | crlfEnd
  /-- A word character on exactly one side. -/
  | boundary (word : CharSet)
  /-- Not a boundary. -/
  | inside (word : CharSet)
  /-- No word character before and one after. -/
  | wordStart (word : CharSet)
  /-- A word character before and none after. -/
  | wordEnd (word : CharSet)
  /-- No word character before. -/
  | notAfterWord (word : CharSet)
  /-- No word character after. -/
  | notBeforeWord (word : CharSet)
  deriving Repr

/-- A pattern. -/
inductive Node where
  /-- Nothing more is said. -/
  | empty
  /-- The next character lies in the set. -/
  | char (set : CharSet)
  /-- The place is of the given kind. -/
  | place (p : Place)
  /-- One after the other. -/
  | both (a b : Node)
  /-- One of the two. -/
  | either (a b : Node)
  /-- At least `least` and at most `most` times; without `most` any number. -/
  | repeated (a : Node) (least : Nat) (most : Option Nat)
  deriving Repr

/-- How much a pattern says once its repetitions are written out: each range of a set counts, and so
does each place where ways part. -/
def Node.weight : Node → Nat
  | .empty => 1
  | .char set => max 1 set.ranges.length
  | .place _ => 1
  | .both a b => a.weight + b.weight
  | .either a b => a.weight + b.weight + 1
  | .repeated a least none => (least + 1) * a.weight + 1
  | .repeated a least (some most) => least * a.weight + (most - least) * (a.weight + 1) + 1

/-- The greatest weight of a pattern. -/
def maxWeight : Nat := 10 * 1024 * 1024 / 32

/-- Decimal digits of all scripts. -/
def CharSet.digit : CharSet := .ofRanges Text.digitRanges

/-- White space. -/
def CharSet.space : CharSet := .ofRanges Text.blankRanges

/-- Word characters. -/
def CharSet.word : CharSet := .ofRanges Text.wordRanges

/-- Decimal digits of ASCII. -/
def CharSet.asciiDigit : CharSet := ⟨[(0x30, 0x39)]⟩

/-- White space of ASCII. -/
def CharSet.asciiSpace : CharSet := ⟨[(0x9, 0xd), (0x20, 0x20)]⟩

/-- Word characters of ASCII. -/
def CharSet.asciiWord : CharSet := ⟨[(0x30, 0x39), (0x41, 0x5a), (0x5f, 0x5f), (0x61, 0x7a)]⟩

/-- The class of ASCII characters with the given name. -/
def CharSet.asciiClass? (name : String) : Option CharSet :=
  [("alnum", [(0x30, 0x39), (0x41, 0x5a), (0x61, 0x7a)]), ("alpha", [(0x41, 0x5a), (0x61, 0x7a)]),
   ("ascii", [(0x0, 0x7f)]), ("blank", [(0x9, 0x9), (0x20, 0x20)]), ("cntrl", [(0x0, 0x1f), (0x7f, 0x7f)]),
   ("digit", [(0x30, 0x39)]), ("graph", [(0x21, 0x7e)]), ("lower", [(0x61, 0x7a)]), ("print", [(0x20, 0x7e)]),
   ("punct", [(0x21, 0x2f), (0x3a, 0x40), (0x5b, 0x60), (0x7b, 0x7e)]),
   ("space", [(0x9, 0xd), (0x20, 0x20)]), ("upper", [(0x41, 0x5a)]),
   ("word", [(0x30, 0x39), (0x41, 0x5a), (0x5f, 0x5f), (0x61, 0x7a)]),
   ("xdigit", [(0x30, 0x39), (0x41, 0x46), (0x61, 0x66)])].lookup name |>.map CharSet.mk

end OrderDesk.Pattern
