import OrderDesk.Text.Folding

/-!
# Sets of characters

A set is a list of closed ranges of code points, ascending and with gaps between.
-/

namespace OrderDesk.Pattern

/-- A set of characters. -/
structure CharSet where
  /-- Closed ranges, ascending and with gaps between. -/
  ranges : List (Nat × Nat)
  deriving Repr, DecidableEq

namespace CharSet

/-- The greatest code point. -/
def maxCode : Nat := 0x10ffff

/-- No character. -/
def empty : CharSet := ⟨[]⟩

/-- Every character. -/
def full : CharSet := ⟨[(0, maxCode)]⟩

/-- Joins ranges that touch, beginning with the given one; the list is ascending by lower ends. -/
def absorb (lo hi : Nat) : List (Nat × Nat) → List (Nat × Nat)
  | [] => [(lo, hi)]
  | (lo', hi') :: rest =>
    if lo' ≤ hi + 1 then absorb lo (max hi hi') rest else (lo, hi) :: absorb lo' hi' rest

/-- The set with the given ranges, in any order. -/
def ofRanges (ranges : List (Nat × Nat)) : CharSet :=
  match ranges.mergeSort fun a b => a.1 ≤ b.1 with
  | [] => ⟨[]⟩
  | (lo, hi) :: rest => ⟨absorb lo hi rest⟩

/-- The set of one character. -/
def single (c : Char) : CharSet := ⟨[(c.toNat, c.toNat)]⟩

/-- Characters in either set. -/
def union (a b : CharSet) : CharSet := ofRanges (a.ranges ++ b.ranges)

/-- The gaps of ascending ranges from `n` on. -/
def gaps (n : Nat) : List (Nat × Nat) → List (Nat × Nat)
  | [] => if n ≤ maxCode then [(n, maxCode)] else []
  | (lo, hi) :: rest => if n < lo then (n, lo - 1) :: gaps (hi + 1) rest else gaps (hi + 1) rest

/-- Characters outside a set. -/
def compl (a : CharSet) : CharSet := ⟨gaps 0 a.ranges⟩

/-- Characters in both sets. -/
def inter (a b : CharSet) : CharSet := (a.compl.union b.compl).compl

/-- Characters in the first set only. -/
def diff (a b : CharSet) : CharSet := a.inter b.compl

/-- Characters in exactly one of the sets. -/
def symmDiff (a b : CharSet) : CharSet := (a.diff b).union (b.diff a)

/-- A code point lies in a set. -/
def contains (a : CharSet) (n : Nat) : Bool := a.ranges.any fun (lo, hi) => lo ≤ n && n ≤ hi

/-- A character lies in a set. -/
def mem (a : CharSet) (c : Char) : Bool := a.contains c.toNat

/-- The set together with all letters that differ from one of its members in case only. -/
def caseClosure (a : CharSet) : CharSet :=
  let images := Text.foldingPairs.filterMap fun (c, image) => if a.contains c then some (image, image) else none
  let withImages := ofRanges (images ++ a.ranges)
  let sources := Text.foldingPairs.filterMap fun (c, image) =>
    if withImages.contains image then some (c, c) else none
  ofRanges (sources ++ withImages.ranges)

/-- The same for the letters of ASCII alone. -/
def asciiCaseClosure (a : CharSet) : CharSet :=
  let letters := (List.range 26).flatMap fun i =>
    (if a.contains (0x41 + i) then [(0x61 + i, 0x61 + i)] else []) ++
      (if a.contains (0x61 + i) then [(0x41 + i, 0x41 + i)] else [])
  ofRanges (letters ++ a.ranges)

/-- Every member is an ASCII character. -/
def isAscii (a : CharSet) : Bool := a.ranges.all fun (_, hi) => hi < 0x80

end CharSet

end OrderDesk.Pattern
