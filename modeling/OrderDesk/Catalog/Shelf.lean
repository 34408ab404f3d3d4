import OrderDesk.Catalog.Item

/-!
# The shelf

The copy of the catalogue that customers page through.  Offsets are 64-bit words; a question about
an offset outside the shelf has an answer, the sentinel where an item is asked for.  What comes after
an offset is looked up at the sum of the offset and 1.  That sum is checked, and where it is no word
there is no answer (`Panic`).
-/

namespace OrderDesk.Catalog

/-- A copy of the catalogue in order of display. -/
structure Shelf where
  items : List Item
  deriving DecidableEq, Repr

/-- Why the program stops instead of answering. -/
inductive Panic where
  /-- A sum has no room in 64 bits. -/
  | overflow
  deriving DecidableEq, Repr

namespace Shelf

/-- The shelf without items. -/
def empty : Shelf := ⟨[]⟩

instance : Inhabited Shelf := ⟨empty⟩

/-- The number of items. -/
def size (s : Shelf) : Nat := s.items.length

/-- The offset after the given one. -/
def after (offset : UInt64) : Except Panic UInt64 :=
  if offset.toNat + 1 < UInt64.size then .ok (offset + 1) else .error .overflow

/-- There is an item after the given offset. -/
def hasNext (s : Shelf) (offset : UInt64) : Except Panic Bool := do
  return (← after offset).toNat < s.size

/-- The offset is on the shelf and there is an item before it. -/
def hasPrev (s : Shelf) (offset : UInt64) : Bool := 0 < offset.toNat && offset.toNat < s.size

/-- The item at an offset. -/
def itemAt (s : Shelf) (offset : UInt64) : Item := s.items.getD offset.toNat .sentinel

/-- The item after an offset. -/
def next (s : Shelf) (offset : UInt64) : Except Panic Item := do
  if ← s.hasNext offset then return s.itemAt (← after offset)
  else return .sentinel

/-- The item before an offset. -/
def prev (s : Shelf) (offset : UInt64) : Item :=
  if s.hasPrev offset then s.itemAt (offset - 1) else .sentinel

/-- The offset where it is on the shelf, else 0. -/
def clamp (s : Shelf) (offset : UInt64) : UInt64 := if offset.toNat < s.size then offset else 0

end Shelf

end OrderDesk.Catalog
