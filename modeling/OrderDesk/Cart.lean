import OrderDesk.Delivery
import OrderDesk.Uuid

/-!
# Carts

A cart is a list of positions.  A position is collected answer by answer as a `Draft` and becomes a
`Position` once size, button, prices and link are all there.  Taking a line out of a cart puts the
last line into its place.
-/

namespace OrderDesk

/-- Colour of the price button on the shop page; the price depends on it. -/
inductive PriceButton where
  | turquoise
  | grey
  /-- Used goods. -/
  | used95
  deriving DecidableEq, Repr

namespace PriceButton

/-- The name of a button in records. -/
def name : PriceButton → String
  | turquoise => "Turquoise"
  | grey => "Grey"
  | used95 => "Used95"

/-- The button with the given name. -/
def ofName? (name : String) : Option PriceButton :=
  [turquoise, grey, used95].find? (·.name == name)

end PriceButton

/-- A complete line of a cart. -/
structure Position where
  id : Uuid
  shopLink : String
  /-- Size as typed; `#` for goods without one. -/
  size : String
  button : PriceButton
  category : Option Category
  priceYuan : UInt64
  priceRub : UInt64
  deriving DecidableEq, Repr

/-- The goods come in sizes. -/
def Position.hasSize (p : Position) : Bool := p.size != "#"

/-- A line that is still being collected. -/
structure Draft where
  /-- Identifier that the position will carry. -/
  id : Uuid
  /-- Size as typed. -/
  size : Option String
  button : Option PriceButton
  category : Option Category
  priceYuan : Option UInt64
  priceRub : Option UInt64
  shopLink : Option String
  deriving DecidableEq, Repr

namespace Draft

/-- A draft of which only the weight class may be known. -/
def start (id : Uuid) (category : Option Category) : Draft :=
  ⟨id, none, none, category, none, none, none⟩

/-- The position, once every answer but the weight class is there. -/
def complete? (d : Draft) : Option Position := do
  return { id := d.id
           shopLink := ← d.shopLink
           size := ← d.size
           button := ← d.button
           category := d.category
           priceYuan := ← d.priceYuan
           priceRub := ← d.priceRub }

end Draft

/-- The lines a customer has collected. -/
structure Cart where
  /-- The lines in order of display. -/
  lines : List Position
  deriving DecidableEq, Repr

/-- The list with the last element in place of the one at `i`. -/
def swapRemove {α : Type} (xs : List α) (i : Nat) : List α :=
  match xs.getLast? with
  | some last => (xs.set i last).dropLast
  | none => []

/-- Adds two amounts; a sum beyond 64 bits becomes the greatest amount. -/
def addClamped (a b : UInt64) : UInt64 := UInt64.ofNat (min (a.toNat + b.toNat) (UInt64.size - 1))

namespace Cart

/-- The cart without lines. -/
def empty : Cart := ⟨[]⟩

instance : Inhabited Cart := ⟨empty⟩

/-- The number of lines. -/
def size (c : Cart) : Nat := c.lines.length

/-- There are no lines. -/
def isEmpty (c : Cart) : Bool := c.lines.isEmpty

/-- The line with the given number from 0. -/
def get? (c : Cart) (i : Nat) : Option Position := c.lines[i]?

/-- Appends a line. -/
def add (c : Cart) (p : Position) : Cart := ⟨c.lines ++ [p]⟩

/-- The number of the first line with the given identifier. -/
def indexOf? (c : Cart) (id : Uuid) : Option Nat := c.lines.findIdx? (·.id == id)

/-- Takes out the first line with the given identifier; whether there was one. -/
def remove (c : Cart) (id : Uuid) : Cart × Bool :=
  match c.indexOf? id with
  | some i => (⟨swapRemove c.lines i⟩, true)
  | none => (c, false)

/-- The sum of the quoted prices. -/
def totalRub (c : Cart) : UInt64 := c.lines.foldl (fun total p => addClamped total p.priceRub) 0

/-- The sum of the shop prices. -/
def totalYuan (c : Cart) : UInt64 := c.lines.foldl (fun total p => addClamped total p.priceYuan) 0

end Cart

end OrderDesk
