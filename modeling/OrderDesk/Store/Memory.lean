import OrderDesk.Catalog.Shelf
import OrderDesk.Store.Call

/-!
# The store in memory

Customers are kept under their identifiers, catalogue and orders as lists.  A change of the
catalogue leaves an announcement: the catalogue by rank as it is after the change, for whoever
listens.
-/

namespace OrderDesk.Store

/-- Everything kept in memory. -/
structure Memory where
  /-- Customers, at most one of each identifier. -/
  customers : List Customer
  /-- The catalogue, in no particular order. -/
  items : List Catalog.Item
  /-- Orders, oldest first. -/
  orders : List Order
  deriving DecidableEq, Repr

namespace Memory

/-- The store before anything is kept. -/
def empty : Memory := ⟨[], [], []⟩

instance : Inhabited Memory := ⟨empty⟩

/-! ## Customers -/

/-- The customer with the given identifier. -/
def customer? (m : Memory) (id : Int64) : Option Customer := m.customers.find? (·.id == id)

/-- Keeps a customer in place of the one with the same identifier. -/
def putCustomer (m : Memory) (c : Customer) : Memory :=
  if m.customers.any (·.id == c.id) then
    { m with customers := m.customers.map fun old => if old.id == c.id then c else old }
  else { m with customers := m.customers ++ [c] }

/-- Changes the customer with the given identifier. -/
def updateCustomer (m : Memory) (id : Int64) (u : Customer.Update) : Except StoreError Memory :=
  match m.customer? id with
  | some c => .ok (m.putCustomer (c.apply u))
  | none => .error (.customerNotFound id)

/-- Sets every catalogue offset to 0. -/
def resetOffsets (m : Memory) : Memory :=
  { m with customers := m.customers.map fun c => { c with catalogOffset := 0 } }

/-! ## The catalogue -/

/-- The catalogue by rank. -/
def catalog (m : Memory) : List Catalog.Item := Catalog.sorted m.items

/-- The item with the given identifier. -/
def item? (m : Memory) (id : Uuid) : Option Catalog.Item := m.items.find? (·.id == id)

/-- Appends an item under the next rank. -/
def addItem (m : Memory) (item : Catalog.Item) : UInt32 × Memory :=
  let rank := UInt32.ofNat m.items.length
  (rank, { m with items := m.items ++ [{ item with rank }] })

/-- Takes the first item with the given identifier out and counts the ranks anew. -/
def removeItem (m : Memory) (id : Uuid) : Except StoreError Memory :=
  match m.items.findIdx? (·.id == id) with
  | some i => .ok { m with items := Catalog.renumber (m.items.eraseIdx i) }
  | none => .error (.noItem id)

/-- Gives the item at a place another rank. -/
def setRank (items : List Catalog.Item) (i : Nat) (rank : UInt32) : List Catalog.Item :=
  items.modify i fun item => { item with rank }

/-- Exchanges the ranks of two items. -/
def swapRanks (m : Memory) (up down : Uuid) : Except StoreError Memory :=
  match m.items.findIdx? (·.id == up), m.item? up with
  | some i, some a =>
    match m.items.findIdx? (·.id == down), m.item? down with
    | some j, some b => .ok { m with items := setRank (setRank m.items i b.rank) j a.rank }
    | _, _ => .error (.noItem down)
  | _, _ => .error (.noItem up)

/-- The rank of an item. -/
def rankOf (m : Memory) (id : Uuid) : Except StoreError UInt32 :=
  match m.item? id with
  | some item => .ok item.rank
  | none => .error (.noItem id)

/-- The item of a rank. -/
def idAt (m : Memory) (rank : UInt32) : Except StoreError Uuid :=
  match m.items.find? (·.rank == rank) with
  | some item => .ok item.id
  | none => .error (.itemNotFound ("rank " ++ Decimal.ofNat rank.toNat))

/-! ## Orders -/

/-- Keeps an order. -/
def saveOrder (m : Memory) (o : Order) : Memory := { m with orders := m.orders ++ [o] }

/-- The order with the given short identifier. -/
def order (m : Memory) (shortId : String) : Except StoreError Order :=
  match m.orders.find? (·.shortId == shortId) with
  | some o => .ok o
  | none => .error (.orderNotFound shortId)

/-- The orders of a customer. -/
def ordersOf (m : Memory) (id : Int64) : List Order := m.orders.filter (·.buyer.id == id)

/-- Marks the first order with the given short identifier that belongs to the customer. -/
def markPaid (m : Memory) (id : Int64) (shortId : String) : Except StoreError Memory :=
  match m.orders.findIdx? fun o => o.shortId == shortId && o.buyer.id == id with
  | some i => .ok { m with orders := m.orders.modify i fun o => { o with isPaid := true } }
  | none => .error (.orderNotFound shortId)

/-- A short identifier is not in use. -/
def isFree (m : Memory) (shortId : String) : Bool := !m.orders.any (·.shortId == shortId)

/-- The first candidate that is not in use, with the number of candidates looked at; `next` gives
the candidates from the `n`-th on. -/
def freeShortId (m : Memory) (next : Nat → String) : Nat → Nat → Except StoreError String × Nat
  | 0, n => (.error (.corrupted "short id space exhausted"), n)
  | attempts + 1, n =>
    if m.isFree (next n) then (.ok (next n), n + 1) else m.freeShortId next attempts (n + 1)

/-! ## Serving calls -/

/-- What a call leaves behind: the store, how many short identifiers were drawn, and the
announcement of a changed catalogue. -/
structure Aftermath where
  /-- The store. -/
  memory : Memory
  /-- Short identifiers drawn so far. -/
  drawn : Nat
  /-- The changed catalogue, if the call changed it. -/
  announced : Option (List Catalog.Item)

/-- A changed store without announcement; after an error the store is as before. -/
def settle (m : Memory) (drawn : Nat) (result : Except StoreError Memory) : Except StoreError Unit × Aftermath :=
  match result with
  | .ok m => (.ok (), ⟨m, drawn, none⟩)
  | .error e => (.error e, ⟨m, drawn, none⟩)

/-- A changed catalogue with its announcement; after an error the store is as before. -/
def announce (m : Memory) (drawn : Nat) (result : Except StoreError Memory) :
    Except StoreError Unit × Aftermath :=
  match result with
  | .ok m => (.ok (), ⟨m, drawn, some m.catalog⟩)
  | .error e => (.error e, ⟨m, drawn, none⟩)

/-- Serves a call.  Candidates for short identifiers come from `next`, of which the first `drawn`
are used up. -/
def serve (next : Nat → String) (m : Memory) (drawn : Nat) : (c : Call) → c.Reply × Aftermath
  | .customer id =>
    (match m.customer? id with
      | some c => .ok c
      | none => .error (.customerNotFound id), ⟨m, drawn, none⟩)
  | .saveCustomer c => (.ok (), ⟨m.putCustomer c, drawn, none⟩)
  | .updateCustomer id u => m.settle drawn (m.updateCustomer id u)
  | .updateStep id s => m.settle drawn (m.updateCustomer id { Customer.Update.none with step := some s })
  | .resetOffsets => (.ok (), ⟨m.resetOffsets, drawn, none⟩)
  | .catalog => (.ok m.catalog, ⟨m, drawn, none⟩)
  | .addItem item =>
    let (rank, m) := m.addItem item
    (.ok rank, ⟨m, drawn, some m.catalog⟩)
  | .removeItem id => m.announce drawn (m.removeItem id)
  | .swapRanks up down => m.announce drawn (m.swapRanks up down)
  | .rankOf id => (m.rankOf id, ⟨m, drawn, none⟩)
  | .idAt rank => (m.idAt rank, ⟨m, drawn, none⟩)
  | .saveOrder o => (.ok (), ⟨m.saveOrder o, drawn, none⟩)
  | .order shortId => (m.order shortId, ⟨m, drawn, none⟩)
  | .freeShortId =>
    let (reply, drawn) := m.freeShortId next shortIdAttempts drawn
    (reply, ⟨m, drawn, none⟩)
  | .ordersOf id => (.ok (m.ordersOf id), ⟨m, drawn, none⟩)
  | .markPaid id shortId => m.settle drawn (m.markPaid id shortId)

end Memory

end OrderDesk.Store
