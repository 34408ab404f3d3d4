import OrderDesk.Catalog.Item
import OrderDesk.Failure
import OrderDesk.Order
import OrderDesk.Program

/-!
# What a store can be asked

Customers, the catalogue and orders are kept in a store.  The desk only ever makes these calls; any
store answers each with a value or an error.
-/

namespace OrderDesk.Store

/-- A call to the store. -/
inductive Call where
  /-- The customer with the given identifier. -/
  | customer (id : Int64)
  | saveCustomer (c : Customer)
  /-- Change some fields of a customer. -/
  | updateCustomer (id : Int64) (u : Customer.Update)
  /-- Change the step of a customer. -/
  | updateStep (id : Int64) (s : Step)
  /-- Set every customer's catalogue offset to 0. -/
  | resetOffsets
  | catalog
  /-- Append an item; its rank. -/
  | addItem (item : Catalog.Item)
  /-- Take an item out. -/
  | removeItem (id : Uuid)
  /-- Exchange the ranks of two items. -/
  | swapRanks (up down : Uuid)
  | rankOf (id : Uuid)
  | idAt (rank : UInt32)
  | saveOrder (o : Order)
  /-- The order with the given short identifier. -/
  | order (shortId : String)
  /-- A short identifier that no order has. -/
  | freeShortId
  | ordersOf (id : Int64)
  /-- Mark an order of a customer as paid. -/
  | markPaid (id : Int64) (shortId : String)
  deriving Repr

namespace Call

/-- What a call gives when it succeeds. -/
abbrev Value : Call → Type
  | customer _ => Customer
  | saveCustomer _ => Unit
  | updateCustomer _ _ => Unit
  | updateStep _ _ => Unit
  | resetOffsets => Unit
  | catalog => List Catalog.Item
  | addItem _ => UInt32
  | removeItem _ => Unit
  | swapRanks _ _ => Unit
  | rankOf _ => UInt32
  | idAt _ => Uuid
  | saveOrder _ => Unit
  | order _ => Order
  | freeShortId => String
  | ordersOf _ => List Order
  | markPaid _ _ => Unit

/-- The reply to a call. -/
abbrev Reply (c : Call) : Type := Except StoreError c.Value

end Call

/-- A piece of work on a store that can fail. -/
abbrev Work (α : Type) : Type := ExceptT StoreError (Program Call Call.Reply) α

/-- A single call as a piece of work. -/
def perform (c : Call) : Work c.Value := ExceptT.mk (Program.call c)

/-- How often a free short identifier is looked for. -/
def shortIdAttempts : Nat := 32

end OrderDesk.Store
