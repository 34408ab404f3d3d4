import OrderDesk.Customer
import OrderDesk.Instant

/-!
# Orders

An order is what a cart was at checkout, with a short identifier for people.
-/

namespace OrderDesk

/-- How far an order has come. -/
inductive OrderStatus where
  /-- Not looked at yet. -/
  | notApproved
  /-- Accepted. -/
  | approved
  /-- Bought. -/
  | buyout
  /-- Under way. -/
  | transported
  /-- Handed over. -/
  | delivered
  deriving DecidableEq, Repr

namespace OrderStatus

/-- All statuses. -/
def all : List OrderStatus := [notApproved, approved, buyout, transported, delivered]

/-- The name of a status in records. -/
def name : OrderStatus → String
  | notApproved => "NotApproved"
  | approved => "Approved"
  | buyout => "Buyout"
  | transported => "Transported"
  | delivered => "Delivered"

/-- The status with the given name. -/
def ofName? (name : String) : Option OrderStatus := all.find? (·.name == name)

/-- The word for a status in the database and in phrase keys. -/
def word : OrderStatus → String
  | notApproved => "not_approved"
  | approved => "approved"
  | buyout => "buyout"
  | transported => "transported"
  | delivered => "delivered"

/-- The status with the given word. -/
def ofWord? (word : String) : Option OrderStatus := all.find? (·.word == word)

end OrderStatus

/-- Who placed an order, as known at checkout. -/
structure Buyer where
  /-- The chat's own identifier. -/
  id : Int64
  /-- Name shown in the chat. -/
  username : String
  fullName : Option String
  phoneNumber : Option String
  deriving DecidableEq, Repr

/-- The buyer that a customer is. -/
def Buyer.ofCustomer (c : Customer) : Buyer := ⟨c.id, c.username, c.fullName, c.phoneNumber⟩

/-- An order. -/
structure Order where
  id : Uuid
  /-- Identifier for people. -/
  shortId : String
  /-- Who placed it. -/
  buyer : Buyer
  /-- What was ordered. -/
  cart : Cart
  /-- Sum of the quoted prices. -/
  amountRub : UInt64
  /-- Sum of the shop prices. -/
  amountYuan : UInt64
  deliveryAddress : String
  isExpress : Bool
  /-- Paid, by the buyer's word. -/
  isPaid : Bool
  /-- Looked at and accepted. -/
  isApproved : Bool
  /-- How far it has come. -/
  status : OrderStatus
  /-- Remark of the operator. -/
  comment : Option String
  /-- Time of the order. -/
  createdAt : Instant
  deriving DecidableEq, Repr

namespace Order

/-- The order of a customer's cart. -/
def ofCustomer (c : Customer) (address : String) (isExpress : Bool) (shortId : String) (id : Uuid)
    (createdAt : Instant) : Order :=
  { id, shortId, buyer := .ofCustomer c, cart := c.cart
    amountRub := c.cart.totalRub, amountYuan := c.cart.totalYuan
    deliveryAddress := address, isExpress, isPaid := false, isApproved := false
    status := .notApproved, comment := none, createdAt }

end Order

/-! ## Short identifiers -/

/-- The characters of short identifiers: digits and capital letters without `I` and `O`. -/
def shortIdAlphabet : List Char := "0123456789ABCDEFGHJKLMNPQRSTUVWXYZ".toList

/-- The number of characters of a short identifier. -/
def shortIdLength : Nat := 6

/-- The short identifier that a number drawn at random stands for. -/
def shortIdOf (draw : Nat) : String :=
  String.ofList ((List.range shortIdLength).map fun i =>
    shortIdAlphabet.getD (draw / Nat.pow shortIdAlphabet.length i % shortIdAlphabet.length) '0')

end OrderDesk
