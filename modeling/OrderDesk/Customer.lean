import OrderDesk.Cart
import OrderDesk.Step

/-!
# Customers

What the desk knows of a customer, and changes to some fields of it.
-/

namespace OrderDesk

/-- A person in the conversation, registered on first contact. -/
structure Customer where
  /-- The chat's own identifier. -/
  id : Int64
  /-- Name shown in the chat. -/
  username : String
  /-- Full name, once given. -/
  fullName : Option String
  /-- Phone number, once given. -/
  phoneNumber : Option String
  step : Step
  /-- Lines collected so far. -/
  cart : Cart
  /-- Delivery terms of the cart. -/
  terms : Terms
  calculatorTerms : Terms
  /-- Number of the catalogue item looked at last. -/
  catalogOffset : UInt64
  /-- The line being collected. -/
  draft : Option Draft
  deriving DecidableEq, Repr

namespace Customer

/-- A customer on first contact. -/
def fresh (id : Int64) (username : String) : Customer :=
  { id, username, fullName := none, phoneNumber := none, step := .idle, cart := .empty
    terms := .empty, calculatorTerms := .empty, catalogOffset := 0, draft := none }

instance : Inhabited Customer := ⟨fresh 0 ""⟩

/-- The full name where it is known, else the name shown in the chat. -/
def displayName (c : Customer) : String := c.fullName.getD c.username

/-- New values for some fields. -/
structure Update where
  step : Option Step
  /-- Name shown in the chat. -/
  username : Option String
  fullName : Option String
  phoneNumber : Option String
  cart : Option Cart
  terms : Option Terms
  calculatorTerms : Option Terms
  /-- Catalogue item looked at last. -/
  catalogOffset : Option UInt64
  /-- The line being collected; the inner `none` clears it. -/
  draft : Option (Option Draft)
  deriving DecidableEq, Repr

namespace Update

/-- No new values. -/
def none : Update := ⟨.none, .none, .none, .none, .none, .none, .none, .none, .none⟩

instance : Inhabited Update := ⟨none⟩

/-- There are no new values. -/
def isEmpty (u : Update) : Bool := u == none

end Update

/-- Puts the new values in. -/
def apply (u : Update) (c : Customer) : Customer :=
  { c with
    step := u.step.getD c.step
    username := u.username.getD c.username
    fullName := u.fullName <|> c.fullName
    phoneNumber := u.phoneNumber <|> c.phoneNumber
    cart := u.cart.getD c.cart
    terms := u.terms.getD c.terms
    calculatorTerms := u.calculatorTerms.getD c.calculatorTerms
    catalogOffset := u.catalogOffset.getD c.catalogOffset
    draft := u.draft.getD c.draft }

end Customer

/-- The name stored for a new customer: the chat name, else first and last name, else the first
name. -/
def chatName (firstName : String) (lastName username : Option String) : String :=
  match username.filter (· != "") with
  | some name => name
  | none => match lastName.filter (· != "") with
    | some lastName => firstName ++ " " ++ lastName
    | none => firstName

end OrderDesk
