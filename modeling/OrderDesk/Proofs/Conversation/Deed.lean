import OrderDesk.Proofs.Conversation.Request
import OrderDesk.Proofs.Conversation.Ways

/-!
# What a request can change

`Move` lists every change that a request can make to the record of its customer, with the conditions
under which it is made: one constructor for each edge of the conversation.  `Deed` adds the two
requests that write something else, the address that turns a cart into an order and the payment of
an order.  Whatever replies the surroundings give, a request writes what one deed says and nothing
else (`Conversation/Handlers`); every invariant of the conversation is therefore a matter of going
through the moves once.
-/

namespace OrderDesk

open Store (Memory)

/-- What is taken out of a customer's record when an order is made of the cart. -/
def Customer.Update.clearing : Customer.Update :=
  { Customer.Update.none with
    cart := some .empty, terms := some .empty, draft := some Option.none, step := some .idle }

namespace Desk

/-! ## Requests with several names -/

/-- A request to leave whatever step the customer is in. -/
def Request.leaves : Request → Bool
  | command .start => true
  | command .menu => true
  | press .menu _ _ => true
  | _ => false

/-- A request to begin a position. -/
def Request.begins : Request → Bool
  | command .addPosition => true
  | press .makeOrder _ _ => true
  | press .addPosition _ _ => true
  | _ => false

/-- A request to begin a calculation. -/
def Request.calculates : Request → Bool
  | press .calculator _ _ => true
  | press .calculateMore _ _ => true
  | _ => false

/-- The way a request turns the pages of the catalogue. -/
def Request.direction? : Request → Option Direction
  | press .catalogPrev _ _ => some .prev
  | press .catalogNext _ _ => some .next
  | _ => none

/-! ## Moves -/

/-- The price of an amount by the given terms, at a rate that may be given. -/
def Quoted (σ : Sources) (amount : UInt64) (terms : Terms) (rub : UInt64) : Prop :=
  ∃ complete rate, terms.complete = .ok complete ∧ σ.rate (.ok rate) ∧
    complete.price amount rate = .ok rub

/-- The changes that requests can make to the record of a customer. -/
inductive Move (desk : Desk) (σ : Sources) (c : Customer) : Request → Customer.Update → Prop where
  /-- Nothing is asked any more. -/
  | leave {q : Request} (hq : q.leaves) :
    Move desk σ c q { Customer.Update.none with step := some .idle }
  /-- The first position of a cart begins with the delivery speed. -/
  | beginCart {q : Request} (hq : q.begins) (hcart : c.cart.isEmpty) :
    Move desk σ c q
      { Customer.Update.none with
        step := some .orderType, terms := some .empty, draft := some none }
  /-- Every other position begins with the weight class. -/
  | beginLine {q : Request} (hq : q.begins) (hcart : ¬ c.cart.isEmpty)
    (hsize : c.cart.size < maxCartLines) :
    Move desk σ c q { Customer.Update.none with step := some .category, draft := some none }
  /-- Express delivery is from nowhere in particular. -/
  | express {data : ButtonData} {message : Option Int32} (hstep : c.step = .orderType) :
    Move desk σ c (.press (.orderType .express) data message)
      { Customer.Update.none with
        terms := some { c.terms with orderType := some .express, location := some .other }
        step := some .category }
  | normal {data : ButtonData} {message : Option Int32} (hstep : c.step = .orderType) :
    Move desk σ c (.press (.orderType .normal) data message)
      { Customer.Update.none with
        terms := some { c.terms with orderType := some .normal }, step := some .location }
  | location {l : Location} {data : ButtonData} {message : Option Int32}
    (hstep : c.step = .location) :
    Move desk σ c (.press (.location l) data message)
      { Customer.Update.none with
        terms := some { c.terms with location := some l }, step := some .category }
  /-- The weight class starts a draft under a new identifier. -/
  | category {k : Category} {data : ButtonData} {message : Option Int32} {id : Uuid}
    (hstep : c.step = .category) (hid : σ.id id) :
    Move desk σ c (.press (.category k) data message)
      { Customer.Update.none with
        terms := some { c.terms with category := some k }
        draft := some (some (.start id (some k)))
        step := some .size }
  | size {text size : String} {draft : Draft} (hstep : c.step = .size)
    (hsize : Answer.size? text = some size) (hdraft : c.draft = some draft) :
    Move desk σ c (.answer .size text)
      { Customer.Update.none with
        draft := some (some { draft with size := some size }), step := some .button }
  | button {b : PriceButton} {data : ButtonData} {message : Option Int32} {draft : Draft}
    (hstep : c.step = .button) (hdraft : c.draft = some draft) :
    Move desk σ c (.press (.button b) data message)
      { Customer.Update.none with
        draft := some (some { draft with button := some b }), step := some .price }
  /-- The shop price, with the price quoted for it. -/
  | price {text : String} {yuan rub : UInt64} {draft : Draft} (hstep : c.step = .price)
    (hyuan : Answer.price? text = some yuan) (hdraft : c.draft = some draft)
    (hrub : Quoted σ yuan { c.terms with category := draft.category <|> c.terms.category } rub) :
    Move desk σ c (.answer .price text)
      { Customer.Update.none with
        draft := some (some { draft with priceYuan := some yuan, priceRub := some rub })
        step := some .link }
  /-- The link of a position for which there is no place. -/
  | cartFull {text link : String} (hstep : c.step = .link)
    (hlink : Answer.link? desk.linkPattern text = some link) (hsize : maxCartLines ≤ c.cart.size) :
    Move desk σ c (.answer .link text)
      { Customer.Update.none with draft := some none, step := some .idle }
  /-- The link completes a position, which goes into the cart. -/
  | link {text link : String} {draft : Draft} {p : Position} (hstep : c.step = .link)
    (hlink : Answer.link? desk.linkPattern text = some link) (hsize : c.cart.size < maxCartLines)
    (hdraft : c.draft = some draft)
    (hp : { draft with shopLink := some link }.complete? = some p) :
    Move desk σ c (.answer .link text)
      { Customer.Update.none with
        cart := some (c.cart.add p), draft := some none, step := some .idle }
  /-- Lines may be taken out. -/
  | editCart {data : ButtonData} {message : Option Int32} (hcart : ¬ c.cart.isEmpty) :
    Move desk σ c (.press .editCart data message)
      { Customer.Update.none with step := some .cartPositionToEdit }
  /-- A line is taken out. -/
  | removePosition {index : Nat} {data : ButtonData} {message : Option Int32}
    (hstep : c.step = .cartPositionToEdit) :
    Move desk σ c (.press (.removePosition index) data message)
      { Customer.Update.none with
        cart := some (withoutLine c.cart index)
        step := if (withoutLine c.cart index).isEmpty then some .idle else none }
  /-- A calculation begins with the delivery speed. -/
  | calculator {q : Request} (hq : q.calculates) :
    Move desk σ c q
      { Customer.Update.none with
        calculatorTerms := some .empty, step := some .calculatorOrderType }
  | calculatorExpress {data : ButtonData} {message : Option Int32}
    (hstep : c.step = .calculatorOrderType) :
    Move desk σ c (.press (.calculatorOrderType .express) data message)
      { Customer.Update.none with
        calculatorTerms := some
          { c.calculatorTerms with orderType := some .express, location := some .other }
        step := some .calculatorCategory }
  | calculatorNormal {data : ButtonData} {message : Option Int32}
    (hstep : c.step = .calculatorOrderType) :
    Move desk σ c (.press (.calculatorOrderType .normal) data message)
      { Customer.Update.none with
        calculatorTerms := some { c.calculatorTerms with orderType := some .normal }
        step := some .calculatorLocation }
  | calculatorLocation {l : Location} {data : ButtonData} {message : Option Int32}
    (hstep : c.step = .calculatorLocation) :
    Move desk σ c (.press (.calculatorLocation l) data message)
      { Customer.Update.none with
        calculatorTerms := some { c.calculatorTerms with location := some l }
        step := some .calculatorCategory }
  /-- The weight class in the calculator. -/
  | calculatorCategory {k : Category} {data : ButtonData} {message : Option Int32}
    (hstep : c.step = .calculatorCategory) :
    Move desk σ c (.press (.calculatorCategory k) data message)
      { Customer.Update.none with
        calculatorTerms := some { c.calculatorTerms with category := some k }
        step := some .calculatorAmount }
  | calculatorAmount {text : String} {yuan rub : UInt64} (hstep : c.step = .calculatorAmount)
    (hyuan : Answer.price? text = some yuan) (hrub : Quoted σ yuan c.calculatorTerms rub) :
    Move desk σ c (.answer .calculatorAmount text)
      { Customer.Update.none with step := some .idle }
  /-- Checkout begins with the full name. -/
  | checkout {data : ButtonData} {message : Option Int32} (hcart : ¬ c.cart.isEmpty) :
    Move desk σ c (.press .checkout data message)
      { Customer.Update.none with step := some .fullName }
  /-- The full name, for any cart but one of several lines with express delivery. -/
  | fullName {text name : String} (hstep : c.step = .fullName)
    (hexpress : ¬ (c.terms.isExpress ∧ 1 < c.cart.size))
    (hname : Answer.fullName? text = some name) :
    Move desk σ c (.answer .fullName text)
      { Customer.Update.none with fullName := some name, step := some .phoneNumber }
  | phoneNumber {text number : String} (hstep : c.step = .phoneNumber)
    (hnumber : Answer.phoneNumber? text = some number) :
    Move desk σ c (.answer .phoneNumber text)
      { Customer.Update.none with phoneNumber := some number, step := some .deliveryAddress }
  /-- An item that is no longer there gives way to the first. -/
  | look {data : ButtonData} {message : Option Int32} {shelf : Catalog.Shelf}
    (hshelf : σ.shelf shelf)
    (hoffset : shelf.clamp c.catalogOffset ≠ c.catalogOffset) :
    Move desk σ c (.press .catalog data message)
      { Customer.Update.none with catalogOffset := some (shelf.clamp c.catalogOffset) }
  /-- The item before or after. -/
  | turn {q : Request} {direction : Direction} {shelf : Catalog.Shelf} {offset : UInt64}
    (hq : q.direction? = some direction) (hshelf : σ.shelf shelf)
    (hoffset : neighbourOffset? shelf (shelf.clamp c.catalogOffset) direction = some offset) :
    Move desk σ c q { Customer.Update.none with catalogOffset := some offset }

/-! ## Deeds -/

/-- What a request of a customer can write. -/
inductive Deed (desk : Desk) (σ : Sources) (c : Customer) : Request → List Store.Call → Prop where
  | nothing {q : Request} : Deed desk σ c q []
  /-- One change of the customer's record. -/
  | move {q : Request} {u : Customer.Update} (h : Move desk σ c q u) :
    Deed desk σ c q [.updateCustomer c.id u]
  /-- The cart leaves the customer's record, and then it is kept as an order. -/
  | order {text address shortId : String} {id : Uuid} {createdAt : Instant}
    (hstep : c.step = .deliveryAddress) (haddress : Answer.address? text = some address) :
    Deed desk σ c (.answer .deliveryAddress text)
      [.updateCustomer c.id .clearing,
        .saveOrder (.ofCustomer c address c.terms.isExpress shortId id createdAt)]
  /-- The payment of an order. -/
  | pay {data : ButtonData} {message : Option Int32} {shortId : String}
    (htext : data.text? = some shortId) :
    Deed desk σ c (.press .paid data message) [.markPaid c.id shortId]

end Desk

end OrderDesk
