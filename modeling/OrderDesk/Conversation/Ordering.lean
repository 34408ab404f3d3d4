import OrderDesk.Conversation.Listing
import OrderDesk.Conversation.Turn

/-!
# Collecting a position

A fresh cart begins with the delivery terms: order type, for normal delivery the region, then the
weight class.  A cart that has lines keeps its terms and begins with the weight class.  Size, price
button, price and link follow, and the link completes the position.
-/

namespace OrderDesk.Desk

variable (desk : Desk)

/-- The line being collected; without one the event fits nothing. -/
def draftOf (customer : Customer) : Turn Draft :=
  match customer.draft with
  | some draft => pure draft
  | none => throw .invalidUpdate

/-- Starts a position. -/
def addPosition (chat : Int64) (customer : Customer) : Turn Unit := do
  if maxCartLines ≤ customer.cart.size then desk.send chat "cart-full"
  else if customer.cart.isEmpty then
    Turn.update customer
      { Customer.Update.none with step := some .orderType, terms := some .empty, draft := some none }
    desk.sendRows chat "choose-order-type" desk.keyboards.orderType
  else
    Turn.update customer { Customer.Update.none with step := some .category, draft := some none }
    desk.sendRows chat "choose-category" desk.keyboards.category

/-- Takes the delivery speed; express delivery needs no region. -/
def handleOrderType (chat : Int64) (customer : Customer) (t : OrderType) : Turn Unit := do
  let terms := { customer.terms with orderType := some t }
  match t with
  | .express =>
    Turn.update customer
      { Customer.Update.none with
        terms := some { terms with location := some .other }, step := some .category }
    desk.sendRows chat "choose-category" desk.keyboards.category
  | .normal =>
    Turn.update customer { Customer.Update.none with terms := some terms, step := some .location }
    desk.sendRows chat "choose-location" desk.keyboards.location

/-- Takes the region. -/
def handleLocation (chat : Int64) (customer : Customer) (l : Location) : Turn Unit := do
  Turn.update customer
    { Customer.Update.none with
      terms := some { customer.terms with location := some l }, step := some .category }
  desk.sendRows chat "choose-category" desk.keyboards.category

/-- Takes the weight class and starts a draft. -/
def handleCategory (chat : Int64) (customer : Customer) (c : Category) : Turn Unit := do
  let id ← Turn.ask .newId
  Turn.update customer
    { Customer.Update.none with
      terms := some { customer.terms with category := some c }
      draft := some (some (.start id (some c)))
      step := some .size }
  desk.send chat "enter-size"

/-- Takes the size. -/
def handleSize (chat : Int64) (customer : Customer) (input : String) : Turn Unit := do
  match Answer.size? input with
  | none => desk.send chat "size-invalid"
  | some size =>
    let draft ← draftOf customer
    Turn.update customer
      { Customer.Update.none with draft := some (some { draft with size := some size }), step := some .button }
    desk.sendRows chat "choose-button" desk.keyboards.button

/-- Takes the price button. -/
def handleButton (chat : Int64) (customer : Customer) (b : PriceButton) : Turn Unit := do
  let draft ← draftOf customer
  Turn.update customer
    { Customer.Update.none with draft := some (some { draft with button := some b }), step := some .price }
  desk.send chat "enter-price"

/-- Takes the price in yuan and tells the price in roubles. -/
def handlePrice (chat : Int64) (customer : Customer) (input : String) : Turn Unit := do
  match Answer.price? input with
  | none => desk.send chat "price-invalid"
  | some priceYuan =>
    let draft ← draftOf customer
    let priceRub ← Turn.quote priceYuan
      { customer.terms with category := draft.category <|> customer.terms.category }
    Turn.update customer
      { Customer.Update.none with
        draft := some (some { draft with priceYuan := some priceYuan, priceRub := some priceRub })
        step := some .link }
    sendText chat (desk.texts.getWith "price-calculated" [("price_rub", amountText priceRub)]) none

/-- Takes the link and puts the position into the cart. -/
def handleLink (chat : Int64) (customer : Customer) (input : String) : Turn Unit := do
  match Answer.link? desk.linkPattern input with
  | none => desk.send chat "link-invalid"
  | some link =>
    if maxCartLines ≤ customer.cart.size then
      Turn.update customer { Customer.Update.none with draft := some none, step := some .idle }
      desk.send chat "cart-full"
    else
      let draft ← draftOf customer
      match { draft with shopLink := some link }.complete? with
      | none => throw .invalidUpdate
      | some position =>
        Turn.update customer
          { Customer.Update.none with
            cart := some (customer.cart.add position), draft := some none, step := some .idle }
        desk.sendRows chat "position-added" desk.keyboards.positionAdded

end OrderDesk.Desk
