import OrderDesk.Conversation.Listing
import OrderDesk.Conversation.Turn

/-!
# Checkout and payment

Full name, phone number and address are asked for in turn.  The address makes an order of the cart:
the cart is emptied first, so that a line is never in a cart and in an order at once, and is put
back if the order cannot be kept.
-/

namespace OrderDesk.Desk

variable (desk : Desk)

/-- Starts checkout. -/
def checkout (chat : Int64) (customer : Customer) : Turn Unit := do
  if customer.cart.isEmpty then desk.send chat "cart-empty"
  else
    Turn.goTo customer .fullName
    desk.send chat "enter-full-name"

/-- Takes the full name.  An express order of several lines goes no further. -/
def handleFullName (chat : Int64) (customer : Customer) (input : String) : Turn Unit := do
  if customer.terms.isExpress && 1 < customer.cart.size then
    desk.sendRows chat "express-single-position" desk.keyboards.cartPreview
  else match Answer.fullName? input with
    | none => desk.send chat "fullname-invalid"
    | some name =>
      Turn.update customer { Customer.Update.none with fullName := some name, step := some .phoneNumber }
      desk.send chat "enter-phone"

/-- Takes the phone number. -/
def handlePhoneNumber (chat : Int64) (customer : Customer) (input : String) : Turn Unit := do
  match Answer.phoneNumber? input with
  | none => desk.send chat "phone-invalid"
  | some number =>
    Turn.update customer
      { Customer.Update.none with phoneNumber := some number, step := some .deliveryAddress }
    desk.send chat "enter-address"

/-- Keeps an order; if that fails the cart is put back. -/
def keepOrder (customer : Customer) (order : Order) : Turn Unit := do
  Turn.update customer
    { Customer.Update.none with
      cart := some .empty, terms := some .empty, draft := some none, step := some .idle }
  match ← Turn.ask (.store (.saveOrder order)) with
  | .ok () => return ()
  | .error e =>
    let _ ← Turn.ask (.store (.updateCustomer customer.id
      { Customer.Update.none with
        cart := some customer.cart, terms := some customer.terms, step := some customer.step }))
    throw (.store e)

/-- Takes the address: keeps the order, then shows it and asks for payment. -/
def handleDeliveryAddress (chat : Int64) (customer : Customer) (input : String) : Turn Unit := do
  match Answer.address? input with
  | none => desk.send chat "address-invalid"
  | some address =>
    let shortId ← Turn.store .freeShortId
    let order := Order.ofCustomer customer address customer.terms.isExpress shortId
      (← Turn.ask .newId) (← Turn.ask .now)
    keepOrder customer order
    sendText chat (describeOrder desk.texts order) none
    let rows ← Turn.ofExcept .callback (paidRows desk.texts order.shortId)
    sendText chat
      (desk.texts.getWith "requisites"
        [("total_rub", amountText order.amountRub), ("requisites", desk.settings.requisites)])
      (some (.inline rows))

/-- The order with the given short identifier, if it is the customer's. -/
def ownOrder? (customer : Customer) (shortId : String) : Turn (Option Order) := do
  match ← Turn.ask (.store (.order shortId)) with
  | .ok order => return if order.buyer.id = customer.id then some order else none
  | .error (.orderNotFound _) => return none
  | .error e => throw (.store e)

/-- Marks an order as paid; only its buyer can. -/
def paid (chat : Int64) (customer : Customer) (shortId : Option String) : Turn Unit := do
  match shortId with
  | none => throw .invalidUpdate
  | some shortId =>
    match ← ownOrder? customer shortId with
    | none => desk.send chat "order-not-found"
    | some order =>
      Turn.store (.markPaid customer.id order.shortId)
      sendText chat (desk.texts.getWith "payment-received" [("short_id", order.shortId)]) none

end OrderDesk.Desk
