import OrderDesk.Conversation.Listing
import OrderDesk.Conversation.Turn

/-!
# Showing and changing the cart
-/

namespace OrderDesk.Desk

variable (desk : Desk)

/-- Shows the cart. -/
def showCart (chat : Int64) (customer : Customer) : Turn Unit :=
  if customer.cart.isEmpty then desk.send chat "cart-empty"
  else sendText chat (describeCart desk.texts customer.cart) (some (.inline desk.keyboards.cartPreview))

/-- Offers to take lines out. -/
def editCart (chat : Int64) (customer : Customer) : Turn Unit := do
  if customer.cart.isEmpty then desk.send chat "cart-empty"
  else
    let rows ← Turn.ofExcept .callback (editCartRows desk.texts customer.cart)
    Turn.goTo customer .cartPositionToEdit
    desk.sendRows chat "cart-choose-position" rows

/-- The cart without the line of the given number; without such a line it stays as it is. -/
def withoutLine (cart : Cart) (index : Nat) : Cart :=
  match cart.get? index with
  | some p => (cart.remove p.id).1
  | none => cart

/-- Takes a line out and shows the buttons for the rest, in the message they stand under where it is
known. -/
def removePosition (chat : Int64) (customer : Customer) (index : Nat) (message : Option Int32) :
    Turn Unit := do
  let cart := withoutLine customer.cart index
  Turn.update customer
    { Customer.Update.none with
      cart := some cart, step := if cart.isEmpty then some .idle else none }
  if cart.isEmpty then
    match message with
    | some message => Turn.chat (.delete chat message)
    | none => pure ()
    desk.send chat "cart-now-empty"
  else
    let rows ← Turn.ofExcept .callback (editCartRows desk.texts cart)
    desk.showRows chat message "cart-choose-position" rows

end OrderDesk.Desk
