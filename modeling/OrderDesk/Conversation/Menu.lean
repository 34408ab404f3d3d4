import OrderDesk.Conversation.Listing
import OrderDesk.Conversation.Turn

/-!
# Start, menu, past orders and frequent questions
-/

namespace OrderDesk.Desk

variable (desk : Desk)

/-- Leaves whatever step the customer is in. -/
def leaveStep (customer : Customer) : Turn Unit :=
  if customer.step = .idle then pure () else Turn.goTo customer .idle

/-- Welcomes with the keys under the input field, then tells the rate if there is one. -/
def start (chat : Int64) (customer : Customer) : Turn Unit := do
  leaveStep customer
  desk.sendWith chat "welcome" desk.keyboards.bottomMenu
  match ← Turn.rate with
  | .ok rate => sendText chat (desk.texts.getWith "yuan-rate" [("rate", Decimal.fixed 2 rate)]) none
  | .error _ => return ()

/-- Shows the menu. -/
def menu (chat : Int64) (customer : Customer) : Turn Unit := do
  leaveStep customer
  desk.sendRows chat "menu-title" desk.keyboards.menu

/-- Lists the customer's orders. -/
def myOrders (chat : Int64) (customer : Customer) : Turn Unit := do
  let orders : List Order ← Turn.store (.ordersOf customer.id)
  if orders.isEmpty then desk.send chat "my-orders-empty"
  else sendText chat (describeOrders desk.texts orders) none

/-- Shows the frequent questions. -/
def faq (chat : Int64) : Turn Unit := desk.sendRows chat "faq-title" desk.keyboards.faq

/-- Answers the question with the given number. -/
def faqAnswer (chat : Int64) (index : Nat) : Turn Unit := do
  match desk.settings.faq[index]? with
  | some entry => sendText chat ("❓ " ++ entry.question ++ "\n\n" ++ entry.answer) none
  | none => throw .invalidUpdate

end OrderDesk.Desk
