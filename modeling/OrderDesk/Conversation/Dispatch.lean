import OrderDesk.Conversation.Browsing
import OrderDesk.Conversation.Calculator
import OrderDesk.Conversation.CartEditing
import OrderDesk.Conversation.Checkout
import OrderDesk.Conversation.Menu
import OrderDesk.Conversation.Ordering

/-!
# From events to turns

The sender of an event is looked up, or registered on first contact.  A text is a command, or else
the answer to the step the customer is in; a press of a button is decoded, checked against the step
the button is bound to, and carried out.
-/

namespace OrderDesk

/-- What a customer can ask for at any moment, by typing or with the keys under the input field. -/
inductive Command where
  /-- Welcome. -/
  | start
  | menu
  | cart
  | addPosition
  deriving DecidableEq, Repr

namespace Command

/-- The name of a command. -/
def name : Command → String
  | start => "Start"
  | menu => "Menu"
  | cart => "Cart"
  | addPosition => "AddPosition"

/-- The command that a text is: one with a slash, or the label of a key. -/
def ofText? (k : Keyboards) (text : String) : Option Command :=
  let t := Text.trim text
  if t = "/start" then some start
  else if t = "/menu" then some menu
  else if t = "/cart" then some cart
  else if t = "/add" then some addPosition
  else if t = k.menuLabel then some menu
  else if t = k.cartLabel then some cart
  else if t = k.addPositionLabel then some addPosition
  else none

end Command

namespace Desk

variable (desk : Desk)

/-- The customer behind a sender, registered on first contact. -/
def loadCustomer (sender : Chat.Sender) : Turn Customer := do
  match ← Turn.ask (.store (.customer sender.id)) with
  | .ok customer => return customer
  | .error (.customerNotFound _) =>
    let customer := Customer.fresh sender.id (chatName sender.firstName sender.lastName sender.username)
    Turn.store (.saveCustomer customer)
    return customer
  | .error e => throw (.store e)

/-- Carries a command out. -/
def obey (chat : Int64) (customer : Customer) : Command → Turn Unit
  | .start => desk.start chat customer
  | .menu => desk.menu chat customer
  | .cart => desk.showCart chat customer
  | .addPosition => desk.addPosition chat customer

/-- Takes an answer. -/
def take (chat : Int64) (customer : Customer) (text : String) : Input → Turn Unit
  | .size => desk.handleSize chat customer text
  | .price => desk.handlePrice chat customer text
  | .link => desk.handleLink chat customer text
  | .calculatorAmount => desk.calculatorAmount chat customer text
  | .fullName => desk.handleFullName chat customer text
  | .phoneNumber => desk.handlePhoneNumber chat customer text
  | .deliveryAddress => desk.handleDeliveryAddress chat customer text

/-- Deals with a text. -/
def onText (chat : Int64) (customer : Customer) (text : String) : Turn Unit :=
  match Command.ofText? desk.keyboards text with
  | some command => desk.obey chat customer command
  | none => match customer.step.input? with
    | some input => desk.take chat customer text input
    | none => throw .noHandler

/-- Carries an action out.  The button's data and message come with it. -/
def act (chat : Int64) (customer : Customer) (data : ButtonData) (message : Option Int32) :
    Action → Turn Unit
  | .catalog => desk.catalog chat customer
  | .catalogPrev => desk.catalogStep chat customer .prev data.messageIds message
  | .catalogNext => desk.catalogStep chat customer .next data.messageIds message
  | .makeOrder => desk.addPosition chat customer
  | .addPosition => desk.addPosition chat customer
  | .showCart => desk.showCart chat customer
  | .editCart => desk.editCart chat customer
  | .removePosition index => desk.removePosition chat customer index message
  | .myOrders => desk.myOrders chat customer
  | .guideStep n => desk.guideStep chat n data.messageIds message
  | .orderType t => desk.handleOrderType chat customer t
  | .location l => desk.handleLocation chat customer l
  | .category c => desk.handleCategory chat customer c
  | .button b => desk.handleButton chat customer b
  | .calculator => desk.calculator chat customer
  | .calculateMore => desk.calculator chat customer
  | .calculatorOrderType t => desk.calculatorOrderType chat customer t
  | .calculatorLocation l => desk.calculatorLocation chat customer l
  | .calculatorCategory c => desk.calculatorCategory chat customer c
  | .checkout => desk.checkout chat customer
  | .paid => desk.paid chat customer data.text?
  | .faq => desk.faq chat
  | .faqAnswer index => desk.faqAnswer chat index
  | .menu => desk.menu chat customer

/-- The action behind a code; a code without one is an error. -/
def actionOf (code : Int32) : Except CallbackError Action :=
  match Action.ofCode? code with
  | some action => .ok action
  | none => .error (.invalidCode (Decimal.ofInt code.toInt))

/-- Deals with a press of a button. -/
def onPress (chat : Int64) (customer : Customer) (raw : String) (message : Option Int32) : Turn Unit := do
  let data ← Turn.ofExcept .callback (ButtonData.decode raw)
  let action ← Turn.ofExcept .callback (actionOf data.code)
  match action.requiredStep? with
  | some s => Turn.expect customer s
  | none => pure ()
  desk.act chat customer data message action

/-- Deals with an event. -/
def dispatch (event : Chat.Event) : Turn Unit := do
  let customer ← loadCustomer event.sender
  match event with
  | .text chat _ text => desk.onText chat customer text
  | .press chat _ message data => desk.onPress chat customer data message

/-- Tells the customer that something went wrong.  It does not matter whether that succeeds. -/
def apologize (chat : Int64) : Desk.Steps Unit := do
  let _ ← Program.call (.chat (.sendText chat (desk.texts.get "error-generic") none))
  return ()

end Desk

end OrderDesk
