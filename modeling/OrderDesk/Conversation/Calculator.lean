import OrderDesk.Conversation.Listing
import OrderDesk.Conversation.Turn

/-!
# The calculator

Asks for the delivery terms as an order does, but keeps them apart from those of the cart.
-/

namespace OrderDesk.Desk

variable (desk : Desk)

/-- Keeps terms of the calculator and goes to a step. -/
def calculate (customer : Customer) (terms : Terms) (s : Step) : Turn Unit :=
  Turn.update customer { Customer.Update.none with calculatorTerms := some terms, step := some s }

/-- Starts the calculator. -/
def calculator (chat : Int64) (customer : Customer) : Turn Unit := do
  calculate customer .empty .calculatorOrderType
  desk.sendRows chat "choose-order-type" desk.keyboards.calculatorOrderType

/-- Takes the delivery speed; express delivery needs no region. -/
def calculatorOrderType (chat : Int64) (customer : Customer) (t : OrderType) : Turn Unit := do
  let terms := { customer.calculatorTerms with orderType := some t }
  match t with
  | .express =>
    calculate customer { terms with location := some .other } .calculatorCategory
    desk.sendRows chat "choose-category" desk.keyboards.calculatorCategory
  | .normal =>
    calculate customer terms .calculatorLocation
    desk.sendRows chat "choose-location" desk.keyboards.calculatorLocation

/-- Takes the region. -/
def calculatorLocation (chat : Int64) (customer : Customer) (l : Location) : Turn Unit := do
  calculate customer { customer.calculatorTerms with location := some l } .calculatorCategory
  desk.sendRows chat "choose-category" desk.keyboards.calculatorCategory

/-- Takes the weight class. -/
def calculatorCategory (chat : Int64) (customer : Customer) (c : Category) : Turn Unit := do
  calculate customer { customer.calculatorTerms with category := some c } .calculatorAmount
  desk.send chat "calculator-enter-amount"

/-- Takes the amount and tells the price. -/
def calculatorAmount (chat : Int64) (customer : Customer) (input : String) : Turn Unit := do
  match Answer.price? input with
  | none => desk.send chat "price-invalid"
  | some amount =>
    let price ← Turn.quote amount customer.calculatorTerms
    Turn.goTo customer .idle
    sendText chat (desk.texts.getWith "calculator-result" [("price_rub", amountText price)])
      (some (.inline desk.keyboards.calculateMore))

end OrderDesk.Desk
