/-!
# Steps of the conversation

At every moment a customer is in one of sixteen steps.  A step is kept as a small number, shown in
messages by its name, and decides which free text, if any, it is answered with.
-/

namespace OrderDesk

/-- One point in the conversation. -/
inductive Step where
  /-- Nothing is asked. -/
  | idle
  /-- Delivery speed of a fresh cart. -/
  | orderType
  /-- Home region of a fresh cart. -/
  | location
  | category
  | size
  | button
  | price
  | link
  /-- The line to take out of the cart. -/
  | cartPositionToEdit
  | calculatorOrderType
  | calculatorLocation
  | calculatorCategory
  | calculatorAmount
  | fullName
  | phoneNumber
  | deliveryAddress
  deriving DecidableEq, Repr, Inhabited

/-- A kind of free text that the conversation collects. -/
inductive Input where
  | size
  | price
  | link
  | calculatorAmount
  | fullName
  | phoneNumber
  | deliveryAddress
  deriving DecidableEq, Repr

/-- The name of a kind of input. -/
def Input.name : Input → String
  | size => "Size"
  | price => "Price"
  | link => "Link"
  | calculatorAmount => "CalculatorAmount"
  | fullName => "FullName"
  | phoneNumber => "PhoneNumber"
  | deliveryAddress => "DeliveryAddress"

namespace Step

/-- All steps in the order of their numbers. -/
def all : List Step :=
  [idle, orderType, location, category, size, button, price, link, cartPositionToEdit,
   calculatorOrderType, calculatorLocation, calculatorCategory, calculatorAmount,
   fullName, phoneNumber, deliveryAddress]

/-- The number under which a step is kept. -/
def code : Step → Nat
  | idle => 0
  | orderType => 1
  | location => 2
  | category => 3
  | size => 4
  | button => 5
  | price => 6
  | link => 7
  | cartPositionToEdit => 8
  | calculatorOrderType => 9
  | calculatorLocation => 10
  | calculatorCategory => 11
  | calculatorAmount => 12
  | fullName => 13
  | phoneNumber => 14
  | deliveryAddress => 15

/-- The step with the given number. -/
def ofCode? (n : Int) : Option Step := all.find? fun s => (s.code : Int) == n

/-- The name of a step. -/
def name : Step → String
  | idle => "Default"
  | orderType => "WaitingForOrderType"
  | location => "WaitingForLocation"
  | category => "WaitingForCategory"
  | size => "WaitingForSize"
  | button => "WaitingForButton"
  | price => "WaitingForPrice"
  | link => "WaitingForLink"
  | cartPositionToEdit => "WaitingForCartPositionToEdit"
  | calculatorOrderType => "WaitingForCalculatorOrderType"
  | calculatorLocation => "WaitingForCalculatorLocation"
  | calculatorCategory => "WaitingForCalculatorCategory"
  | calculatorAmount => "WaitingForCalculatorInput"
  | fullName => "WaitingForFullName"
  | phoneNumber => "WaitingForPhoneNumber"
  | deliveryAddress => "WaitingForDeliveryAddress"

/-- The free text a step is answered with; steps that are answered with buttons have none. -/
def input? : Step → Option Input
  | size => some .size
  | price => some .price
  | link => some .link
  | calculatorAmount => some .calculatorAmount
  | fullName => some .fullName
  | phoneNumber => some .phoneNumber
  | deliveryAddress => some .deliveryAddress
  | _ => none

end Step

end OrderDesk
