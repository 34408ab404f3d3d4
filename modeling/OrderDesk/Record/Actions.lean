import OrderDesk.Callback.Action
import OrderDesk.Record.Records

/-!
# Actions and button data as JSON

An action is its name and its argument, `null` where it has none.
-/

namespace OrderDesk

open Json (Value)

namespace Action

/-- The name of an action and its argument. -/
def nameAndArgument : Action → String × Value
  | catalog => ("Catalog", .null)
  | makeOrder => ("MakeOrder", .null)
  | showCart => ("GetCart", .null)
  | myOrders => ("MyOrders", .null)
  | guideStep n => ("GuideStep", .integer n.toNat)
  | addPosition => ("AddPosition", .null)
  | orderType t => ("OrderType", t.toRecord)
  | location l => ("Location", l.toRecord)
  | category c => ("Category", c.toRecord)
  | button b => ("Button", b.toRecord)
  | calculator => ("Calculator", .null)
  | calculatorOrderType t => ("CalculatorOrderType", t.toRecord)
  | calculatorLocation l => ("CalculatorLocation", l.toRecord)
  | calculatorCategory c => ("CalculatorCategory", c.toRecord)
  | editCart => ("EditCart", .null)
  | checkout => ("Checkout", .null)
  | faq => ("Faq", .null)
  | menu => ("Menu", .null)
  | calculateMore => ("CalculateMore", .null)
  | paid => ("Paid", .null)
  | removePosition i => ("RemovePosition", .integer i)
  | catalogPrev => ("CatalogPrev", .null)
  | catalogNext => ("CatalogNext", .null)
  | faqAnswer i => ("FaqAnswer", .integer i)

/-- An action as a record. -/
def toRecord (a : Action) : Value :=
  .object [("name", .string a.nameAndArgument.1), ("arg", a.nameAndArgument.2)]

/-- The actions without an argument. -/
def bare : List Action :=
  [catalog, makeOrder, showCart, myOrders, addPosition, calculator, editCart, checkout, faq, menu,
   calculateMore, paid, catalogPrev, catalogNext]

/-- The action with the given name and argument. -/
def ofNameAndArgument? (name : String) (argument : Value) : Option Action :=
  let index := argument.integer?.map Int.toNat
  match name with
  | "GuideStep" => index.map fun n => guideStep (UInt8.ofNat n)
  | "OrderType" => (OrderType.ofRecord? argument).map orderType
  | "Location" => (Location.ofRecord? argument).map location
  | "Category" => (Category.ofRecord? argument).map category
  | "Button" => (PriceButton.ofRecord? argument).map button
  | "CalculatorOrderType" => (OrderType.ofRecord? argument).map calculatorOrderType
  | "CalculatorLocation" => (Location.ofRecord? argument).map calculatorLocation
  | "CalculatorCategory" => (Category.ofRecord? argument).map calculatorCategory
  | "RemovePosition" => index.map removePosition
  | "FaqAnswer" => index.map faqAnswer
  | name => bare.find? (·.nameAndArgument.1 == name)

/-- An action out of a record. -/
def ofRecord? (v : Value) : Option Action := do
  let name ← (v.field? "name").bind Value.string?
  ofNameAndArgument? name ((v.field? "arg").getD .null)

end Action

/-- A payload as a record. -/
def Payload.toRecord : Payload → Value
  | none => .object [("kind", .string "none")]
  | messageIds ids =>
    .object [("kind", .string "ids"), ("ids", .array (ids.map fun id => .integer id.toInt))]
  | text s => .object [("kind", .string "text"), ("text", .string s)]

/-- Button data as a record, with both views of the payload. -/
def ButtonData.toRecord (d : ButtonData) : Value :=
  .object [("code", .integer d.code.toInt), ("payload", d.payload.toRecord),
           ("message_ids", .array (d.messageIds.map fun id => .integer id.toInt)),
           ("text", .ofOption .string d.text?)]

end OrderDesk
