/-!
# Delivery terms

How fast an order travels, where the customer lives and how heavy an item is.  Together they select
the price formula.
-/

namespace OrderDesk

/-- Delivery speed. -/
inductive OrderType where
  /-- About ten days. -/
  | express
  /-- Three to four weeks. -/
  | normal
  deriving DecidableEq, Repr

/-- The customer's home region. -/
inductive Location where
  | saintPetersburg
  | izhevsk
  /-- Anywhere else. -/
  | other
  deriving DecidableEq, Repr

/-- Shipping weight class of an item. -/
inductive Category where
  /-- Clothes and accessories. -/
  | light
  /-- Winter shoes and jackets. -/
  | heavy
  /-- Shoes and bags. -/
  | other
  deriving DecidableEq, Repr

/-- Delivery terms as far as they are chosen. -/
structure Terms where
  orderType : Option OrderType
  location : Option Location
  category : Option Category
  deriving DecidableEq, Repr

namespace Terms

/-- Nothing chosen yet. -/
def empty : Terms := ⟨none, none, none⟩

instance : Inhabited Terms := ⟨empty⟩

/-- Express delivery is chosen. -/
def isExpress (t : Terms) : Bool := t.orderType == some .express

end Terms

/-! ## Names -/

/-- The name of a delivery speed in records. -/
def OrderType.name : OrderType → String
  | express => "Express"
  | normal => "Normal"

/-- The name of a region in records. -/
def Location.name : Location → String
  | saintPetersburg => "SaintPetersburg"
  | izhevsk => "Izhevsk"
  | other => "Other"

/-- The name of a weight class in records. -/
def Category.name : Category → String
  | light => "Light"
  | heavy => "Heavy"
  | other => "Other"

/-- The delivery speed with the given name. -/
def OrderType.ofName? (name : String) : Option OrderType :=
  [express, normal].find? (·.name == name)

/-- The region with the given name. -/
def Location.ofName? (name : String) : Option Location :=
  [saintPetersburg, izhevsk, other].find? (·.name == name)

/-- The weight class with the given name. -/
def Category.ofName? (name : String) : Option Category :=
  [light, heavy, other].find? (·.name == name)

end OrderDesk
