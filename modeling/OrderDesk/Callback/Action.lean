import OrderDesk.Cart
import OrderDesk.Callback.Data

/-!
# Actions behind buttons

Plain actions have the codes 1 to 35.  Actions with an index have bands of codes above them: 1000 to
1199 for taking out a line of the cart, 1400 to 2399 for an answer to a frequent question.  The
arrows of the catalogue are 1200 and 1201, and the rest of the codes up to 1399 is kept free.
-/

namespace OrderDesk

/-- What pressing a button asks for. -/
inductive Action where
  | catalog
  | makeOrder
  | showCart
  | myOrders
  /-- Show a step of the guide, 1 to 4. -/
  | guideStep (n : UInt8)
  | addPosition
  | orderType (t : OrderType)
  | location (l : Location)
  | category (c : Category)
  | button (b : PriceButton)
  | calculator
  | calculatorOrderType (t : OrderType)
  | calculatorLocation (l : Location)
  | calculatorCategory (c : Category)
  /-- Offer to take lines out of the cart. -/
  | editCart
  | checkout
  | faq
  | menu
  | calculateMore
  /-- Say that an order is paid; its short identifier is the payload. -/
  | paid
  /-- Take out the line with the given number from 0. -/
  | removePosition (index : Nat)
  | catalogPrev
  | catalogNext
  /-- Answer the frequent question with the given number from 0. -/
  | faqAnswer (index : Nat)
  deriving DecidableEq, Repr

/-- A run of codes for the indices from 0. -/
structure CodeBand where
  /-- Code of index 0. -/
  first : Int
  /-- Number of codes. -/
  size : Nat
  deriving DecidableEq, Repr

namespace CodeBand

/-- Codes of the lines of a cart. -/
def removePosition : CodeBand := ⟨1000, 200⟩

/-- Codes of the catalogue. -/
def catalog : CodeBand := ⟨1200, 200⟩

/-- Codes of the frequent questions. -/
def faq : CodeBand := ⟨1400, 1000⟩

/-- The index of a code. -/
def index? (band : CodeBand) (code : Int) : Option Nat :=
  if band.first ≤ code ∧ code < band.first + band.size then some (code - band.first).toNat else none

/-- The code of an index. -/
def code (band : CodeBand) (index : Nat) : Except CallbackError Int32 :=
  if index < band.size then .ok (Int32.ofInt (band.first + index)) else .error (.outOfBand index)

end CodeBand

/-- The most lines of a cart that can each have a button. -/
def maxCartLines : Nat := CodeBand.removePosition.size

/-- The most frequent questions that can each have a button. -/
def maxFaqEntries : Nat := CodeBand.faq.size

namespace Action

/-- The code of the arrow back. -/
def catalogPrevCode : Int32 := 1200

/-- The code of the arrow forward. -/
def catalogNextCode : Int32 := 1201

/-- The plain actions in the order of their codes from 1. -/
def plain : List Action :=
  [catalog, makeOrder, showCart, myOrders, guideStep 1, guideStep 2, guideStep 3, guideStep 4, addPosition,
   orderType .express, orderType .normal,
   location .saintPetersburg, location .izhevsk, location .other,
   category .light, category .heavy, category .other,
   button .turquoise, button .grey, button .used95,
   calculator, calculatorOrderType .express, calculatorOrderType .normal,
   calculatorLocation .saintPetersburg, calculatorLocation .izhevsk, calculatorLocation .other,
   calculatorCategory .light, calculatorCategory .heavy, calculatorCategory .other,
   editCart, checkout, faq, menu, calculateMore, paid]

/-- The action with the given code: bands first, then the plain actions. -/
def ofCode? (code : Int32) : Option Action :=
  match CodeBand.removePosition.index? code.toInt with
  | some i => some (removePosition i)
  | none =>
    if (CodeBand.catalog.index? code.toInt).isSome then
      if code = catalogPrevCode then some catalogPrev
      else if code = catalogNextCode then some catalogNext
      else none
    else match CodeBand.faq.index? code.toInt with
      | some i => some (faqAnswer i)
      | none => if code.toInt < 1 then none else plain[(code.toInt - 1).toNat]?

/-- The code of a plain action; 0 for one that has none. -/
def plainCode (a : Action) : Int32 :=
  match plain.findIdx? (· == a) with
  | some i => Int32.ofNat (i + 1)
  | none => 0

/-- The code of an action. -/
def code : Action → Except CallbackError Int32
  | removePosition i => CodeBand.removePosition.code i
  | catalogPrev => .ok catalogPrevCode
  | catalogNext => .ok catalogNextCode
  | faqAnswer i => CodeBand.faq.code i
  | a => .ok a.plainCode

/-- The data of a button that carries nothing but the action. -/
def data (a : Action) : Except CallbackError ButtonData := ButtonData.bare <$> a.code

/-- The step a button is bound to, if it is. -/
def requiredStep? : Action → Option Step
  | orderType _ => some .orderType
  | location _ => some .location
  | category _ => some .category
  | button _ => some .button
  | calculatorOrderType _ => some .calculatorOrderType
  | calculatorLocation _ => some .calculatorLocation
  | calculatorCategory _ => some .calculatorCategory
  | removePosition _ => some .cartPositionToEdit
  | _ => none

end Action

end OrderDesk
