import OrderDesk.Order
import OrderDesk.Phrase.Book
import OrderDesk.Text.Basic

/-!
# Carts and orders as messages
-/

namespace OrderDesk

open Phrase (Book)

/-- The words for a price button. -/
def buttonLabel (texts : Book) (b : PriceButton) : String :=
  texts.get (match b with
    | .turquoise => "button-turquoise"
    | .grey => "button-grey"
    | .used95 => "button-used95")

/-- The words for a delivery speed. -/
def orderTypeLabel (texts : Book) (isExpress : Bool) : String :=
  texts.get (if isExpress then "order-type-express" else "order-type-normal")

/-- An amount of money. -/
def amountText (n : UInt64) : String := Decimal.ofNat n.toNat

/-- The line with the given number from 0; it is shown counted from 1. -/
def describePosition (texts : Book) (i : Nat) (p : Position) : String :=
  texts.getWith "cart-position"
    [("index", Decimal.ofNat (i + 1)), ("link", p.shopLink),
     ("size", if p.hasSize then p.size else texts.get "no-size"),
     ("button", buttonLabel texts p.button),
     ("price_yuan", amountText p.priceYuan), ("price_rub", amountText p.priceRub)]

/-- All lines with an empty line between neighbours. -/
def describePositions (texts : Book) (cart : Cart) : String :=
  Text.joined "\n\n" (cart.lines.zipIdx.map fun (p, i) => describePosition texts i p)

/-- A cart with its totals. -/
def describeCart (texts : Book) (cart : Cart) : String :=
  texts.get "cart-title" ++ "\n\n" ++ describePositions texts cart ++ "\n\n" ++
    texts.getWith "cart-total"
      [("total_rub", amountText cart.totalRub), ("total_yuan", amountText cart.totalYuan)]

/-- A new order. -/
def describeOrder (texts : Book) (o : Order) : String :=
  texts.getWith "order-preview"
      [("short_id", o.shortId), ("order_type", orderTypeLabel texts o.isExpress),
       ("full_name", o.buyer.fullName.getD ""), ("phone", o.buyer.phoneNumber.getD ""),
       ("address", o.deliveryAddress)] ++
    "\n\n" ++ describePositions texts o.cart ++ "\n\n" ++
    texts.getWith "order-total" [("total_rub", amountText o.amountRub)]

/-- The words for yes and no. -/
def yesNo (texts : Book) (b : Bool) : String := texts.get (if b then "yes" else "no")

/-- A past order. -/
def summarizeOrder (texts : Book) (o : Order) : String :=
  texts.getWith "order-summary"
      [("short_id", o.shortId), ("date", o.createdAt.dayText), ("paid", yesNo texts o.isPaid),
       ("approved", yesNo texts o.isApproved), ("status", texts.get ("status-" ++ o.status.word)),
       ("total_rub", amountText o.amountRub)] ++
    "\n" ++ describePositions texts o.cart

/-- All past orders. -/
def describeOrders (texts : Book) (orders : List Order) : String :=
  texts.get "my-orders-title" ++
    String.join (orders.map fun o => "\n\n" ++ summarizeOrder texts o)

end OrderDesk
