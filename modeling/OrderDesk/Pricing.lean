import OrderDesk.Decimal.Binary
import OrderDesk.Delivery
import OrderDesk.Failure

/-!
# Price quotations

A price in yuan becomes a price in roubles by

`amount · rate · 109 / 100 + crossBorderFee · rate + localFee`, rounded up,

where the fee of the border, in yuan, goes by weight class, and the local fee, in roubles, by
delivery speed and, for normal delivery, by region.  The operations are those of doubles, in this
order.  Prices below zero and beyond 10^15 are not quoted.
-/

namespace OrderDesk

/-- The two fees of one choice of terms. -/
structure Formula where
  /-- Fee of the border, in yuan. -/
  crossBorderFeeYuan : Float
  /-- Local fee, in roubles. -/
  localFeeRub : Float
  deriving Repr

/-- The greatest price that is quoted. -/
def maxPriceRub : Nat := 1000000000000000

namespace Formula

/-- The price before it is rounded up. -/
def exact (f : Formula) (amount : UInt64) (rate : Float) : Float :=
  Float.ofNat amount.toNat * rate * 109.0 / 100.0 + f.crossBorderFeeYuan * rate + f.localFeeRub

/-- A price rounded up, if it is one that is quoted. -/
def quote (price : Float) : Except PricingError UInt64 :=
  match (Decimal.Binary.ofFloat price).ceiling? with
  | some n =>
    if 0 ≤ n ∧ n ≤ maxPriceRub then .ok (UInt64.ofNat n.toNat)
    else .error (.outOfRange (Decimal.roundUp price))
  | none => .error (.outOfRange price)

/-- The price in roubles. -/
def apply (f : Formula) (amount : UInt64) (rate : Float) : Except PricingError UInt64 :=
  quote (f.exact amount rate)

end Formula

/-- The fee of the border. -/
def Category.crossBorderFee : Category → Float
  | light => 40.0
  | other => 75.0
  | heavy => 120.0

/-- The local fee. -/
def OrderType.localFee : OrderType → Location → Float
  | express, _ => 764.0
  | normal, .saintPetersburg => 774.0
  | normal, .izhevsk => 1075.0
  | normal, .other => 1199.0

/-- The fees of a choice of terms. -/
def Formula.of (orderType : OrderType) (location : Location) (category : Category) : Formula :=
  ⟨category.crossBorderFee, orderType.localFee location⟩

/-- The price of one choice of terms. -/
def convertYuan (amount : UInt64) (rate : Float) (orderType : OrderType) (location : Location)
    (category : Category) : Except PricingError UInt64 :=
  (Formula.of orderType location category).apply amount rate

/-- A configured rate serves if it is a positive number. -/
def usableRate (rate : Float) : Except PricingError Float :=
  if rate.isFinite && 0.0 < rate then .ok rate
  else .error (.rateUnavailable ("configured rate " ++ Decimal.shortest rate ++ " is not positive"))

/-- Terms of which nothing is left open. -/
structure Terms.Complete where
  orderType : OrderType
  location : Location
  category : Category
  deriving DecidableEq, Repr

/-- The terms, if all are chosen; the first open one is the error. -/
def Terms.complete (t : Terms) : Except PricingError Terms.Complete := do
  let some orderType := t.orderType | throw .missingOrderType
  let some location := t.location | throw .missingLocation
  let some category := t.category | throw .missingCategory
  return ⟨orderType, location, category⟩

/-- The price of complete terms. -/
def Terms.Complete.price (t : Terms.Complete) (amount : UInt64) (rate : Float) :
    Except PricingError UInt64 :=
  convertYuan amount rate t.orderType t.location t.category

end OrderDesk
