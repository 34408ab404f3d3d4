import OrderDesk.Chat
import OrderDesk.Catalog.Item
import OrderDesk.Phrase.Book
import OrderDesk.Settings

/-!
# Keyboards

The buttons under the desk's messages.  Those that are always the same are built once, from the
phrases and the settings (`Keyboards.of`); the others go by a cart, an item's neighbours, a guide
step or an order.
-/

namespace OrderDesk

open Chat (Button Rows Keyboard)
open Phrase (Book)

/-! ## Building blocks -/

/-- A button labelled with a phrase. -/
def Action.labelled (texts : Book) (key : String) (action : Action) : Except CallbackError Button := do
  Button.of (texts.get key) (← action.data)

/-- One button in each row. -/
def column (texts : Book) (entries : List (String × Action)) : Except CallbackError Rows :=
  entries.mapM fun (key, action) => do return [← action.labelled texts key]

/-- The greatest length of a title on a button. -/
def maxButtonTitle : Nat := 24

/-- A title cut to the greatest length, with an ellipsis as its last character. -/
def shortTitle (title : String) : String :=
  if maxButtonTitle < title.length then
    String.ofList (title.toList.take (maxButtonTitle - 1) ++ ['…'])
  else title

/-! ## Keyboards that never change -/

/-- The keyboards that are built once. -/
structure Keyboards where
  menuLabel : String
  cartLabel : String
  addPositionLabel : String
  menu : Rows
  orderType : Rows
  location : Rows
  category : Rows
  button : Rows
  calculatorOrderType : Rows
  calculatorLocation : Rows
  calculatorCategory : Rows
  /-- Under a result of the calculator. -/
  calculateMore : Rows
  /-- Under the cart. -/
  cartPreview : Rows
  /-- After a position was added. -/
  positionAdded : Rows
  faq : Rows
  deriving DecidableEq, Repr

namespace Keyboards

/-- One button for each frequent question. -/
def faqRows (entries : List FaqEntry) : Except CallbackError Rows :=
  entries.zipIdx.mapM fun (entry, i) => do
    return [← Button.of entry.question (← (Action.faqAnswer i).data)]

/-- Builds the keyboards. -/
def of (texts : Book) (settings : Settings) : Except CallbackError Keyboards := do
  let faq ← faqRows settings.faq
  return {
    menuLabel := texts.get "button-menu"
    cartLabel := texts.get "button-cart"
    addPositionLabel := texts.get "button-add-position"
    menu := ← column texts
      [("menu-catalog", .catalog), ("menu-make-order", .makeOrder), ("menu-cart", .showCart),
       ("menu-my-orders", .myOrders), ("menu-calculator", .calculator), ("menu-faq", .faq),
       ("menu-guide", .guideStep 1)]
    orderType := ← column texts
      [("order-type-express", .orderType .express), ("order-type-normal", .orderType .normal)]
    location := ← column texts
      [("location-spb", .location .saintPetersburg), ("location-izhevsk", .location .izhevsk),
       ("location-other", .location .other)]
    category := ← column texts
      [("category-light", .category .light), ("category-other", .category .other),
       ("category-heavy", .category .heavy)]
    button := ← column texts
      [("button-turquoise", .button .turquoise), ("button-grey", .button .grey),
       ("button-used95", .button .used95)]
    calculatorOrderType := ← column texts
      [("order-type-express", .calculatorOrderType .express),
       ("order-type-normal", .calculatorOrderType .normal)]
    calculatorLocation := ← column texts
      [("location-spb", .calculatorLocation .saintPetersburg),
       ("location-izhevsk", .calculatorLocation .izhevsk),
       ("location-other", .calculatorLocation .other)]
    calculatorCategory := ← column texts
      [("category-light", .calculatorCategory .light), ("category-other", .calculatorCategory .other),
       ("category-heavy", .calculatorCategory .heavy)]
    calculateMore := ← column texts [("calculate-more", .calculateMore), ("back-to-menu", .menu)]
    cartPreview := ← column texts
      [("cart-edit", .editCart), ("cart-add-position", .addPosition), ("cart-checkout", .checkout)]
    positionAdded := ← column texts
      [("menu-cart", .showCart), ("cart-add-position", .addPosition), ("cart-checkout", .checkout)]
    faq }

/-- The keys under the input field. -/
def bottomMenu (k : Keyboards) : Keyboard :=
  .reply [[k.menuLabel, k.cartLabel], [k.addPositionLabel]]

end Keyboards

/-! ## Keyboards that go by what is shown -/

/-- One button for each line of a cart, and one back to the menu. -/
def editCartRows (texts : Book) (cart : Cart) : Except CallbackError Rows := do
  let rows ← cart.lines.zipIdx.mapM fun (_, i) => do
    let label := texts.getWith "cart-remove-position" [("index", Decimal.ofNat (i + 1))]
    return [← Button.of label (← (Action.removePosition i).data)]
  return rows ++ [[← Action.menu.labelled texts "back-to-menu"]]

/-- An arrow towards an item of the catalogue, carrying the ids of the album's messages. -/
def catalogArrow (texts : Book) (key : String) (code : Int32) (ids : List Int32) (item : Catalog.Item) :
    Except CallbackError Button :=
  Button.of (texts.getWith key [("title", shortTitle item.title)]) ⟨code, .messageIds ids⟩

/-- Arrows towards the neighbours of an item, and a button back to the menu. -/
def catalogRows (texts : Book) (prev next : Option Catalog.Item) (ids : List Int32) :
    Except CallbackError Rows := do
  let back ← prev.toList.mapM (catalogArrow texts "catalog-prev" Action.catalogPrevCode ids)
  let forth ← next.toList.mapM (catalogArrow texts "catalog-next" Action.catalogNextCode ids)
  let arrows := back ++ forth
  let menu ← Action.menu.labelled texts "back-to-menu"
  return (if arrows.isEmpty then [] else [arrows]) ++ [[menu]]

/-- The number of guide steps. -/
def guideSteps : UInt8 := 4

/-- An arrow towards a guide step, carrying the ids of the album's messages. -/
def guideArrow (texts : Book) (key : String) (n : UInt8) (ids : List Int32) : Except CallbackError Button := do
  Button.of (texts.get key) ⟨← (Action.guideStep n).code, .messageIds ids⟩

/-- Arrows towards the neighbours of a guide step; the last step has a button for a new position. -/
def guideRows (texts : Book) (n : UInt8) (ids : List Int32) : Except CallbackError Rows := do
  let back ← if 1 < n then (do return [← guideArrow texts "guide-prev" (n - 1) ids]) else pure []
  let forth ← if n < guideSteps then (do return [← guideArrow texts "guide-next" (n + 1) ids]) else pure []
  let last ← if n = guideSteps then
      (do return [[← Action.addPosition.labelled texts "guide-add-position"]])
    else pure []
  return (back ++ forth) :: last

/-- The button that says an order is paid. -/
def paidRows (texts : Book) (shortId : String) : Except CallbackError Rows := do
  return [[← Button.of (texts.get "button-paid") ⟨← Action.paid.code, .text shortId⟩]]

end OrderDesk
