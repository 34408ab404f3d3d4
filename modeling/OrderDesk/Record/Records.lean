import OrderDesk.Catalog.Item
import OrderDesk.Order
import OrderDesk.Phrase.Book
import OrderDesk.Record.Fields
import OrderDesk.Settings

/-!
# Records as JSON

How everything that is kept looks in JSON.  Writing puts all fields in their declared order, with
`null` for what is not there.
-/

namespace OrderDesk

open Json (Value)
open Record

/-! ## Names, numbers and identifiers -/

/-- An identifier. -/
def Uuid.ofRecord? (v : Value) : Option Uuid := v.string?.bind Uuid.ofText?

/-- An identifier as a record. -/
def Uuid.toRecord (u : Uuid) : Value := .string u.text

/-- A point in time. -/
def Instant.ofRecord? (v : Value) : Option Instant := v.string?.bind Instant.ofText?

/-- A point in time as a record. -/
def Instant.toRecord (t : Instant) : Value := .string t.text

/-- A step. -/
def Step.ofRecord? (v : Value) : Option Step := v.integer?.bind Step.ofCode?

/-- A step as a record. -/
def Step.toRecord (s : Step) : Value := .integer s.code

/-- A delivery speed. -/
def OrderType.ofRecord? (v : Value) : Option OrderType := readName? ofName? v

/-- A delivery speed as a record. -/
def OrderType.toRecord (t : OrderType) : Value := .string t.name

/-- A region. -/
def Location.ofRecord? (v : Value) : Option Location := readName? ofName? v

/-- A region as a record. -/
def Location.toRecord (l : Location) : Value := .string l.name

/-- A weight class. -/
def Category.ofRecord? (v : Value) : Option Category := readName? ofName? v

/-- A weight class as a record. -/
def Category.toRecord (c : Category) : Value := .string c.name

/-- A price button. -/
def PriceButton.ofRecord? (v : Value) : Option PriceButton := readName? ofName? v

/-- A price button as a record. -/
def PriceButton.toRecord (b : PriceButton) : Value := .string b.name

/-- A status. -/
def OrderStatus.ofRecord? (v : Value) : Option OrderStatus := readName? ofName? v

/-- A status as a record. -/
def OrderStatus.toRecord (s : OrderStatus) : Value := .string s.name

/-- An amount of money as a record. -/
def amountRecord (n : UInt64) : Value := writeNat n.toNat

/-! ## Terms, positions and carts -/

namespace Terms

/-- The fields. -/
def fieldNames : List String := ["order_type", "location", "category"]

/-- Delivery terms. -/
def ofRecord? (v : Value) : Option Terms := do
  let [orderType, location, category] ← fields? fieldNames v | none
  return { orderType := ← optional OrderType.ofRecord? orderType
           location := ← optional Location.ofRecord? location
           category := ← optional Category.ofRecord? category }

/-- Delivery terms as a record. -/
def toRecord (t : Terms) : Value :=
  .object [("order_type", .ofOption OrderType.toRecord t.orderType),
           ("location", .ofOption Location.toRecord t.location),
           ("category", .ofOption Category.toRecord t.category)]

end Terms

namespace Position

/-- The fields. -/
def fieldNames : List String :=
  ["position_id", "shop_link", "size", "button", "category", "price_yuan", "price_rub"]

/-- A position. -/
def ofRecord? (v : Value) : Option Position := do
  let [id, shopLink, size, button, category, priceYuan, priceRub] ← fields? fieldNames v | none
  return { id := ← required Uuid.ofRecord? id
           shopLink := ← required readString? shopLink
           size := ← required readString? size
           button := ← required PriceButton.ofRecord? button
           category := ← optional Category.ofRecord? category
           priceYuan := ← required readUInt64? priceYuan
           priceRub := ← required readUInt64? priceRub }

/-- A position as a record. -/
def toRecord (p : Position) : Value :=
  .object [("position_id", p.id.toRecord), ("shop_link", .string p.shopLink), ("size", .string p.size),
           ("button", p.button.toRecord), ("category", .ofOption Category.toRecord p.category),
           ("price_yuan", amountRecord p.priceYuan), ("price_rub", amountRecord p.priceRub)]

end Position

namespace Draft

/-- The fields. -/
def fieldNames : List String :=
  ["position_id", "size", "button", "category", "price_yuan", "price_rub", "shop_link"]

/-- A draft. -/
def ofRecord? (v : Value) : Option Draft := do
  let [id, size, button, category, priceYuan, priceRub, shopLink] ← fields? fieldNames v | none
  return { id := ← required Uuid.ofRecord? id
           size := ← optional readString? size
           button := ← optional PriceButton.ofRecord? button
           category := ← optional Category.ofRecord? category
           priceYuan := ← optional readUInt64? priceYuan
           priceRub := ← optional readUInt64? priceRub
           shopLink := ← optional readString? shopLink }

/-- A draft as a record. -/
def toRecord (d : Draft) : Value :=
  .object [("position_id", d.id.toRecord), ("size", .ofOption .string d.size),
           ("button", .ofOption PriceButton.toRecord d.button),
           ("category", .ofOption Category.toRecord d.category),
           ("price_yuan", .ofOption amountRecord d.priceYuan),
           ("price_rub", .ofOption amountRecord d.priceRub),
           ("shop_link", .ofOption .string d.shopLink)]

end Draft

namespace Cart

/-- A cart. -/
def ofRecord? (v : Value) : Option Cart := (readList? Position.ofRecord? v).map Cart.mk

/-- A cart as a record. -/
def toRecord (c : Cart) : Value := .array (c.lines.map Position.toRecord)

end Cart

/-! ## Items -/

namespace Catalog.Item

/-- The fields. -/
def fieldNames : List String :=
  ["item_id", "image_urls", "title", "rank", "available_sizes", "available_in_city", "quantity",
   "price_rub", "shop_link"]

/-- An item. -/
def ofRecord? (v : Value) : Option Item := do
  let [id, imageUrls, title, rank, sizes, cities, quantity, priceRub, shopLink] ←
    fields? fieldNames v | none
  return { id := ← required Uuid.ofRecord? id
           imageUrls := ← required (readList? readString?) imageUrls
           title := ← required readString? title
           rank := ← required readUInt32? rank
           availableSizes := ← required (readList? readString?) sizes
           availableInCity := ← required (readList? readString?) cities
           quantity := ← required readUInt32? quantity
           priceRub := ← required readUInt64? priceRub
           shopLink := ← required readString? shopLink }

/-- An item as a record. -/
def toRecord (item : Item) : Value :=
  .object [("item_id", item.id.toRecord), ("image_urls", writeStrings item.imageUrls),
           ("title", .string item.title), ("rank", writeNat item.rank.toNat),
           ("available_sizes", writeStrings item.availableSizes),
           ("available_in_city", writeStrings item.availableInCity),
           ("quantity", writeNat item.quantity.toNat), ("price_rub", amountRecord item.priceRub),
           ("shop_link", .string item.shopLink)]

end Catalog.Item

/-! ## Customers and orders -/

namespace Customer

/-- The fields. -/
def fieldNames : List String :=
  ["telegram_id", "username", "full_name", "phone_number", "state", "cart", "meta", "calculator_meta",
   "catalog_offset", "last_edit_position"]

/-- A customer. -/
def ofRecord? (v : Value) : Option Customer := do
  let [id, username, fullName, phoneNumber, step, cart, terms, calculatorTerms, offset, draft] ←
    fields? fieldNames v | none
  return { id := ← required readInt64? id
           username := ← required readString? username
           fullName := ← optional readString? fullName
           phoneNumber := ← optional readString? phoneNumber
           step := ← required Step.ofRecord? step
           cart := ← required Cart.ofRecord? cart
           terms := ← required Terms.ofRecord? terms
           calculatorTerms := ← required Terms.ofRecord? calculatorTerms
           catalogOffset := ← required readUInt64? offset
           draft := ← optional Draft.ofRecord? draft }

/-- A customer as a record. -/
def toRecord (c : Customer) : Value :=
  .object [("telegram_id", .integer c.id.toInt), ("username", .string c.username),
           ("full_name", .ofOption .string c.fullName), ("phone_number", .ofOption .string c.phoneNumber),
           ("state", c.step.toRecord), ("cart", c.cart.toRecord), ("meta", c.terms.toRecord),
           ("calculator_meta", c.calculatorTerms.toRecord),
           ("catalog_offset", writeNat c.catalogOffset.toNat),
           ("last_edit_position", .ofOption Draft.toRecord c.draft)]

end Customer

/-- New values for the fields that are there; an empty draft clears the draft. -/
def Customer.Update.ofRecord? (v : Value) : Option Customer.Update := do
  return { step := ← assigned Step.ofRecord? (v.field? "state")
           username := ← assigned readString? (v.field? "username")
           fullName := ← assigned readString? (v.field? "full_name")
           phoneNumber := ← assigned readString? (v.field? "phone_number")
           cart := ← assigned Cart.ofRecord? (v.field? "cart")
           terms := ← assigned Terms.ofRecord? (v.field? "meta")
           calculatorTerms := ← assigned Terms.ofRecord? (v.field? "calculator_meta")
           catalogOffset := ← assigned readUInt64? (v.field? "catalog_offset")
           draft := ← assigned (fun d => optional Draft.ofRecord? (some d)) (v.field? "last_edit_position") }

namespace Buyer

/-- The fields. -/
def fieldNames : List String := ["telegram_id", "username", "full_name", "phone_number"]

/-- A buyer. -/
def ofRecord? (v : Value) : Option Buyer := do
  let [id, username, fullName, phoneNumber] ← fields? fieldNames v | none
  return { id := ← required readInt64? id
           username := ← required readString? username
           fullName := ← optional readString? fullName
           phoneNumber := ← optional readString? phoneNumber }

/-- A buyer as a record. -/
def toRecord (b : Buyer) : Value :=
  .object [("telegram_id", .integer b.id.toInt), ("username", .string b.username),
           ("full_name", .ofOption .string b.fullName), ("phone_number", .ofOption .string b.phoneNumber)]

end Buyer

namespace Order

/-- The fields. -/
def fieldNames : List String :=
  ["order_id", "short_id", "customer", "cart", "amount_rub", "amount_yuan", "delivery_address",
   "is_express", "is_paid", "is_approved", "status", "comment", "created_at"]

/-- An order. -/
def ofRecord? (v : Value) : Option Order := do
  let [id, shortId, buyer, cart, amountRub, amountYuan, address, isExpress, isPaid, isApproved, status,
    comment, createdAt] ← fields? fieldNames v | none
  return { id := ← required Uuid.ofRecord? id
           shortId := ← required readString? shortId
           buyer := ← required Buyer.ofRecord? buyer
           cart := ← required Cart.ofRecord? cart
           amountRub := ← required readUInt64? amountRub
           amountYuan := ← required readUInt64? amountYuan
           deliveryAddress := ← required readString? address
           isExpress := ← required readBool? isExpress
           isPaid := ← required readBool? isPaid
           isApproved := ← required readBool? isApproved
           status := ← required OrderStatus.ofRecord? status
           comment := ← optional readString? comment
           createdAt := ← required Instant.ofRecord? createdAt }

/-- An order as a record. -/
def toRecord (o : Order) : Value :=
  .object [("order_id", o.id.toRecord), ("short_id", .string o.shortId), ("customer", o.buyer.toRecord),
           ("cart", o.cart.toRecord), ("amount_rub", amountRecord o.amountRub),
           ("amount_yuan", amountRecord o.amountYuan), ("delivery_address", .string o.deliveryAddress),
           ("is_express", .bool o.isExpress), ("is_paid", .bool o.isPaid),
           ("is_approved", .bool o.isApproved), ("status", o.status.toRecord),
           ("comment", .ofOption .string o.comment), ("created_at", o.createdAt.toRecord)]

end Order

/-! ## Settings -/

namespace FaqEntry

/-- The fields. -/
def fieldNames : List String := ["question", "answer"]

/-- A frequent question. -/
def ofRecord? (v : Value) : Option FaqEntry := do
  let [question, answer] ← fields? fieldNames v | none
  return { question := ← required readString? question, answer := ← required readString? answer }

/-- A frequent question as a record. -/
def toRecord (e : FaqEntry) : Value :=
  .object [("question", .string e.question), ("answer", .string e.answer)]

end FaqEntry

namespace Settings

/-- The fields. -/
def fieldNames : List String := ["guide_images", "faq", "requisites", "shop_link_pattern"]

/-- Settings; a missing field is as in the standard ones. -/
def ofRecord? (v : Value) : Option Settings := do
  let [guideImages, faq, requisites, shopLinkPattern] ← partial? fieldNames v | none
  return { guideImages :=
             ← withDefault (readList? (readList? readString?)) standard.guideImages guideImages
           faq := ← withDefault (readList? FaqEntry.ofRecord?) standard.faq faq
           requisites := ← withDefault readString? standard.requisites requisites
           shopLinkPattern := ← withDefault readString? standard.shopLinkPattern shopLinkPattern }

/-- Settings as a record. -/
def toRecord (s : Settings) : Value :=
  .object [("guide_images", .array (s.guideImages.map writeStrings)),
           ("faq", .array (s.faq.map FaqEntry.toRecord)), ("requisites", .string s.requisites),
           ("shop_link_pattern", .string s.shopLinkPattern)]

/-- The settings that the bytes of a file hold, checked. -/
def ofFile (file : Option ByteArray) : Except SettingsError Settings := do
  let some text := file.bind String.fromUTF8? | throw .unreadable
  let some settings := (Json.ofText? text).bind ofRecord? | throw .malformed
  settings.validate
  return settings

end Settings

/-- The phrase book that the bytes of a file hold. -/
def Phrase.Book.ofFile (file : Option ByteArray) : Except BookError Book :=
  match file.bind String.fromUTF8? with
  | some text => ofText text
  | none => .error .unreadable

end OrderDesk
