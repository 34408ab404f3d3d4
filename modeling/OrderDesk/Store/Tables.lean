import OrderDesk.Record.Records
import OrderDesk.Sql.Statement
import OrderDesk.Store.Call

/-!
# The tables of the store

Customers, items and orders as rows of three tables, and back.  Carts, terms, drafts, buyers and
lists of texts are kept as JSON records in one column each.  Amounts and offsets are kept as 64-bit
numbers with sign, ranks and quantities as 32-bit ones; amounts are checked before they are written,
the others keep their bits.

A row is read column by column, and the first column that is missing, of another type or out of
range decides the error.
-/

namespace OrderDesk.Store

open Json (Value)
open Sql (Column Datum Row Table)

/-! ## Tables -/

/-- Customers. -/
def customersTable : Table where
  name := "customers"
  columns := [
    ⟨"telegram_id", "BIGINT PRIMARY KEY"⟩,
    ⟨"username", "TEXT NOT NULL"⟩,
    ⟨"full_name", "TEXT"⟩,
    ⟨"phone_number", "TEXT"⟩,
    ⟨"state", "SMALLINT NOT NULL DEFAULT 0"⟩,
    ⟨"cart", "JSONB NOT NULL DEFAULT '[]'"⟩,
    ⟨"meta", "JSONB NOT NULL DEFAULT '\x7b\x7d'"⟩,
    ⟨"calculator_meta", "JSONB NOT NULL DEFAULT '\x7b\x7d'"⟩,
    ⟨"catalog_offset", "BIGINT NOT NULL DEFAULT 0"⟩,
    ⟨"last_edit_position", "JSONB"⟩]

/-- The catalogue. -/
def catalogTable : Table where
  name := "catalog"
  columns := [
    ⟨"item_id", "UUID PRIMARY KEY"⟩,
    ⟨"image_urls", "JSONB NOT NULL"⟩,
    ⟨"title", "TEXT NOT NULL"⟩,
    ⟨"rank", "INTEGER NOT NULL"⟩,
    ⟨"available_sizes", "JSONB NOT NULL"⟩,
    ⟨"available_in_city", "JSONB NOT NULL"⟩,
    ⟨"quantity", "INTEGER NOT NULL"⟩,
    ⟨"price_rub", "BIGINT NOT NULL"⟩,
    ⟨"shop_link", "TEXT NOT NULL"⟩]

/-- Orders. -/
def ordersTable : Table where
  name := "orders"
  columns := [
    ⟨"order_id", "UUID PRIMARY KEY"⟩,
    ⟨"short_id", "TEXT NOT NULL UNIQUE"⟩,
    ⟨"customer_id", "BIGINT NOT NULL"⟩,
    ⟨"customer", "JSONB NOT NULL"⟩,
    ⟨"cart", "JSONB NOT NULL"⟩,
    ⟨"amount_rub", "BIGINT NOT NULL"⟩,
    ⟨"amount_yuan", "BIGINT NOT NULL"⟩,
    ⟨"delivery_address", "TEXT NOT NULL"⟩,
    ⟨"is_express", "BOOLEAN NOT NULL"⟩,
    ⟨"is_paid", "BOOLEAN NOT NULL DEFAULT FALSE"⟩,
    ⟨"is_approved", "BOOLEAN NOT NULL DEFAULT FALSE"⟩,
    ⟨"status", "TEXT NOT NULL"⟩,
    ⟨"comment", "TEXT"⟩,
    ⟨"created_at", "TIMESTAMPTZ NOT NULL"⟩]

/-! ## Columns -/

/-- The value of a column of a row. -/
def column {α : Type} (row : Row) (name : String) (read : Datum → Option α) : Except StoreError α :=
  match row.column? name with
  | none => .error (.database ("no column " ++ name))
  | some d =>
    match read d with
    | some a => .ok a
    | none => .error (.database ("column " ++ name ++ " does not fit"))

/-- The value of the only column of a row. -/
def onlyColumn {α : Type} (row : Row) (read : Datum → Option α) : Except StoreError α :=
  match row.first?.bind read with
  | some a => .ok a
  | none => .error (.database "the answer does not fit")

/-- An amount as a 64-bit number with sign, if there is one. -/
def amountDatum (amount : UInt64) (name : String) : Except StoreError Datum :=
  if amount.toNat < 0x8000000000000000 then .ok (.bigint amount.toInt64)
  else .error (.corrupted (name ++ " " ++ Decimal.ofNat amount.toNat ++ " does not fit BIGINT"))

/-- A number without sign out of one with sign; `what` it is for the error. -/
def unsigned (n : Int64) (what : String) : Except StoreError UInt64 :=
  if 0 ≤ n then .ok n.toUInt64
  else .error (.corrupted ("negative " ++ what ++ " " ++ Decimal.ofInt n.toInt))

/-- A list of texts. -/
def textsDatum (texts : List String) : Datum := .jsonb (Record.writeStrings texts)

/-- Reads a list of texts. -/
def texts? : Datum → Option (List String) := Datum.record? (Record.readList? Record.readString?)

/-! ## Customers -/

/-- The number of a step. -/
def stepDatum (s : Step) : Datum := .smallint (Int16.ofNat s.code)

/-- A customer as a row. -/
def customerRow (c : Customer) : Row :=
  [("telegram_id", .bigint c.id),
   ("username", .text c.username),
   ("full_name", .ofOption .text c.fullName),
   ("phone_number", .ofOption .text c.phoneNumber),
   ("state", stepDatum c.step),
   ("cart", .jsonb c.cart.toRecord),
   ("meta", .jsonb c.terms.toRecord),
   ("calculator_meta", .jsonb c.calculatorTerms.toRecord),
   ("catalog_offset", .bigint c.catalogOffset.toInt64),
   ("last_edit_position", .ofOption (fun d => .jsonb (Draft.toRecord d)) c.draft)]

/-- Reads a customer. -/
def customerOfRow (row : Row) : Except StoreError Customer := do
  let code ← column row "state" Datum.smallint?
  let offset ← column row "catalog_offset" Datum.bigint?
  let cart ← column row "cart" (Datum.record? Cart.ofRecord?)
  let terms ← column row "meta" (Datum.record? Terms.ofRecord?)
  let calculatorTerms ← column row "calculator_meta" (Datum.record? Terms.ofRecord?)
  let draft ← column row "last_edit_position" (Datum.nullable (Datum.record? Draft.ofRecord?))
  let id ← column row "telegram_id" Datum.bigint?
  let username ← column row "username" Datum.text?
  let fullName ← column row "full_name" (Datum.nullable Datum.text?)
  let phoneNumber ← column row "phone_number" (Datum.nullable Datum.text?)
  let step ← Step.ofCode code.toInt
  let catalogOffset ← unsigned offset "catalog offset"
  return { id, username, fullName, phoneNumber, step, cart, terms, calculatorTerms, catalogOffset, draft }

/-- The columns that an update sets. -/
def updateColumns (u : Customer.Update) : Row :=
  (u.step.toList.map fun s => ("state", stepDatum s)) ++
  (u.username.toList.map fun s => ("username", .text s)) ++
  (u.fullName.toList.map fun s => ("full_name", .text s)) ++
  (u.phoneNumber.toList.map fun s => ("phone_number", .text s)) ++
  (u.cart.toList.map fun c => ("cart", .jsonb c.toRecord)) ++
  (u.terms.toList.map fun t => ("meta", .jsonb t.toRecord)) ++
  (u.calculatorTerms.toList.map fun t => ("calculator_meta", .jsonb t.toRecord)) ++
  (u.catalogOffset.toList.map fun n => ("catalog_offset", .bigint n.toInt64)) ++
  (u.draft.toList.map fun d => ("last_edit_position", .ofOption (fun d => .jsonb (Draft.toRecord d)) d))

/-! ## Items -/

/-- An item as a row, the rank apart: the columns before it and those behind it. -/
def itemColumns (item : Catalog.Item) : Except StoreError (Row × Row) := do
  let price ← amountDatum item.priceRub "price_rub"
  return ([("item_id", .uuid item.id),
           ("image_urls", textsDatum item.imageUrls),
           ("title", .text item.title)],
          [("available_sizes", textsDatum item.availableSizes),
           ("available_in_city", textsDatum item.availableInCity),
           ("quantity", .integer item.quantity.toInt32),
           ("price_rub", price),
           ("shop_link", .text item.shopLink)])

/-- Reads an item. -/
def itemOfRow (row : Row) : Except StoreError Catalog.Item := do
  let imageUrls ← column row "image_urls" texts?
  let availableSizes ← column row "available_sizes" texts?
  let availableInCity ← column row "available_in_city" texts?
  let rank ← column row "rank" Datum.integer?
  let quantity ← column row "quantity" Datum.integer?
  let price ← column row "price_rub" Datum.bigint?
  let id ← column row "item_id" Datum.uuid?
  let title ← column row "title" Datum.text?
  let priceRub ← unsigned price "price_rub"
  let shopLink ← column row "shop_link" Datum.text?
  return { id, imageUrls, title, rank := rank.toUInt32, availableSizes, availableInCity
           quantity := quantity.toUInt32, priceRub, shopLink }

/-! ## Orders -/

/-- An order as a row. -/
def orderRow (o : Order) : Except StoreError Row := do
  let rub ← amountDatum o.amountRub "amount_rub"
  let yuan ← amountDatum o.amountYuan "amount_yuan"
  return [("order_id", .uuid o.id),
          ("short_id", .text o.shortId),
          ("customer_id", .bigint o.buyer.id),
          ("customer", .jsonb o.buyer.toRecord),
          ("cart", .jsonb o.cart.toRecord),
          ("amount_rub", rub),
          ("amount_yuan", yuan),
          ("delivery_address", .text o.deliveryAddress),
          ("is_express", .boolean o.isExpress),
          ("is_paid", .boolean o.isPaid),
          ("is_approved", .boolean o.isApproved),
          ("status", .text o.status.word),
          ("comment", .ofOption .text o.comment),
          ("created_at", .ofInstant o.createdAt)]

/-- The status with the given word; any other word is no stored status. -/
def statusOfWord (word : String) : Except StoreError OrderStatus :=
  match OrderStatus.ofWord? word with
  | some status => .ok status
  | none => .error (.corrupted ("unknown order status " ++ Text.quoted word))

/-- Reads an order. -/
def orderOfRow (row : Row) : Except StoreError Order := do
  let buyer ← column row "customer" (Datum.record? Buyer.ofRecord?)
  let cart ← column row "cart" (Datum.record? Cart.ofRecord?)
  let rub ← column row "amount_rub" Datum.bigint?
  let yuan ← column row "amount_yuan" Datum.bigint?
  let word ← column row "status" Datum.text?
  let id ← column row "order_id" Datum.uuid?
  let shortId ← column row "short_id" Datum.text?
  let amountRub ← unsigned rub "amount_rub"
  let amountYuan ← unsigned yuan "amount_yuan"
  let deliveryAddress ← column row "delivery_address" Datum.text?
  let isExpress ← column row "is_express" Datum.boolean?
  let isPaid ← column row "is_paid" Datum.boolean?
  let isApproved ← column row "is_approved" Datum.boolean?
  let status ← statusOfWord word
  let comment ← column row "comment" (Datum.nullable Datum.text?)
  let createdAt ← column row "created_at" Datum.instant?
  return { id, shortId, buyer, cart, amountRub, amountYuan, deliveryAddress, isExpress, isPaid
           isApproved, status, comment, createdAt }

end OrderDesk.Store
