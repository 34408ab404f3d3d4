import Mathlib.Algebra.Group.Nat.Defs
import Mathlib.Data.List.Basic
import OrderDesk.Proofs.Record.RoundTrip
import OrderDesk.Proofs.Sql.Meaning
import OrderDesk.Store.Tables

/-!
# Items and orders as rows

An item whose price has 63 bits is written as one row (`itemRow`) and read back as it was
(`itemOfRow_itemRow`): lists of texts go through records, ranks and quantities keep their 32 bits,
and the price is a number that is not negative.  The identifier and the rank are what conditions
look at; another rank in the row is another rank of the item (`itemRow_set_rank`).  An order whose
amounts have 63 bits is written as one row, too (`orderRow_eq_ok`).
-/

namespace OrderDesk.Store

open Catalog (Item)
open Sql (Datum Row)

/-- An item as a row. -/
def itemRow (item : Item) : Row :=
  [("item_id", .uuid item.id), ("image_urls", textsDatum item.imageUrls), ("title", .text item.title),
   ("rank", .integer item.rank.toInt32), ("available_sizes", textsDatum item.availableSizes),
   ("available_in_city", textsDatum item.availableInCity),
   ("quantity", .integer item.quantity.toInt32), ("price_rub", .bigint item.priceRub.toInt64),
   ("shop_link", .text item.shopLink)]

/-! ## Amounts -/

theorem toInt_toInt64 {n : UInt64} (h : n.toNat < 2 ^ 63) : n.toInt64.toInt = n.toNat := by
  have hbound : 2 * n.toBitVec.toNat < 2 ^ 64 := by
    rw [UInt64.toNat_toBitVec]
    omega
  exact BitVec.toInt_eq_toNat_of_lt hbound

/-- An amount of 63 bits is written. -/
theorem amountDatum_of_lt {amount : UInt64} (h : amount.toNat < 2 ^ 63) (name : String) :
    amountDatum amount name = .ok (.bigint amount.toInt64) := if_pos h

/-! ## Columns -/

section Columns

variable (item : Item)

@[simp] theorem itemRow_id : (itemRow item).column? "item_id" = some (.uuid item.id) := by
  simp [itemRow, Row.column?, List.lookup_cons]

@[simp] theorem itemRow_rank :
    (itemRow item).column? "rank" = some (.integer item.rank.toInt32) := by
  simp [itemRow, Row.column?, List.lookup_cons]

/-- The row with another rank is the row of the item with that rank. -/
theorem itemRow_set_rank (rank : Int32) :
    (itemRow item).set "rank" (.integer rank) = itemRow { item with rank := rank.toUInt32 } := by
  simp [itemRow, Row.set]

theorem itemColumns_eq {item : Item} (h : item.priceRub.toNat < 2 ^ 63) :
    ∃ before behind, itemColumns item = .ok (before, behind) ∧
      ∀ rank : UInt32, before ++ ("rank", .integer rank.toInt32) :: behind =
        itemRow { item with rank } := by
  simp only [itemColumns, amountDatum_of_lt h]
  exact ⟨_, _, rfl, fun _ => rfl⟩

end Columns

/-- The row of an order whose amounts have 63 bits. -/
def boundOrder (o : Order) : Row :=
  [("order_id", .uuid o.id), ("short_id", .text o.shortId), ("customer_id", .bigint o.buyer.id),
   ("customer", .jsonb o.buyer.toRecord), ("cart", .jsonb o.cart.toRecord),
   ("amount_rub", .bigint o.amountRub.toInt64), ("amount_yuan", .bigint o.amountYuan.toInt64),
   ("delivery_address", .text o.deliveryAddress), ("is_express", .boolean o.isExpress),
   ("is_paid", .boolean o.isPaid), ("is_approved", .boolean o.isApproved),
   ("status", .text o.status.word), ("comment", .ofOption .text o.comment),
   ("created_at", .ofInstant o.createdAt)]

theorem orderRow_eq_ok {o : Order} (hrub : o.amountRub.toNat < 2 ^ 63)
    (hyuan : o.amountYuan.toNat < 2 ^ 63) : orderRow o = .ok (boundOrder o) := by
  rw [orderRow, amountDatum_of_lt hrub, amountDatum_of_lt hyuan]
  rfl

/-! ## Reading back -/

theorem texts?_textsDatum (texts : List String) : texts? (textsDatum texts) = some texts :=
  Record.strings_codec.read_write texts

theorem unsigned_toInt64 {n : UInt64} (h : n.toNat < 2 ^ 63) (what : String) :
    unsigned n.toInt64 what = .ok n := by
  have hnonneg : 0 ≤ n.toInt64 := by
    rw [Int64.le_iff_toInt_le, toInt_toInt64 h]
    exact Int.natCast_nonneg _
  rw [unsigned, if_pos hnonneg]
  rfl

theorem column_of_eq {α : Type} {row : Row} {name : String} {read : Datum → Option α} {d : Datum}
    {a : α} (hd : row.column? name = some d) (ha : read d = some a) :
    column row name read = .ok a := by
  simp only [column, hd, ha]

/-- What is written is read back. -/
theorem itemOfRow_itemRow {item : Item} (h : item.priceRub.toNat < 2 ^ 63) :
    itemOfRow (itemRow item) = .ok item := by
  have hurls : column (itemRow item) "image_urls" texts? = .ok item.imageUrls :=
    column_of_eq (by simp [itemRow, Row.column?, List.lookup_cons]) (texts?_textsDatum _)
  have hsizes : column (itemRow item) "available_sizes" texts? = .ok item.availableSizes :=
    column_of_eq (by simp [itemRow, Row.column?, List.lookup_cons]) (texts?_textsDatum _)
  have hcities : column (itemRow item) "available_in_city" texts? = .ok item.availableInCity :=
    column_of_eq (by simp [itemRow, Row.column?, List.lookup_cons]) (texts?_textsDatum _)
  have hprice : column (itemRow item) "price_rub" Datum.bigint? = .ok item.priceRub.toInt64 :=
    column_of_eq (d := .bigint item.priceRub.toInt64)
      (by simp [itemRow, Row.column?, List.lookup_cons]) rfl
  rw [itemOfRow, hurls, hsizes, hcities, hprice]
  simp only [bind, Except.bind, unsigned_toInt64 h]
  simp [itemRow, column, Row.column?, List.lookup_cons, Datum.integer?, Datum.uuid?, Datum.text?]
  rfl

theorem mapM_itemOfRow {items : List Item} (h : ∀ x ∈ items, x.priceRub.toNat < 2 ^ 63) :
    (items.map itemRow).mapM itemOfRow = .ok items := by
  induction items with
  | nil => rfl
  | cons x xs ih =>
    rw [List.map_cons, List.mapM_cons, itemOfRow_itemRow (h x List.mem_cons_self),
      ih fun y hy => h y (List.mem_cons_of_mem x hy)]
    rfl

end OrderDesk.Store
