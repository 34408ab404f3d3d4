import Mathlib.Data.Int.Init
import OrderDesk.Instant
import OrderDesk.Proofs.Record.RoundTrip
import OrderDesk.Proofs.Store.Rows

/-!
# Rows are read back as they were written

Reading goes column by column, and a column that is missing or of another type is an error of the
database.  Only when all of them are there are numbers of steps, words for a status, and numbers
that cannot be negative looked at, and what the desk never writes is reported as corrupted
(`Corrupted`).  So of a row with all its columns it is known exactly when that happens, and a
damaged row is read as nothing whatever else is wrong with it (`Reads`).

What the desk writes is read back: a customer if the place in the catalogue has 63 bits
(`customerOfRow_customerRow`), and an order up to what a column has no room for, the part of its
time below microseconds and the leap second, which shares its numbers with the second after it
(`Instant.ofMicros_micros_iff`, `orderOfRow_boundOrder`).  Where a number has more than
63 bits there is no row at all (`corrupted_itemColumns`, `corrupted_orderRow`).
-/

namespace OrderDesk

/-! ## Points in time to the microsecond -/

/-- A point in time is found again from its microseconds if it has no finer part and lies in no leap
second. -/
theorem Instant.ofMicros_micros_iff {t : Instant} :
    ofMicros t.micros = t ↔ t.nanos < 1000000000 ∧ t.nanos % 1000 = 0 := by
  obtain ⟨seconds, nanos⟩ := t
  dsimp only
  constructor
  · intro h
    simp only [ofMicros, mk.injEq] at h
    omega
  · rintro ⟨hsecond, hmicro⟩
    -- whole microseconds are not cut off in either direction
    have hsince : (seconds - 946684800) * 1000000000 + (nanos : Int) =
        1000 * ((seconds - 946684800) * 1000000 + nanos / 1000) := by omega
    have hmicros : micros ⟨seconds, nanos⟩ = seconds * 1000000 + nanos / 1000 := by
      rw [micros, hsince, Int.mul_tdiv_cancel_left _ (by decide)]
      omega
    rw [hmicros]
    simp only [ofMicros, mk.injEq]
    omega

namespace Store

open Sql (Datum Row)

/-! ## Sequences that can fail -/

section Sequence

variable {α β : Type} {x : Except StoreError α} {f : α → Except StoreError β}

theorem ok_bind {a : α} : (Except.ok a >>= f) = f a := rfl

theorem map_eq_ok {g : α → β} {b : β} : g <$> x = .ok b ↔ ∃ a, x = .ok a ∧ g a = b := by
  cases x <;> simp [Functor.map, Except.map]

theorem bind_eq_ok {b : β} : x >>= f = .ok b ↔ ∃ a, x = .ok a ∧ f a = .ok b := by
  cases x <;> simp [bind, Except.bind]

/-- What was stored is reported as something that the desk never writes. -/
def Corrupted {α : Type} (result : Except StoreError α) : Prop :=
  ∃ reason, result = .error (.corrupted reason)

@[simp] theorem not_corrupted_ok {a : α} : ¬ Corrupted (.ok a : Except StoreError α) := by
  simp [Corrupted]

@[simp] theorem corrupted_error {reason : String} :
    Corrupted (.error (.corrupted reason) : Except StoreError α) := ⟨reason, rfl⟩

@[simp] theorem corrupted_bind :
    Corrupted (x >>= f) ↔ Corrupted x ∨ ∃ a, x = .ok a ∧ Corrupted (f a) := by
  cases x <;> simp [bind, Except.bind, Corrupted]

@[simp] theorem corrupted_map {g : α → β} : Corrupted (g <$> x) ↔ Corrupted x := by
  cases x <;> simp [Functor.map, Except.map, Corrupted]

@[simp] theorem corrupted_column {row : Row} {name : String} {read : Datum → Option α} :
    ¬ Corrupted (column row name read) := by
  unfold column
  split
  · simp [Corrupted]
  · split <;> simp [Corrupted]

@[simp] theorem corrupted_unsigned {n : Int64} {what : String} :
    Corrupted (unsigned n what) ↔ n < 0 := by
  rw [unsigned]
  split
  · rename_i h
    simp [Int64.not_lt.2 h]
  · rename_i h
    simp [Corrupted, Int64.not_le.1 h]

@[simp] theorem corrupted_amountDatum {amount : UInt64} {name : String} :
    Corrupted (amountDatum amount name) ↔ 2 ^ 63 ≤ amount.toNat := by
  rw [amountDatum]
  split
  · rename_i h
    simpa using h
  · rename_i h
    simpa [Corrupted] using h

@[simp] theorem corrupted_statusOfWord {word : String} :
    Corrupted (statusOfWord word) ↔ OrderStatus.ofWord? word = none := by
  rw [statusOfWord]
  cases OrderStatus.ofWord? word <;> simp [Corrupted]

theorem exists_amountDatum {amount : UInt64} {name : String} :
    (∃ d, amountDatum amount name = .ok d) ↔ amount.toNat < 2 ^ 63 := by
  refine ⟨fun ⟨d, hd⟩ => ?_, fun h => ⟨_, amountDatum_of_lt h name⟩⟩
  rw [amountDatum] at hd
  split at hd
  · assumption
  · cases hd

theorem nonneg_of_unsigned {n : Int64} {what : String} {a : UInt64}
    (h : unsigned n what = .ok a) : 0 ≤ n := by
  rw [unsigned] at h
  split at h
  · assumption
  · cases h

theorem exists_unsigned {n : Int64} {what : String} :
    (∃ a, unsigned n what = .ok a) ↔ 0 ≤ n :=
  ⟨fun ⟨_, ha⟩ => nonneg_of_unsigned ha, fun h => ⟨_, if_pos h⟩⟩

theorem ofCode?_of_ofCode {n : Int} {s : Step} (h : Step.ofCode n = .ok s) :
    Step.ofCode? n = some s := by
  rw [Step.ofCode] at h
  split at h
  · rename_i hs
    rw [hs, Except.ok.inj h]
  · cases h

theorem ofWord?_of_statusOfWord {word : String} {s : OrderStatus}
    (h : statusOfWord word = .ok s) : OrderStatus.ofWord? word = some s := by
  rw [statusOfWord] at h
  split at h
  · rename_i hs
    rw [hs, Except.ok.inj h]
  · cases h

end Sequence

/-! ## Customers -/

/-- A column of a row is there and of its type. -/
def Fits {α : Type} (row : Row) (name : String) (read : Datum → Option α) : Prop :=
  ∃ a, column row name read = .ok a

/-- Every column that a customer is read from is there and of its type. -/
structure CustomerColumns (row : Row) : Prop where
  state : Fits row "state" Datum.smallint?
  offset : Fits row "catalog_offset" Datum.bigint?
  cart : Fits row "cart" (Datum.record? Cart.ofRecord?)
  terms : Fits row "meta" (Datum.record? Terms.ofRecord?)
  calculatorTerms : Fits row "calculator_meta" (Datum.record? Terms.ofRecord?)
  draft : Fits row "last_edit_position" (Datum.nullable (Datum.record? Draft.ofRecord?))
  id : Fits row "telegram_id" Datum.bigint?
  username : Fits row "username" Datum.text?
  fullName : Fits row "full_name" (Datum.nullable Datum.text?)
  phoneNumber : Fits row "phone_number" (Datum.nullable Datum.text?)

/-- The row of a customer in a step that is none, or at a negative place of the catalogue. -/
def DamagedCustomer (row : Row) : Prop :=
  (∃ code, column row "state" Datum.smallint? = .ok code ∧ Step.ofCode? code.toInt = none) ∨
    ∃ offset, column row "catalog_offset" Datum.bigint? = .ok offset ∧ offset < 0

theorem corrupted_customerOfRow {row : Row} (h : CustomerColumns row) :
    Corrupted (customerOfRow row) ↔ DamagedCustomer row := by
  obtain ⟨code, hcode⟩ := h.state
  obtain ⟨offset, hoffset⟩ := h.offset
  obtain ⟨cart, hcart⟩ := h.cart
  obtain ⟨terms, hterms⟩ := h.terms
  obtain ⟨calculatorTerms, hcalculatorTerms⟩ := h.calculatorTerms
  obtain ⟨draft, hdraft⟩ := h.draft
  obtain ⟨id, hid⟩ := h.id
  obtain ⟨username, husername⟩ := h.username
  obtain ⟨fullName, hfullName⟩ := h.fullName
  obtain ⟨phoneNumber, hphoneNumber⟩ := h.phoneNumber
  simp only [customerOfRow, DamagedCustomer, hcode, hoffset, hcart, hterms, hcalculatorTerms,
    hdraft, hid, husername, hfullName, hphoneNumber]
  cases hs : Step.ofCode? code.toInt <;> simp [Step.ofCode, hs]

theorem customerOfRow_ne_ok {row : Row} (h : DamagedCustomer row) (c : Customer) :
    customerOfRow row ≠ .ok c := by
  intro hc
  simp only [customerOfRow, bind_eq_ok] at hc
  obtain ⟨code, hcode, offset, hoffset, _, -, _, -, _, -, _, -, _, -, _, -, _, -, _, -, step, hstep,
    _, hunsigned, -⟩ := hc
  rcases h with ⟨code', hcode', hnone⟩ | ⟨offset', hoffset', hneg⟩
  · obtain rfl := Except.ok.inj (hcode.symm.trans hcode')
    rw [ofCode?_of_ofCode hstep] at hnone
    cases hnone
  · obtain rfl := Except.ok.inj (hoffset.symm.trans hoffset')
    exact Int64.not_lt.2 (nonneg_of_unsigned hunsigned) hneg

/-! ### Data of columns -/

theorem record?_jsonb {α : Type} {write : α → Json.Value} {read : Json.Value → Option α}
    (h : Record.Codec write read) (a : α) : Datum.record? read (.jsonb (write a)) = some a :=
  h.read_write a

theorem nullable_ofOption {α : Type} {write : α → Datum} {read : Datum → Option α}
    (hread : ∀ a, read (write a) = some a) (hwrite : ∀ a, write a ≠ .null) (a : Option α) :
    Datum.nullable read (.ofOption write a) = some a := by
  cases a with
  | none => rfl
  | some a =>
    have ha := hwrite a
    rw [Datum.ofOption]
    unfold Datum.nullable
    split
    · contradiction
    · rw [hread, Option.map_some]

theorem nullable_text (a : Option String) :
    Datum.nullable Datum.text? (.ofOption .text a) = some a := by
  cases a <;> rfl

/-- The number of a step stands for it. -/
theorem exists_stepDatum (s : Step) :
    ∃ code, stepDatum s = .smallint code ∧ Step.ofCode code.toInt = .ok s :=
  ⟨Int16.ofNat s.code, rfl, by cases s <;> rfl⟩

theorem unsigned_toInt64_eq_ok {n : UInt64} {what : String} :
    unsigned n.toInt64 what = .ok n ↔ n.toNat < 2 ^ 63 := by
  refine ⟨fun h => ?_, fun h => unsigned_toInt64 h what⟩
  have hnonneg : 0 ≤ n.toBitVec.toInt := Int64.le_iff_toInt_le.1 (nonneg_of_unsigned h)
  rw [BitVec.toInt_eq_toNat_cond, UInt64.toNat_toBitVec] at hnonneg
  have hbound := n.toNat_lt
  split at hnonneg <;> omega

/-- A customer is read back, and a place in the catalogue of more than 63 bits is not. -/
theorem customerOfRow_customerRow (c : Customer) :
    customerOfRow (customerRow c) = .ok c ↔ c.catalogOffset.toNat < 2 ^ 63 := by
  have hdraft : Datum.nullable (Datum.record? Draft.ofRecord?)
      (.ofOption (fun d => .jsonb (Draft.toRecord d)) c.draft) = some c.draft :=
    nullable_ofOption (record?_jsonb Record.draft_codec) (fun _ h => Datum.noConfusion h) c.draft
  obtain ⟨code, hcode, hstep⟩ := exists_stepDatum c.step
  have hread : customerOfRow (customerRow c) =
      (fun catalogOffset => { c with catalogOffset }) <$>
        unsigned c.catalogOffset.toInt64 "catalog offset" := by
    simp [customerOfRow, column, customerRow, Row.column?, List.lookup_cons, Datum.bigint?,
      Datum.text?, Datum.smallint?, hcode, record?_jsonb Record.cart_codec,
      record?_jsonb Record.terms_codec, hdraft, nullable_text, ok_bind, hstep]
  rw [hread, map_eq_ok, ← unsigned_toInt64_eq_ok]
  constructor
  · rintro ⟨offset, hoffset, hc⟩
    obtain rfl : offset = c.catalogOffset := congrArg Customer.catalogOffset hc
    exact hoffset
  · exact fun h => ⟨_, h, rfl⟩

/-! ## What reading reports -/

/-- How rows of a kind are read: of a `complete` row, one that has every column as it should be, it
is reported as corrupted whether it is `damaged`, and a damaged row is read as nothing. -/
structure Reads {α : Type} (read : Row → Except StoreError α) (complete damaged : Row → Prop) :
    Prop where
  corrupted_iff : ∀ row, complete row → (Corrupted (read row) ↔ damaged row)
  ne_ok : ∀ row, damaged row → ∀ a, read row ≠ .ok a

/-! ## Items -/

/-- Every column that an item is read from is there and of its type. -/
structure ItemColumns (row : Row) : Prop where
  imageUrls : Fits row "image_urls" texts?
  availableSizes : Fits row "available_sizes" texts?
  availableInCity : Fits row "available_in_city" texts?
  rank : Fits row "rank" Datum.integer?
  quantity : Fits row "quantity" Datum.integer?
  price : Fits row "price_rub" Datum.bigint?
  id : Fits row "item_id" Datum.uuid?
  title : Fits row "title" Datum.text?
  shopLink : Fits row "shop_link" Datum.text?

/-- The row of an item with a negative price. -/
def DamagedItem (row : Row) : Prop :=
  ∃ price, column row "price_rub" Datum.bigint? = .ok price ∧ price < 0

theorem corrupted_itemOfRow {row : Row} (h : ItemColumns row) :
    Corrupted (itemOfRow row) ↔ DamagedItem row := by
  obtain ⟨imageUrls, himageUrls⟩ := h.imageUrls
  obtain ⟨availableSizes, havailableSizes⟩ := h.availableSizes
  obtain ⟨availableInCity, havailableInCity⟩ := h.availableInCity
  obtain ⟨rank, hrank⟩ := h.rank
  obtain ⟨quantity, hquantity⟩ := h.quantity
  obtain ⟨price, hprice⟩ := h.price
  obtain ⟨id, hid⟩ := h.id
  obtain ⟨title, htitle⟩ := h.title
  obtain ⟨shopLink, hshopLink⟩ := h.shopLink
  simp [itemOfRow, DamagedItem, himageUrls, havailableSizes, havailableInCity, hrank, hquantity,
    hprice, hid, htitle, hshopLink]

theorem itemOfRow_ne_ok {row : Row} (h : DamagedItem row) (item : Catalog.Item) :
    itemOfRow row ≠ .ok item := by
  intro hitem
  simp only [itemOfRow, bind_eq_ok] at hitem
  obtain ⟨_, -, _, -, _, -, _, -, _, -, price, hprice, _, -, _, -, _, hunsigned, -⟩ := hitem
  obtain ⟨price', hprice', hneg⟩ := h
  obtain rfl := Except.ok.inj (hprice.symm.trans hprice')
  exact Int64.not_lt.2 (nonneg_of_unsigned hunsigned) hneg

/-- An item is not written for its price alone. -/
theorem corrupted_itemColumns {item : Catalog.Item} :
    Corrupted (itemColumns item) ↔ 2 ^ 63 ≤ item.priceRub.toNat := by
  simp [itemColumns]

/-! ## Orders -/

/-- Every column that an order is read from is there and of its type. -/
structure OrderColumns (row : Row) : Prop where
  buyer : Fits row "customer" (Datum.record? Buyer.ofRecord?)
  cart : Fits row "cart" (Datum.record? Cart.ofRecord?)
  amountRub : Fits row "amount_rub" Datum.bigint?
  amountYuan : Fits row "amount_yuan" Datum.bigint?
  status : Fits row "status" Datum.text?
  id : Fits row "order_id" Datum.uuid?
  shortId : Fits row "short_id" Datum.text?
  deliveryAddress : Fits row "delivery_address" Datum.text?
  isExpress : Fits row "is_express" Datum.boolean?
  isPaid : Fits row "is_paid" Datum.boolean?
  isApproved : Fits row "is_approved" Datum.boolean?
  comment : Fits row "comment" (Datum.nullable Datum.text?)
  createdAt : Fits row "created_at" Datum.instant?

/-- The row of an order with a status that is none, or with a negative amount. -/
def DamagedOrder (row : Row) : Prop :=
  (∃ word, column row "status" Datum.text? = .ok word ∧ OrderStatus.ofWord? word = none) ∨
    (∃ amount, column row "amount_rub" Datum.bigint? = .ok amount ∧ amount < 0) ∨
    ∃ amount, column row "amount_yuan" Datum.bigint? = .ok amount ∧ amount < 0

theorem corrupted_orderOfRow {row : Row} (h : OrderColumns row) :
    Corrupted (orderOfRow row) ↔ DamagedOrder row := by
  obtain ⟨buyer, hbuyer⟩ := h.buyer
  obtain ⟨cart, hcart⟩ := h.cart
  obtain ⟨rub, hrub⟩ := h.amountRub
  obtain ⟨yuan, hyuan⟩ := h.amountYuan
  obtain ⟨word, hword⟩ := h.status
  obtain ⟨id, hid⟩ := h.id
  obtain ⟨shortId, hshortId⟩ := h.shortId
  obtain ⟨deliveryAddress, hdeliveryAddress⟩ := h.deliveryAddress
  obtain ⟨isExpress, hisExpress⟩ := h.isExpress
  obtain ⟨isPaid, hisPaid⟩ := h.isPaid
  obtain ⟨isApproved, hisApproved⟩ := h.isApproved
  obtain ⟨comment, hcomment⟩ := h.comment
  obtain ⟨createdAt, hcreatedAt⟩ := h.createdAt
  simp [orderOfRow, DamagedOrder, hbuyer, hcart, hrub, hyuan, hword, hid, hshortId,
    hdeliveryAddress, hisExpress, hisPaid, hisApproved, hcomment, hcreatedAt, exists_unsigned]
  simp only [← Int64.not_lt]
  tauto

theorem orderOfRow_ne_ok {row : Row} (h : DamagedOrder row) (o : Order) :
    orderOfRow row ≠ .ok o := by
  intro ho
  simp only [orderOfRow, bind_eq_ok] at ho
  obtain ⟨_, -, _, -, rub, hrub, yuan, hyuan, word, hword, _, -, _, -, _, hunsignedRub, _,
    hunsignedYuan, _, -, _, -, _, -, _, -, status, hstatus, -⟩ := ho
  rcases h with ⟨word', hword', hnone⟩ | ⟨rub', hrub', hneg⟩ | ⟨yuan', hyuan', hneg⟩
  · obtain rfl := Except.ok.inj (hword.symm.trans hword')
    rw [ofWord?_of_statusOfWord hstatus] at hnone
    cases hnone
  · obtain rfl := Except.ok.inj (hrub.symm.trans hrub')
    exact Int64.not_lt.2 (nonneg_of_unsigned hunsignedRub) hneg
  · obtain rfl := Except.ok.inj (hyuan.symm.trans hyuan')
    exact Int64.not_lt.2 (nonneg_of_unsigned hunsignedYuan) hneg

/-- An order is not written for one of its amounts alone. -/
theorem corrupted_orderRow {o : Order} :
    Corrupted (orderRow o) ↔ 2 ^ 63 ≤ o.amountRub.toNat ∨ 2 ^ 63 ≤ o.amountYuan.toNat := by
  simp [orderRow, exists_amountDatum]
  omega

theorem statusOfWord_word (s : OrderStatus) : statusOfWord s.word = .ok s := by
  cases s <;> decide

/-- An order is read back, its time to the microsecond. -/
theorem orderOfRow_boundOrder {o : Order} (hrub : o.amountRub.toNat < 2 ^ 63)
    (hyuan : o.amountYuan.toNat < 2 ^ 63) :
    orderOfRow (boundOrder o) = .ok { o with createdAt := .ofMicros o.createdAt.micros } := by
  simp [orderOfRow, boundOrder, column, Row.column?, List.lookup_cons, Datum.bigint?, Datum.text?,
    Datum.uuid?, Datum.boolean?, Datum.instant?, Datum.ofInstant, record?_jsonb Record.buyer_codec,
    record?_jsonb Record.cart_codec, nullable_text, ok_bind, unsigned_toInt64 hrub,
    unsigned_toInt64 hyuan, statusOfWord_word]

end Store

end OrderDesk
