import Mathlib.Algebra.Order.BigOperators.Group.List
import Mathlib.Algebra.Order.Ring.Nat
import OrderDesk.Proofs.Orders.WellFormed
import OrderDesk.Proofs.Store.Rows
import OrderDesk.Proofs.World.Reach
import OrderDesk.Store.Database

/-!
# Amounts are exact

The sum of a cart is clamped to 64 bits, and the database takes amounts of 63 bits only.  Neither
limit is ever met, and for two reasons that live far apart: a price is quoted only up to
`maxPriceRub` and asked only up to `Answer.maxPriceYuan`, and a cart has at most `maxCartLines`
lines.  The first is kept from the quotation through the draft to the line (`Customer.Affordable`),
the second is part of coherence.  Together they bound the exact sum far below 63 bits
(`Cart.exact_of_bounded`), so the clamp never acts (`toNat_foldl_addClamped`) and every order that is
kept can be written to the database (`Memory.Reached.amounts_exact`).
-/

namespace OrderDesk

open Desk (Move Sources Quoted)
open Store (Memory)
open Store.Database (serve execute)

/-! ## Sums -/

/-- The exact sum of an amount over the lines. -/
def Cart.sum (amount : Position → UInt64) (c : Cart) : Nat :=
  (c.lines.map fun p => (amount p).toNat).sum

theorem toNat_addClamped (a b : UInt64) :
    (addClamped a b).toNat = min (a.toNat + b.toNat) (UInt64.size - 1) := by
  have hfits : min (a.toNat + b.toNat) (UInt64.size - 1) < UInt64.size :=
    Nat.lt_of_le_of_lt (Nat.min_le_right _ _) (by decide)
  rw [addClamped, UInt64.toNat_ofNat_of_lt' hfits]

/-- Clamping at each addition is clamping once at the end. -/
theorem toNat_foldl_addClamped (amount : Position → UInt64) (ps : List Position)
    (start : UInt64) :
    (ps.foldl (fun total p => addClamped total (amount p)) start).toNat =
      min (start.toNat + (ps.map fun p => (amount p).toNat).sum) (UInt64.size - 1) := by
  induction ps generalizing start with
  | nil =>
    have hstart := start.toNat_lt
    simp only [List.foldl_nil, List.map_nil, List.sum_nil, UInt64.size]
    omega
  | cons p ps ih =>
    simp only [List.foldl_cons, List.map_cons, List.sum_cons]
    rw [ih, toNat_addClamped]
    omega

/-- The totals of a cart are the exact sums of the prices, and they have 63 bits. -/
structure Cart.Exact (c : Cart) : Prop where
  /-- The total in roubles. -/
  rub : c.totalRub.toNat = c.sum Position.priceRub
  /-- The total in yuan. -/
  yuan : c.totalYuan.toNat = c.sum Position.priceYuan
  /-- There is room for both. -/
  room : c.sum Position.priceRub < 2 ^ 63 ∧ c.sum Position.priceYuan < 2 ^ 63

/-- A cart of bounded size with bounded amounts has a bounded sum. -/
theorem Cart.sum_le {amount : Position → UInt64} {c : Cart} {bound : Nat}
    (hsize : c.size ≤ maxCartLines) (h : ∀ p ∈ c.lines, (amount p).toNat ≤ bound) :
    c.sum amount ≤ maxCartLines * bound := by
  have heach : ∀ n ∈ c.lines.map fun p => (amount p).toNat, n ≤ bound := by
    intro n hn
    obtain ⟨p, hp, rfl⟩ := List.mem_map.1 hn
    exact h p hp
  have hsum := List.sum_le_card_nsmul _ bound heach
  rw [List.length_map, Nat.nsmul_eq_mul] at hsum
  exact Nat.le_trans hsum (Nat.mul_le_mul_right bound hsize)

/-- Where prices are as they are quoted and asked, totals are exact. -/
theorem Cart.exact_of_bounded {c : Cart} (hsize : c.size ≤ maxCartLines)
    (hrub : ∀ p ∈ c.lines, p.priceRub.toNat ≤ maxPriceRub)
    (hyuan : ∀ p ∈ c.lines, p.priceYuan.toNat ≤ Answer.maxPriceYuan) : c.Exact := by
  have hroom : maxCartLines * maxPriceRub < 2 ^ 63 ∧ maxCartLines * Answer.maxPriceYuan < 2 ^ 63 := by
    decide
  have hsumRub := Nat.lt_of_le_of_lt (Cart.sum_le hsize hrub) hroom.1
  have hsumYuan := Nat.lt_of_le_of_lt (Cart.sum_le hsize hyuan) hroom.2
  have hclamp {amount : Position → UInt64} (h : c.sum amount < 2 ^ 63) :
      (c.lines.foldl (fun total p => addClamped total (amount p)) 0).toNat = c.sum amount := by
    rw [toNat_foldl_addClamped, UInt64.toNat_zero, Nat.zero_add]
    exact Nat.min_eq_left (Nat.le_trans (Nat.le_of_lt h) (by decide))
  exact ⟨hclamp hsumRub, hclamp hsumYuan, hsumRub, hsumYuan⟩

/-! ## From the quotation to the line -/

theorem Formula.quote_le {price : Float} {rub : UInt64} (h : quote price = .ok rub) :
    rub.toNat ≤ maxPriceRub := by
  unfold quote at h
  split at h
  · split at h
    · rename_i n _ hrange
      obtain rfl := Except.ok.inj h
      have hbits : (UInt64.ofNat n.toNat).toNat ≤ n.toNat := Nat.mod_le _ _
      omega
    · cases h
  · cases h

/-- Whatever the rate, a quotation is bounded. -/
theorem Desk.Quoted.le {σ : Sources} {yuan rub : UInt64} {terms : Terms}
    (h : Quoted σ yuan terms rub) : rub.toNat ≤ maxPriceRub := by
  obtain ⟨complete, rate, -, -, hprice⟩ := h
  exact Formula.quote_le hprice

/-- The prices of a record, in its cart and in its draft, are such as are quoted. -/
structure Customer.Affordable (c : Customer) : Prop where
  lines : ∀ p ∈ c.cart.lines, p.priceRub.toNat ≤ maxPriceRub
  /-- The price of the draft, if it is there. -/
  draft : ∀ d, c.draft = some d → ∀ rub, d.priceRub = some rub → rub.toNat ≤ maxPriceRub

namespace Customer.Affordable

variable {c : Customer}

/-- Every move keeps to prices that are quoted. -/
theorem move {desk : Desk} {σ : Sources} {q : Desk.Request} {u : Update} (h : c.Affordable)
    (hmove : Move desk σ c q u) : (c.apply u).Affordable := by
  have unpriced {c' : Customer} (hlines : c'.cart = c.cart)
      (hdraft : ∀ d, c'.draft = some d → d.priceRub = none) : c'.Affordable := by
    refine ⟨hlines ▸ h.lines, fun d hd rub hrub => ?_⟩
    exact nomatch (hdraft d hd).symm.trans hrub
  have same {c' : Customer} (hlines : c'.cart = c.cart)
      (hdraft : ∀ d', c'.draft = some d' → ∃ d, c.draft = some d ∧ d'.priceRub = d.priceRub) :
      c'.Affordable := by
    refine ⟨hlines ▸ h.lines, fun d' hd' rub hrub => ?_⟩
    obtain ⟨d, hd, hprice⟩ := hdraft d' hd'
    exact h.draft d hd rub (hprice ▸ hrub)
  cases hmove with
  | beginCart | beginLine | cartFull => exact unpriced rfl fun _ hd => (nomatch hd)
  | category hstep hid =>
    refine unpriced rfl ?_
    rintro _ ⟨⟩
    rfl
  | size hstep hsize hdraft =>
    refine same rfl ?_
    rintro _ ⟨⟩
    exact ⟨_, hdraft, rfl⟩
  | button hstep hdraft =>
    refine same rfl ?_
    rintro _ ⟨⟩
    exact ⟨_, hdraft, rfl⟩
  | price hstep hyuan hdraft hrub =>
    refine ⟨h.lines, ?_⟩
    rintro _ ⟨⟩ _ ⟨⟩
    exact hrub.le
  | @link text link draft p hstep hlink hsize hdraft hp =>
    refine ⟨fun x hx => ?_, fun _ hd => (nomatch hd)⟩
    rcases List.mem_append.1 hx with hx | hx
    · exact h.lines x hx
    · -- the new line has the price of its draft
      have hd := congrArg Draft.priceRub (Draft.complete?_eq_some_iff.1 hp)
      exact List.mem_singleton.1 hx ▸ h.draft draft hdraft p.priceRub hd
  | removePosition hstep =>
    exact ⟨fun p hp => h.lines p (Desk.mem_withoutLine hp), h.draft⟩
  | _ => exact ⟨h.lines, h.draft⟩

end Customer.Affordable

theorem Desk.affordable_lasting (desk : Desk) (σ : Sources) :
    desk.Lasting σ Customer.Affordable
      fun o => ∀ p ∈ o.cart.lines, p.priceRub.toNat ≤ maxPriceRub where
  fresh _ _ := ⟨List.forall_mem_nil _, fun _ hd => (nomatch hd)⟩
  move h hmove := h.move hmove
  front h := ⟨h.lines, h.draft⟩
  ordered _ _ := ⟨List.forall_mem_nil _, fun _ hd => (nomatch hd)⟩
  order _ _ _ h _ _ := h.lines
  paid h := h

/-! ## Orders in the database -/

theorem Store.orderRow_of_lt {o : Order} (hrub : o.amountRub.toNat < 2 ^ 63)
    (hyuan : o.amountYuan.toNat < 2 ^ 63) :
    ∃ (row : Sql.Row) (rub yuan : Int64), orderRow o = .ok row ∧
      row.column? "amount_rub" = some (.bigint rub) ∧ rub.toInt = o.amountRub.toNat ∧
      row.column? "amount_yuan" = some (.bigint yuan) ∧ yuan.toInt = o.amountYuan.toNat := by
  refine ⟨boundOrder o, o.amountRub.toInt64, o.amountYuan.toInt64, orderRow_eq_ok hrub hyuan, ?_,
    toInt_toInt64 hrub, ?_, toInt_toInt64 hyuan⟩
  · simp [boundOrder, Sql.Row.column?, List.lookup_cons]
  · simp [boundOrder, Sql.Row.column?, List.lookup_cons]

/-- An order has the exact amounts of its lines, and the database takes it with them. -/
structure Order.Exact (o : Order) : Prop where
  cart : o.cart.Exact
  /-- The amount in roubles. -/
  rub : o.amountRub.toNat = o.cart.sum Position.priceRub
  /-- The amount in yuan. -/
  yuan : o.amountYuan.toNat = o.cart.sum Position.priceYuan
  /-- Keeping the order is one statement, which has the amounts as they are. -/
  kept : ∃ (row : Sql.Row) (rub yuan : Int64),
    (∀ listening, serve listening (.saveOrder o) = do let _ ← execute (.insert "orders" row)) ∧
    row.column? "amount_rub" = some (.bigint rub) ∧ rub.toInt = o.cart.sum Position.priceRub ∧
    row.column? "amount_yuan" = some (.bigint yuan) ∧ yuan.toInt = o.cart.sum Position.priceYuan

theorem Order.exact_of_totals {o : Order} (hcart : o.cart.Exact)
    (hrub : o.amountRub = o.cart.totalRub) (hyuan : o.amountYuan = o.cart.totalYuan) : o.Exact := by
  have hamountRub : o.amountRub.toNat = o.cart.sum Position.priceRub := hrub ▸ hcart.rub
  have hamountYuan : o.amountYuan.toNat = o.cart.sum Position.priceYuan := hyuan ▸ hcart.yuan
  obtain ⟨row, rub, yuan, hrow, hrubColumn, hrubInt, hyuanColumn, hyuanInt⟩ :=
    Store.orderRow_of_lt (hamountRub ▸ hcart.room.1) (hamountYuan ▸ hcart.room.2)
  refine ⟨hcart, hamountRub, hamountYuan, row, rub, yuan, fun listening => ?_, hrubColumn,
    hamountRub ▸ hrubInt, hyuanColumn, hamountYuan ▸ hyuanInt⟩
  show Store.Database.saveOrder o = _
  rw [Store.Database.saveOrder, hrow]
  rfl

/-! ## Stores that are reached -/

/-- In every store that dispatches and changes of the catalogue lead to, whatever the rates, each
cart and each order has the exact sums of its prices, and each order can be kept in the database. -/
theorem Store.Memory.Reached.amounts_exact {desk : Desk} {σ : Sources} {m : Memory}
    (hm : m.Reached desk σ) : m.Each (fun c => c.cart.Exact) Order.Exact := by
  have hchecked := hm.each (desk.checked_lasting σ)
  have hquoted := hm.each (desk.affordable_lasting σ)
  refine ⟨fun c hc => ?_, fun o ho => ?_⟩
  · obtain ⟨hcoherent, hlines⟩ := hchecked.customers c hc
    exact Cart.exact_of_bounded hcoherent.size (hquoted.customers c hc).lines
      fun p hp => (hlines.lines p hp).priceYuan.2
  · have hformed := hchecked.orders o ho
    have hcart := Cart.exact_of_bounded hformed.size.2 (hquoted.orders o ho)
      fun p hp => (hformed.lines p hp).priceYuan.2
    exact Order.exact_of_totals hcart hformed.amountRub hformed.amountYuan

/-- The order of the purchase costs what its one line costs. -/
theorem Purchase.order_exact :
    (opening.after Desk.bare whole).memory.Reached Desk.bare (.atRate 1.0) ∧
      ∃ o ∈ (opening.after Desk.bare whole).memory.orders, o.cart.size = 1 ∧ o.Exact := by
  have hreached := whole_reached
  have hordered : ∃ o ∈ (opening.after Desk.bare whole).memory.orders, o.cart.size = 1 := by
    decide +kernel
  obtain ⟨o, ho, hsize⟩ := hordered
  exact ⟨hreached, o, ho, hsize, hreached.amounts_exact.orders o ho⟩

end OrderDesk
