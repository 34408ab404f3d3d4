import OrderDesk.Proofs.Conversation.Coherence
import OrderDesk.Proofs.World.Reach

/-!
# Prices are the ones quoted

A price is fixed when it is typed, from the delivery terms and the weight class of that moment, and
the terms can still change before the line is ordered.  They never do where it matters: delivery
speed and region are only written while the cart is empty and no draft has a price
(`Customer.Priced`, `Priced.move`).  So at a rate that stays the same, every line in a cart, every
draft that waits for its link and every line of an order costs what the terms it is delivered by
make of its price in yuan (`Memory.Reached.priced`).
-/

namespace OrderDesk

open Desk (Move Sources Quoted)
open Store (Memory)

/-! ## Lines and drafts with their price -/

/-- The price of a line is the one quoted for delivery by the given terms. -/
def Position.QuotedAt (rate : Float) (t : OrderType) (l : Location) (p : Position) : Prop :=
  ∃ k, p.category = some k ∧ convertYuan p.priceYuan rate t l k = .ok p.priceRub

/-- A draft has its price, the one quoted for delivery by the given terms. -/
def Draft.QuotedAt (rate : Float) (t : OrderType) (l : Location) (d : Draft) : Prop :=
  ∃ k yuan rub, d.category = some k ∧ d.priceYuan = some yuan ∧ d.priceRub = some rub ∧
    convertYuan yuan rate t l k = .ok rub

/-- A completed draft keeps its price. -/
theorem Draft.QuotedAt.complete {rate : Float} {t : OrderType} {l : Location} {d : Draft}
    {link : String} {p : Position} (h : d.QuotedAt rate t l)
    (hp : { d with shopLink := some link }.complete? = some p) : p.QuotedAt rate t l := by
  obtain ⟨k, yuan, rub, hcategory, hyuan, hrub, hprice⟩ := h
  have hd := Draft.complete?_eq_some_iff.1 hp
  simp only [Draft.mk.injEq] at hd
  obtain ⟨-, -, -, hk, hy, hr, -⟩ := hd
  obtain rfl : yuan = p.priceYuan := Option.some.inj (hyuan.symm.trans hy)
  obtain rfl : rub = p.priceRub := Option.some.inj (hrub.symm.trans hr)
  exact ⟨k, hk.symm.trans hcategory, hprice⟩

/-- A quotation is for complete terms. -/
theorem Desk.Quoted.convert {rate : Float} {yuan rub : UInt64} {terms : Terms}
    (h : Quoted (.atRate rate) yuan terms rub) :
    ∃ t l k, terms.orderType = some t ∧ terms.location = some l ∧ terms.category = some k ∧
      convertYuan yuan rate t l k = .ok rub := by
  obtain ⟨complete, rate', hcomplete, hrate, hprice⟩ := h
  obtain rfl : rate' = rate := hrate rate' rfl
  obtain ⟨orderType, location, category⟩ := terms
  unfold Terms.complete at hcomplete
  cases orderType with
  | none => cases hcomplete
  | some t =>
    cases location with
    | none => cases hcomplete
    | some l =>
      cases category with
      | none => cases hcomplete
      | some k =>
        cases hcomplete
        exact ⟨t, l, k, rfl, rfl, rfl, hprice⟩

/-! ## Records and orders with their prices -/

/-- Lines and draft of a record cost what the record's terms make of their prices in yuan. -/
structure Customer.Priced (rate : Float) (c : Customer) : Prop where
  /-- A cart with lines has terms, and they give the prices. -/
  lines : ¬ c.cart.isEmpty → ∃ t l, c.terms.orderType = some t ∧ c.terms.location = some l ∧
    ∀ p ∈ c.cart.lines, p.QuotedAt rate t l
  /-- A draft that waits for its link has its price. -/
  draft : c.step = .link → ∃ t l d, c.terms.orderType = some t ∧ c.terms.location = some l ∧
    c.draft = some d ∧ d.QuotedAt rate t l

/-- The lines of an order cost what its delivery speed and some region make of them. -/
def Order.Priced (rate : Float) (o : Order) : Prop :=
  ∃ l, ∀ p ∈ o.cart.lines, p.QuotedAt rate (if o.isExpress then .express else .normal) l

namespace Customer.Priced

variable {rate : Float} {c : Customer}

theorem fresh (id : Int64) (username : String) : (Customer.fresh id username).Priced rate :=
  ⟨fun h => absurd rfl h, fun h => (by cases h)⟩

theorem look (h : c.Priced rate) (offset : UInt64) :
    { c with catalogOffset := offset }.Priced rate :=
  ⟨h.lines, h.draft⟩

theorem clearing (c : Customer) : (c.apply .clearing).Priced rate :=
  ⟨fun h => absurd rfl h, fun h => (by cases h)⟩

/-- Every move keeps the prices of a coherent record, at the rate at which they are quoted. -/
theorem move {desk : Desk} {q : Desk.Request} {u : Update} (hcoherent : c.Coherent)
    (h : c.Priced rate) (hmove : Move desk (.atRate rate) c q u) : (c.apply u).Priced rate := by
  cases hmove with
  | leave hq => exact ⟨h.lines, fun hlink => (by cases hlink)⟩
  | beginCart hq hcart => exact ⟨fun hfilled => absurd hcart hfilled, fun hlink => (by cases hlink)⟩
  | beginLine hq hcart hsize => exact ⟨h.lines, fun hlink => (by cases hlink)⟩
  | express hstep =>
    have hcart : c.cart.isEmpty := hcoherent.at_step hstep
    exact ⟨fun hfilled => absurd hcart hfilled, fun hlink => (by cases hlink)⟩
  | normal hstep =>
    have hcart : c.cart.isEmpty := hcoherent.at_step hstep
    exact ⟨fun hfilled => absurd hcart hfilled, fun hlink => (by cases hlink)⟩
  | location hstep =>
    obtain ⟨hcart, -⟩ := hcoherent.at_step hstep
    exact ⟨fun hfilled => absurd hcart hfilled, fun hlink => (by cases hlink)⟩
  | category hstep hid => exact ⟨h.lines, fun hlink => (by cases hlink)⟩
  | size hstep hsize hdraft => exact ⟨h.lines, fun hlink => (by cases hlink)⟩
  | button hstep hdraft => exact ⟨h.lines, fun hlink => (by cases hlink)⟩
  | @price text yuan rub draft hstep hyuan hdraft hrub =>
    refine ⟨h.lines, fun _ => ?_⟩
    obtain ⟨-, d, hd, hcategory, -⟩ := hcoherent.at_step hstep
    obtain rfl : draft = d := Option.some.inj (hdraft.symm.trans hd)
    obtain ⟨t, l, k, ht, hl, hk, hprice⟩ := hrub.convert
    -- the draft says its weight class, so the one of the terms does not count
    obtain ⟨k', hk'⟩ := Option.isSome_iff_exists.1 hcategory
    simp only [hk'] at hk
    obtain rfl : k' = k := Option.some.inj hk
    exact ⟨t, l, _, ht, hl, rfl, k', yuan, rub, hk', rfl, rfl, hprice⟩
  | cartFull hstep hlink hsize => exact ⟨h.lines, fun hlink => (by cases hlink)⟩
  | @link text link draft p hstep hlink hsize hdraft hp =>
    refine ⟨fun _ => ?_, fun hlink => (by cases hlink)⟩
    obtain ⟨t, l, d, ht, hl, hd, hquoted⟩ := h.draft hstep
    obtain rfl : draft = d := Option.some.inj (hdraft.symm.trans hd)
    refine ⟨t, l, ht, hl, fun x hx => ?_⟩
    rcases List.mem_append.1 hx with hx | hx
    · -- a line that was there has the price of the same terms
      have hfilled : ¬ c.cart.isEmpty := fun hempty => by
        rw [Cart.isEmpty, List.isEmpty_iff] at hempty
        simp [hempty] at hx
      obtain ⟨t', l', ht', hl', hlines⟩ := h.lines hfilled
      obtain rfl : t = t' := Option.some.inj (ht.symm.trans ht')
      obtain rfl : l = l' := Option.some.inj (hl.symm.trans hl')
      exact hlines x hx
    · exact List.mem_singleton.1 hx ▸ hquoted.complete hp
  | editCart hcart => exact ⟨h.lines, fun hlink => (by cases hlink)⟩
  | @removePosition index data message hstep =>
    refine ⟨fun _ => ?_, fun hlink => ?_⟩
    · obtain ⟨t, l, ht, hl, hlines⟩ := h.lines (hcoherent.at_step hstep)
      exact ⟨t, l, ht, hl, fun p hp => hlines p (Desk.mem_withoutLine hp)⟩
    · by_cases hempty : (Desk.withoutLine c.cart index).isEmpty
      · simp [apply, hempty] at hlink
      · simp [apply, Update.none, hempty, hstep] at hlink
  | calculator hq => exact ⟨h.lines, fun hlink => (by cases hlink)⟩
  | calculatorExpress hstep => exact ⟨h.lines, fun hlink => (by cases hlink)⟩
  | calculatorNormal hstep => exact ⟨h.lines, fun hlink => (by cases hlink)⟩
  | calculatorLocation hstep => exact ⟨h.lines, fun hlink => (by cases hlink)⟩
  | calculatorCategory hstep => exact ⟨h.lines, fun hlink => (by cases hlink)⟩
  | calculatorAmount hstep hyuan hrub => exact ⟨h.lines, fun hlink => (by cases hlink)⟩
  | checkout hcart => exact ⟨h.lines, fun hlink => (by cases hlink)⟩
  | fullName hstep hexpress hname => exact ⟨h.lines, fun hlink => (by cases hlink)⟩
  | phoneNumber hstep hnumber => exact ⟨h.lines, fun hlink => (by cases hlink)⟩
  | look hshelf hoffset => exact h.look _
  | turn hq hshelf hoffset => exact h.look _

/-- The order of a cart is for the delivery speed that gave the prices. -/
theorem order (hcoherent : c.Coherent) (h : c.Priced rate) (hstep : c.step = .deliveryAddress)
    (address shortId : String) (id : Uuid) (createdAt : Instant) :
    (Order.ofCustomer c address c.terms.isExpress shortId id createdAt).Priced rate := by
  obtain ⟨t, l, ht, -, hlines⟩ := h.lines (hcoherent.at_step hstep)
  refine ⟨l, fun p hp => ?_⟩
  have hspeed : (if c.terms.isExpress then OrderType.express else .normal) = t := by
    cases t <;> simp [Terms.isExpress, ht]
  rw [Order.ofCustomer, hspeed]
  exact hlines p hp

end Customer.Priced

/-! ## Stores at one rate -/

theorem Desk.priced_lasting (desk : Desk) (rate : Float) :
    desk.Lasting (.atRate rate) (fun c => c.Coherent ∧ c.Priced rate) (Order.Priced rate) where
  fresh id username := ⟨.fresh id username, .fresh id username⟩
  move h hmove := ⟨h.1.move hmove, h.2.move h.1 hmove⟩
  front h := ⟨h.1.look 0, h.2.look 0⟩
  ordered _ _ := ⟨.clearing _, .clearing _⟩
  order shortId id createdAt h hstep _ := h.2.order h.1 hstep _ shortId id createdAt
  paid h := h

/-- At a rate that stays the same, all that is kept has the prices that its terms give. -/
theorem Store.Memory.Reached.priced {desk : Desk} {rate : Float} {m : Memory}
    (hm : m.Reached desk (.atRate rate)) : m.Each (Customer.Priced rate) (Order.Priced rate) := by
  have heach := hm.each (desk.priced_lasting rate)
  exact ⟨fun c hc => (heach.customers c hc).2, heach.orders⟩

/-- The purchase is made at one rate, and the line that is ordered has its price. -/
theorem Purchase.line_priced :
    (opening.after Desk.bare whole).memory.Reached Desk.bare (.atRate 1.0) ∧
      ∃ o ∈ (opening.after Desk.bare whole).memory.orders, o.cart.lines ≠ [] ∧ o.Priced 1.0 := by
  have hreached := whole_reached
  have hordered : ∃ o ∈ (opening.after Desk.bare whole).memory.orders, o.cart.lines ≠ [] := by
    decide +kernel
  obtain ⟨o, ho, hlines⟩ := hordered
  exact ⟨hreached, o, ho, hlines, hreached.priced.orders o ho⟩

end OrderDesk
