import OrderDesk.Proofs.Conversation.Coherence

/-!
# Orders are well formed

The express limit is checked when the full name is given, the filled cart when checkout begins, and
every answer when it is typed, all of them some events before an order is made.  What was checked
still holds then: `Customer.Checked` says what a record has passed so far, it survives every move
(`Checked.move`), and together with coherence it makes every order that is ever kept well formed
(`Memory.Reached.orders_wellFormed`), and so those that are kept after a history
(`World.wellFormed_after`).
-/

namespace OrderDesk

open Desk (Move Sources)
open Store (Memory)

/-- A value is what a check gives for some text. -/
def Answer.Accepted {α : Type} (check? : String → Option α) (a : α) : Prop :=
  ∃ text, check? text = some a

theorem Answer.price?_range {text : String} {n : UInt64} (h : price? text = some n) :
    1 ≤ n.toNat ∧ n.toNat ≤ maxPriceYuan := by
  unfold price? at h
  split at h
  · split at h
    · rename_i hrange
      exact Option.some.inj h ▸ hrange
    · cases h
  · cases h

/-! ## Well-formed orders -/

/-- A line has all that was asked for, as it was checked. -/
structure Position.WellFormed (pattern : Pattern) (p : Position) : Prop where
  category : p.category.isSome
  size : Answer.Accepted Answer.size? p.size
  shopLink : Answer.Accepted (Answer.link? pattern) p.shopLink
  priceYuan : 1 ≤ p.priceYuan.toNat ∧ p.priceYuan.toNat ≤ Answer.maxPriceYuan

/-- An order has all that was asked for, as it was checked, and the totals of its cart for amounts.
(That these are the exact sums of the prices is `Order.Exact`.) -/
structure Order.WellFormed (pattern : Pattern) (o : Order) : Prop where
  /-- There are lines, and no more than a cart has. -/
  size : 1 ≤ o.cart.size ∧ o.cart.size ≤ maxCartLines
  /-- Express delivery is for one line. -/
  express : o.isExpress → o.cart.size = 1
  fullName : ∃ name, o.buyer.fullName = some name ∧ Answer.Accepted Answer.fullName? name
  phoneNumber : ∃ number, o.buyer.phoneNumber = some number ∧
    Answer.Accepted Answer.phoneNumber? number
  address : Answer.Accepted Answer.address? o.deliveryAddress
  /-- The total in roubles that its own cart shows. -/
  amountRub : o.amountRub = o.cart.totalRub
  /-- The total in yuan that its own cart shows. -/
  amountYuan : o.amountYuan = o.cart.totalYuan
  lines : ∀ p ∈ o.cart.lines, p.WellFormed pattern

/-! ## What a record has passed -/

/-- A draft holds only what was checked. -/
structure Draft.Checked (d : Draft) : Prop where
  /-- The weight class is there from the start. -/
  category : d.category.isSome
  /-- The size, if it is there. -/
  size : ∀ size, d.size = some size → Answer.Accepted Answer.size? size
  /-- The shop price, if it is there. -/
  priceYuan : ∀ n, d.priceYuan = some n → 1 ≤ n.toNat ∧ n.toNat ≤ Answer.maxPriceYuan

/-- What checkout has found out by the time of a step. -/
def Customer.CheckedOut (c : Customer) : Step → Prop
  | .phoneNumber => c.fullName.isSome ∧ ¬ (c.terms.isExpress ∧ 1 < c.cart.size)
  | .deliveryAddress =>
    c.fullName.isSome ∧ c.phoneNumber.isSome ∧ ¬ (c.terms.isExpress ∧ 1 < c.cart.size)
  | _ => True

/-- A record holds only what was checked. -/
structure Customer.Checked (pattern : Pattern) (c : Customer) : Prop where
  /-- Checkout is as far as its step. -/
  checkedOut : c.CheckedOut c.step
  draft : ∀ d, c.draft = some d → d.Checked
  lines : ∀ p ∈ c.cart.lines, p.WellFormed pattern
  /-- The full name, if it is known. -/
  fullName : ∀ name, c.fullName = some name → Answer.Accepted Answer.fullName? name
  /-- The phone number, if it is known. -/
  phoneNumber : ∀ number, c.phoneNumber = some number → Answer.Accepted Answer.phoneNumber? number

/-- A draft whose link is checked makes a well-formed line. -/
theorem Draft.Checked.complete {pattern : Pattern} {d : Draft} {text link : String} {p : Position}
    (h : d.Checked) (hlink : Answer.link? pattern text = some link)
    (hp : { d with shopLink := some link }.complete? = some p) : p.WellFormed pattern := by
  have hd := Draft.complete?_eq_some_iff.1 hp
  simp only [Draft.mk.injEq, Option.some.injEq] at hd
  obtain ⟨-, hsize, -, hcategory, hyuan, -, rfl⟩ := hd
  exact ⟨hcategory ▸ h.category, h.size _ hsize, ⟨text, hlink⟩, h.priceYuan _ hyuan⟩

namespace Customer.Checked

variable {pattern : Pattern} {c : Customer}

theorem fresh (id : Int64) (username : String) : (Customer.fresh id username).Checked pattern :=
  ⟨trivial, fun _ h => (nomatch h), fun _ h => (nomatch h), fun _ h => (nomatch h),
    fun _ h => (nomatch h)⟩

theorem at_step (h : c.Checked pattern) {s : Step} (hs : c.step = s) : c.CheckedOut s :=
  hs ▸ h.checkedOut

theorem look (h : c.Checked pattern) (offset : UInt64) :
    { c with catalogOffset := offset }.Checked pattern :=
  { h with }

theorem clearing (h : c.Checked pattern) : (c.apply .clearing).Checked pattern :=
  ⟨trivial, fun _ h => (nomatch h), fun _ h => (nomatch h), h.fullName, h.phoneNumber⟩

/-- Every move keeps to what was checked. -/
theorem move {desk : Desk} {σ : Sources} {q : Desk.Request} {u : Update}
    (h : c.Checked desk.linkPattern)
    (hmove : Move desk σ c q u) : (c.apply u).Checked desk.linkPattern := by
  cases hmove with
  | leave hq => exact { h with checkedOut := trivial }
  | beginCart hq hcart => exact { h with checkedOut := trivial, draft := fun _ h => (nomatch h) }
  | beginLine hq hcart hsize =>
    exact { h with checkedOut := trivial, draft := fun _ h => (nomatch h) }
  | express hstep => exact { h with checkedOut := trivial }
  | normal hstep => exact { h with checkedOut := trivial }
  | location hstep => exact { h with checkedOut := trivial }
  | category hstep hid =>
    refine { h with checkedOut := trivial, draft := ?_ }
    rintro _ ⟨⟩
    exact ⟨rfl, fun _ h => (nomatch h), fun _ h => (nomatch h)⟩
  | size hstep hsize hdraft =>
    have hd := h.draft _ hdraft
    refine { h with checkedOut := trivial, draft := ?_ }
    rintro _ ⟨⟩
    exact { hd with size := fun _ h => Option.some.inj h ▸ ⟨_, hsize⟩ }
  | button hstep hdraft =>
    have hd := h.draft _ hdraft
    refine { h with checkedOut := trivial, draft := ?_ }
    rintro _ ⟨⟩
    exact { hd with }
  | price hstep hyuan hdraft hrub =>
    have hd := h.draft _ hdraft
    refine { h with checkedOut := trivial, draft := ?_ }
    rintro _ ⟨⟩
    exact { hd with priceYuan := fun _ h => Option.some.inj h ▸ Answer.price?_range hyuan }
  | cartFull hstep hlink hsize =>
    exact { h with checkedOut := trivial, draft := fun _ h => (nomatch h) }
  | link hstep hlink hsize hdraft hp =>
    refine { h with
      checkedOut := trivial
      draft := fun _ h => (nomatch h)
      lines := fun p hmem => ?_ }
    rcases List.mem_append.1 hmem with hmem | hmem
    · exact h.lines p hmem
    · exact List.mem_singleton.1 hmem ▸ (h.draft _ hdraft).complete hlink hp
  | editCart hcart => exact { h with checkedOut := trivial }
  | @removePosition index _ _ hstep =>
    refine { h with checkedOut := ?_, lines := fun p hmem => h.lines p (Desk.mem_withoutLine hmem) }
    -- no answer of checkout is given between the choice of a line and its removal
    by_cases hempty : (Desk.withoutLine c.cart index).isEmpty
    · simp only [apply, hempty, ↓reduceIte, Option.getD_some, CheckedOut]
    · simp [apply, Update.none, hempty, hstep, CheckedOut]
  | calculator hq => exact { h with checkedOut := trivial }
  | calculatorExpress hstep => exact { h with checkedOut := trivial }
  | calculatorNormal hstep => exact { h with checkedOut := trivial }
  | calculatorLocation hstep => exact { h with checkedOut := trivial }
  | calculatorCategory hstep => exact { h with checkedOut := trivial }
  | calculatorAmount hstep hyuan hrub => exact { h with checkedOut := trivial }
  | checkout hcart => exact { h with checkedOut := trivial }
  | fullName hstep hexpress hname =>
    exact { h with
      checkedOut := ⟨rfl, hexpress⟩
      fullName := fun _ h => Option.some.inj h ▸ ⟨_, hname⟩ }
  | phoneNumber hstep hnumber =>
    obtain ⟨hname, hexpress⟩ := h.at_step hstep
    exact { h with
      checkedOut := ⟨hname, rfl, hexpress⟩
      phoneNumber := fun _ h => Option.some.inj h ▸ ⟨_, hnumber⟩ }
  | look hshelf hoffset => exact h.look _
  | turn hq hshelf hoffset => exact h.look _

end Customer.Checked

/-! ## From records to orders -/

/-- The order of a coherent record that has passed all checks. -/
theorem Order.wellFormed_ofCustomer {pattern : Pattern} {c : Customer} {text address : String}
    (hcoherent : c.Coherent) (h : c.Checked pattern) (hstep : c.step = .deliveryAddress)
    (haddress : Answer.address? text = some address) (shortId : String) (id : Uuid)
    (createdAt : Instant) :
    (Order.ofCustomer c address c.terms.isExpress shortId id createdAt).WellFormed pattern := by
  obtain ⟨hname, hnumber, hexpress⟩ := h.at_step hstep
  obtain ⟨name, hname⟩ := Option.isSome_iff_exists.1 hname
  obtain ⟨number, hnumber⟩ := Option.isSome_iff_exists.1 hnumber
  have hfilled : 1 ≤ c.cart.size := by
    have hcart : ¬ c.cart.isEmpty := hcoherent.at_step hstep
    exact List.length_pos_iff.2 fun hnil => hcart (List.isEmpty_iff.2 hnil)
  exact {
    size := ⟨hfilled, hcoherent.size⟩
    express := fun hisExpress => by
      have hsingle : ¬ 1 < c.cart.size := fun hmany => hexpress ⟨hisExpress, hmany⟩
      exact Nat.le_antisymm (Nat.le_of_not_lt hsingle) hfilled
    fullName := ⟨name, hname, h.fullName name hname⟩
    phoneNumber := ⟨number, hnumber, h.phoneNumber number hnumber⟩
    address := ⟨text, haddress⟩
    amountRub := rfl
    amountYuan := rfl
    lines := h.lines }

theorem Desk.checked_lasting (desk : Desk) (σ : Sources) :
    desk.Lasting σ (fun c => c.Coherent ∧ c.Checked desk.linkPattern)
      fun o => o.WellFormed desk.linkPattern where
  fresh id username := ⟨.fresh id username, .fresh id username⟩
  move h hmove := ⟨h.1.move hmove, h.2.move hmove⟩
  front h := ⟨h.1.look 0, h.2.look 0⟩
  ordered h _ := ⟨.clearing _, h.2.clearing⟩
  order shortId id createdAt h hstep haddress :=
    Order.wellFormed_ofCustomer h.1 h.2 hstep haddress shortId id createdAt
  paid h := { h with }

/-- In every store that dispatches and changes of the catalogue lead to, whatever the settings, the
rates and the replies of the chat, every order is well formed. -/
theorem Store.Memory.Reached.orders_wellFormed {desk : Desk} {σ : Sources} {m : Memory}
    (hm : m.Reached desk σ) : ∀ o ∈ m.orders, o.WellFormed desk.linkPattern :=
  (hm.each (desk.checked_lasting σ)).orders

/-- The purchase keeps an order. -/
theorem Purchase.order_kept :
    (opening.after Desk.bare whole).memory.Reached Desk.bare (.atRate 1.0) ∧
      ∃ o ∈ (opening.after Desk.bare whole).memory.orders,
        o.WellFormed Desk.bare.linkPattern := by
  have hkept : (opening.after Desk.bare whole).memory.orders ≠ [] := by decide +kernel
  obtain ⟨o, ho⟩ := List.exists_mem_of_ne_nil _ hkept
  exact ⟨whole_reached, o, ho, whole_reached.orders_wellFormed o ho⟩

/-- After every history every order that is kept is well formed. -/
theorem World.wellFormed_after (desk : Desk) (draws : Draws) (rate : Float) (clock : Instant)
    (firstMessage : Int32) (history : List Occurrence) :
    ∀ o ∈ ((World.initial draws rate clock firstMessage).after desk history).memory.orders,
      o.WellFormed desk.linkPattern :=
  ((World.reached_after desk draws rate clock firstMessage history).each
    (desk.checked_lasting .any)).orders

end OrderDesk
