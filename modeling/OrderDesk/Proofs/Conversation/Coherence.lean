import OrderDesk.Proofs.Cart
import OrderDesk.Proofs.World.Reach

/-!
# What a record holds in each step

Cart, delivery terms, draft and step are kept apart and written by many handlers, and buttons that
are bound to no step lead from anywhere into the middle of the conversation.  Yet they always fit
together: in each step the record holds what that step goes on with (`Customer.Prepared`), a cart
with lines has terms to price them by, express delivery is from nowhere in particular, and a cart
has a button for each of its lines (`Customer.Coherent`).

Every move keeps a record coherent (`Coherent.move`), hence every record is that dispatches and changes
of the catalogue ever lead to (`Memory.Reached.customers_coherent`), and so after every history
(`World.coherent_after`).
-/

namespace OrderDesk

open Desk (Move Sources)
open Store (Memory)

/-! ## Coherent records -/

/-- Delivery speed and region are chosen. -/
def Terms.Routed (t : Terms) : Prop := t.orderType.isSome ∧ t.location.isSome

/-- What the record of a customer holds in a step. -/
def Customer.Prepared (c : Customer) : Step → Prop
  | .idle => True
  | .orderType => c.cart.isEmpty
  | .location => c.cart.isEmpty ∧ c.terms.orderType = some .normal
  | .category => c.terms.Routed
  | .size => c.terms.Routed ∧ ∃ d, c.draft = some d ∧ d.category.isSome
  | .button => c.terms.Routed ∧ ∃ d, c.draft = some d ∧ d.category.isSome ∧ d.size.isSome
  | .price =>
    c.terms.Routed ∧
      ∃ d, c.draft = some d ∧ d.category.isSome ∧ d.size.isSome ∧ d.button.isSome
  | .link =>
    c.terms.Routed ∧
      ∃ d, c.draft = some d ∧ d.category.isSome ∧ d.size.isSome ∧ d.button.isSome ∧
        d.priceYuan.isSome ∧ d.priceRub.isSome
  | .cartPositionToEdit => ¬ c.cart.isEmpty
  | .calculatorOrderType => True
  | .calculatorLocation => c.calculatorTerms.orderType = some .normal
  | .calculatorCategory => c.calculatorTerms.Routed
  | .calculatorAmount => c.calculatorTerms.Routed ∧ c.calculatorTerms.category.isSome
  | .fullName => ¬ c.cart.isEmpty
  | .phoneNumber => ¬ c.cart.isEmpty
  | .deliveryAddress => ¬ c.cart.isEmpty

/-- The parts of a record fit together. -/
structure Customer.Coherent (c : Customer) : Prop where
  /-- The record holds what its step goes on with. -/
  prepared : c.Prepared c.step
  /-- A cart with lines has terms. -/
  routed : ¬ c.cart.isEmpty → c.terms.Routed
  /-- Express delivery is from nowhere in particular. -/
  express : c.terms.orderType = some .express → c.terms.location = some .other
  /-- The cart has a button for each line. -/
  size : c.cart.size ≤ maxCartLines

/-! ## Moves keep records coherent -/

namespace Customer.Coherent

variable {c : Customer}

theorem fresh (id : Int64) (username : String) : (Customer.fresh id username).Coherent :=
  ⟨trivial, fun h => absurd rfl h, fun h => (nomatch h), Nat.zero_le _⟩

/-- What a record holds in the step that it is in. -/
theorem at_step (h : c.Coherent) {s : Step} (hs : c.step = s) : c.Prepared s := hs ▸ h.prepared

/-- Whoever is asked for the link has a draft that the link completes. -/
theorem completes (h : c.Coherent) (hs : c.step = .link) (link : String) :
    ∃ draft p, c.draft = some draft ∧ { draft with shopLink := some link }.complete? = some p := by
  obtain ⟨-, ⟨id, size, button, category, yuan, rub, _⟩, hdraft, -, hsize, hbutton, hyuan, hrub⟩ :=
    h.at_step hs
  obtain ⟨size, rfl⟩ := Option.isSome_iff_exists.1 hsize
  obtain ⟨button, rfl⟩ := Option.isSome_iff_exists.1 hbutton
  obtain ⟨yuan, rfl⟩ := Option.isSome_iff_exists.1 hyuan
  obtain ⟨rub, rfl⟩ := Option.isSome_iff_exists.1 hrub
  exact ⟨_, ⟨id, link, size, button, category, yuan, rub⟩, hdraft, rfl⟩

/-- A place in the catalogue belongs to no step. -/
theorem look (h : c.Coherent) (offset : UInt64) : { c with catalogOffset := offset }.Coherent :=
  ⟨by have hprepared := h.prepared; unfold Prepared at *; exact hprepared,
    h.routed, h.express, h.size⟩

/-- An ordered cart takes its terms and its draft with it. -/
theorem clearing (c : Customer) : (c.apply .clearing).Coherent :=
  ⟨trivial, fun h => absurd rfl h, fun h => (nomatch h), Nat.zero_le _⟩

/-- Every move keeps a record coherent. -/
theorem move {desk : Desk} {σ : Sources} {q : Desk.Request} {u : Update} (h : c.Coherent)
    (hmove : Move desk σ c q u) : (c.apply u).Coherent := by
  cases hmove with
  | leave hq => exact { h with prepared := trivial }
  | beginCart hq hcart =>
    exact ⟨hcart, fun hfilled => absurd hcart hfilled, fun hexpress => (nomatch hexpress), h.size⟩
  | beginLine hq hcart hsize => exact { h with prepared := h.routed hcart }
  | express hstep =>
    exact ⟨⟨rfl, rfl⟩, fun _ => ⟨rfl, rfl⟩, fun _ => rfl, h.size⟩
  | normal hstep =>
    have hcart : c.cart.isEmpty := h.at_step hstep
    exact ⟨⟨hcart, rfl⟩, fun hfilled => absurd hcart hfilled,
      fun hexpress => (nomatch hexpress), h.size⟩
  | location hstep =>
    obtain ⟨hcart, hnormal⟩ := h.at_step hstep
    refine ⟨⟨Option.isSome_of_eq_some hnormal, rfl⟩,
      fun hfilled => absurd hcart hfilled, ?_, h.size⟩
    exact fun hexpress => (nomatch hnormal.symm.trans hexpress)
  | category hstep hid =>
    have hrouted : c.terms.Routed := h.at_step hstep
    exact ⟨⟨hrouted, _, rfl, rfl⟩, fun _ => hrouted, h.express, h.size⟩
  | size hstep hsize hdraft =>
    obtain ⟨hrouted, d, hd, hcategory⟩ := h.at_step hstep
    obtain rfl := Option.some.inj (hdraft.symm.trans hd)
    exact { h with prepared := ⟨hrouted, _, rfl, hcategory, rfl⟩ }
  | button hstep hdraft =>
    obtain ⟨hrouted, d, hd, hcategory, hsize⟩ := h.at_step hstep
    obtain rfl := Option.some.inj (hdraft.symm.trans hd)
    exact { h with prepared := ⟨hrouted, _, rfl, hcategory, hsize, rfl⟩ }
  | price hstep hyuan hdraft hrub =>
    obtain ⟨hrouted, d, hd, hcategory, hsize, hbutton⟩ := h.at_step hstep
    obtain rfl := Option.some.inj (hdraft.symm.trans hd)
    exact { h with prepared := ⟨hrouted, _, rfl, hcategory, hsize, hbutton, rfl, rfl⟩ }
  | cartFull hstep hlink hsize => exact { h with prepared := trivial }
  | link hstep hlink hsize hdraft hp =>
    obtain ⟨hrouted, -⟩ := h.at_step hstep
    refine ⟨trivial, fun _ => hrouted, h.express, ?_⟩
    exact Nat.le_trans (Nat.le_of_eq (c.cart.add_size _)) hsize
  | editCart hcart => exact { h with prepared := hcart }
  | @removePosition index _ _ hstep =>
    have hrouted : c.terms.Routed := h.routed (h.at_step hstep)
    refine ⟨?_, fun _ => hrouted, h.express, Nat.le_trans (Desk.withoutLine_size _ _) h.size⟩
    -- the step is left with the last line
    by_cases hempty : (Desk.withoutLine c.cart index).isEmpty
    · simp only [apply, hempty, ↓reduceIte, Option.getD_some, Prepared]
    · simp [apply, Update.none, hempty, hstep, Prepared]
  | calculator hq => exact { h with prepared := trivial }
  | calculatorExpress hstep => exact { h with prepared := ⟨rfl, rfl⟩ }
  | calculatorNormal hstep => exact { h with prepared := rfl }
  | calculatorLocation hstep =>
    exact { h with prepared := ⟨Option.isSome_of_eq_some (h.at_step hstep), rfl⟩ }
  | calculatorCategory hstep => exact { h with prepared := ⟨h.at_step hstep, rfl⟩ }
  | calculatorAmount hstep hyuan hrub => exact { h with prepared := trivial }
  | checkout hcart => exact { h with prepared := hcart }
  | fullName hstep hexpress hname => exact { h with prepared := h.at_step hstep }
  | phoneNumber hstep hnumber => exact { h with prepared := h.at_step hstep }
  | look hshelf hoffset => exact h.look _
  | turn hq hshelf hoffset => exact h.look _

end Customer.Coherent

/-! ## Records that are kept -/

/-- Every customer's record is coherent. -/
def Store.Memory.Coherent (m : Memory) : Prop := ∀ c ∈ m.customers, c.Coherent

theorem Desk.coherent_lasting (desk : Desk) (σ : Sources) :
    desk.Lasting σ Customer.Coherent fun _ => True where
  fresh := .fresh
  move h hmove := h.move hmove
  front h := h.look 0
  ordered _ _ := .clearing _
  order _ _ _ _ _ _ := trivial
  paid _ := trivial

/-- In every store that dispatches and changes of the catalogue lead to, whatever the settings, the
rates and the replies of the chat, all records are coherent. -/
theorem Store.Memory.Reached.customers_coherent {desk : Desk} {σ : Sources} {m : Memory}
    (hm : m.Reached desk σ) : m.Coherent :=
  (hm.each (desk.coherent_lasting σ)).customers

/-- The store of the purchase before the address is given is one of these, and the customer who is
asked for it has a coherent record. -/
theorem Purchase.address_prepared :
    (opening.after Desk.bare untilAddress).memory.Reached Desk.bare .any ∧
      ∃ c ∈ (opening.after Desk.bare untilAddress).memory.customers,
        c.step = .deliveryAddress ∧ c.Coherent := by
  have hreached : (opening.after Desk.bare untilAddress).memory.Reached Desk.bare .any :=
    World.reached_after Desk.bare ⟨Uuid.ofNat, shortIdOf⟩ 1.0 ⟨0, 0⟩ 1 untilAddress
  have hasked : ∃ c ∈ (opening.after Desk.bare untilAddress).memory.customers,
      c.step = .deliveryAddress := by decide +kernel
  obtain ⟨c, hc, hstep⟩ := hasked
  exact ⟨hreached, c, hc, hstep, hreached.customers_coherent c hc⟩

/-- After every history all records are coherent. -/
theorem World.coherent_after (desk : Desk) (draws : Draws) (rate : Float) (clock : Instant)
    (firstMessage : Int32) (history : List Occurrence) :
    ((World.initial draws rate clock firstMessage).after desk history).memory.Coherent :=
  ((World.reached_after desk draws rate clock firstMessage history).each
    (desk.coherent_lasting .any)).customers

end OrderDesk
