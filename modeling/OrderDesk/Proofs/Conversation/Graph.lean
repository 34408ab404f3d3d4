import OrderDesk.Proofs.Conversation.Surroundings

/-!
# The conversation graph

`Edge` lists the edges of the conversation: from which step a request leads to which other, and on
what condition.  A dispatch goes along at most one of them (`Surroundings.step_along_edge`), whoever
the sender is and whatever record is kept of them, and the edge is one of the request that the event
is understood as.  The handlers have been followed before: what they write is one move of the
customer's record (`Move`), and a move either leaves the step as it is or follows an edge
(`Move.edge`).
-/

namespace OrderDesk

open Store (Memory)

namespace Desk

/-- The edges of the conversation, for a customer whose record is `c` before and `c'` after. -/
inductive Edge (desk : Desk) (c c' : Customer) : Request → Step → Step → Prop where
  /-- Start and menu lead out of every step. -/
  | leave {q : Request} {s : Step} (hq : q.leaves) : Edge desk c c' q s .idle
  /-- The first position of a cart begins with the delivery speed. -/
  | beginCart {q : Request} {s : Step} (hq : q.begins) (hcart : c.cart.isEmpty) :
    Edge desk c c' q s .orderType
  /-- A cart that has lines, and room for another one, goes on with the weight class. -/
  | beginLine {q : Request} {s : Step} (hq : q.begins) (hlow : 1 ≤ c.cart.size)
    (hhigh : c.cart.size ≤ 199) : Edge desk c c' q s .category
  /-- Express delivery skips the region. -/
  | express {data : ButtonData} {message : Option Int32} :
    Edge desk c c' (.press (.orderType .express) data message) .orderType .category
  | normal {data : ButtonData} {message : Option Int32} :
    Edge desk c c' (.press (.orderType .normal) data message) .orderType .location
  | location {l : Location} {data : ButtonData} {message : Option Int32} :
    Edge desk c c' (.press (.location l) data message) .location .category
  | category {k : Category} {data : ButtonData} {message : Option Int32} :
    Edge desk c c' (.press (.category k) data message) .category .size
  | size {text size : String} (hsize : Answer.size? text = some size) :
    Edge desk c c' (.answer .size text) .size .button
  | button {b : PriceButton} {data : ButtonData} {message : Option Int32} :
    Edge desk c c' (.press (.button b) data message) .button .price
  | price {text : String} {yuan : UInt64} (hyuan : Answer.price? text = some yuan) :
    Edge desk c c' (.answer .price text) .price .link
  | link {text link : String} (hlink : Answer.link? desk.linkPattern text = some link) :
    Edge desk c c' (.answer .link text) .link .idle
  | editCart {data : ButtonData} {message : Option Int32} {s : Step} (hcart : ¬ c.cart.isEmpty) :
    Edge desk c c' (.press .editCart data message) s .cartPositionToEdit
  /-- The step is left with the last line. -/
  | removeLast {index : Nat} {data : ButtonData} {message : Option Int32}
    (hcart : c'.cart.isEmpty) :
    Edge desk c c' (.press (.removePosition index) data message) .cartPositionToEdit .idle
  | calculator {q : Request} {s : Step} (hq : q.calculates) :
    Edge desk c c' q s .calculatorOrderType
  | calculatorExpress {data : ButtonData} {message : Option Int32} :
    Edge desk c c' (.press (.calculatorOrderType .express) data message)
      .calculatorOrderType .calculatorCategory
  | calculatorNormal {data : ButtonData} {message : Option Int32} :
    Edge desk c c' (.press (.calculatorOrderType .normal) data message)
      .calculatorOrderType .calculatorLocation
  | calculatorLocation {l : Location} {data : ButtonData} {message : Option Int32} :
    Edge desk c c' (.press (.calculatorLocation l) data message)
      .calculatorLocation .calculatorCategory
  | calculatorCategory {k : Category} {data : ButtonData} {message : Option Int32} :
    Edge desk c c' (.press (.calculatorCategory k) data message)
      .calculatorCategory .calculatorAmount
  | calculatorAmount {text : String} {yuan : UInt64} (hyuan : Answer.price? text = some yuan) :
    Edge desk c c' (.answer .calculatorAmount text) .calculatorAmount .idle
  | checkout {data : ButtonData} {message : Option Int32} {s : Step} (hcart : ¬ c.cart.isEmpty) :
    Edge desk c c' (.press .checkout data message) s .fullName
  /-- An express order of several lines does not get past the full name. -/
  | fullName {text name : String} (hname : Answer.fullName? text = some name)
    (hexpress : ¬ (c.terms.isExpress ∧ 1 < c.cart.size)) :
    Edge desk c c' (.answer .fullName text) .fullName .phoneNumber
  | phoneNumber {text number : String} (hnumber : Answer.phoneNumber? text = some number) :
    Edge desk c c' (.answer .phoneNumber text) .phoneNumber .deliveryAddress
  | deliveryAddress {text address : String} (haddress : Answer.address? text = some address) :
    Edge desk c c' (.answer .deliveryAddress text) .deliveryAddress .idle

variable {desk : Desk} {σ : Sources} {c : Customer} {q : Request} {u : Customer.Update}

/-- A move leaves the step as it is or follows an edge. -/
theorem Move.edge (h : Move desk σ c q u) :
    (c.apply u).step = c.step ∨ Edge desk c (c.apply u) q c.step (c.apply u).step := by
  cases h with
  | leave hq => exact .inr (.leave hq)
  | beginCart hq hcart => exact .inr (.beginCart hq hcart)
  | beginLine hq hcart hsize =>
    have hlow : 1 ≤ c.cart.size := by
      rw [Cart.isEmpty, List.isEmpty_iff] at hcart
      exact List.length_pos_iff.2 hcart
    exact .inr (.beginLine hq hlow (Nat.le_of_lt_succ hsize))
  | express hstep => rw [hstep]; exact .inr .express
  | normal hstep => rw [hstep]; exact .inr .normal
  | location hstep => rw [hstep]; exact .inr .location
  | category hstep hid => rw [hstep]; exact .inr .category
  | size hstep hsize hdraft => rw [hstep]; exact .inr (.size hsize)
  | button hstep hdraft => rw [hstep]; exact .inr .button
  | price hstep hyuan hdraft hrub => rw [hstep]; exact .inr (.price hyuan)
  | cartFull hstep hlink hsize => rw [hstep]; exact .inr (.link hlink)
  | link hstep hlink hsize hdraft hp => rw [hstep]; exact .inr (.link hlink)
  | editCart hcart => exact .inr (.editCart hcart)
  | @removePosition index _ _ hstep =>
    -- the step is left only if no line is left
    by_cases hempty : (withoutLine c.cart index).isEmpty
    · simp only [hempty, ↓reduceIte, hstep]
      exact .inr (.removeLast hempty)
    · simp only [hempty]
      exact .inl rfl
  | calculator hq => exact .inr (.calculator hq)
  | calculatorExpress hstep => rw [hstep]; exact .inr .calculatorExpress
  | calculatorNormal hstep => rw [hstep]; exact .inr .calculatorNormal
  | calculatorLocation hstep => rw [hstep]; exact .inr .calculatorLocation
  | calculatorCategory hstep => rw [hstep]; exact .inr .calculatorCategory
  | calculatorAmount hstep hyuan hrub => rw [hstep]; exact .inr (.calculatorAmount hyuan)
  | checkout hcart => exact .inr (.checkout hcart)
  | fullName hstep hexpress hname => rw [hstep]; exact .inr (.fullName hname hexpress)
  | phoneNumber hstep hnumber => rw [hstep]; exact .inr (.phoneNumber hnumber)
  | look hshelf hoffset => exact .inl rfl
  | turn hq hshelf hoffset => exact .inl rfl

/-- So does whatever a request writes. -/
theorem Deed.edge {m : Memory} {ds : List Store.Call} (h : Deed desk σ c q ds)
    (hc : m.customer? c.id = some c) :
    ∃ c', (ds.foldl Memory.after m).customer? c.id = some c' ∧
      (c'.step = c.step ∨ Edge desk c c' q c.step c'.step) := by
  cases h with
  | nothing => exact ⟨c, hc, .inl rfl⟩
  | @move q u hmove =>
    rw [Memory.foldl_updateCustomer hc]
    exact ⟨c.apply u, Memory.customer?_putCustomer m (c.apply u), hmove.edge⟩
  | order hstep haddress =>
    rw [Memory.foldl_order hc, hstep]
    exact ⟨c.apply .clearing, Memory.customer?_putCustomer m (c.apply .clearing),
      .inr (.deliveryAddress haddress)⟩
  | pay htext =>
    refine ⟨c, ?_, .inl rfl⟩
    rw [List.foldl_cons, List.foldl_nil, Memory.customer?, Memory.after_markPaid_customers]
    exact hc

end Desk

namespace Surroundings

variable {W : Type} (S : Surroundings W)

/-- Whatever is kept of the sender and whatever the event is, after a dispatch the sender is in the
same step as before, or has gone along one edge of the conversation that belongs to what the event
asks for. -/
theorem step_along_edge (desk : Desk) (event : Chat.Event) (w : W) :
    let c := (S.memory w).guest event.sender
    ∃ c', (S.memory (S.run (desk.dispatch event) w).2).customer? event.sender.id = some c' ∧
      (c'.step = c.step ∨
        ∃ q, desk.understand c event = .ok q ∧ Desk.Edge desk c c' q c.step c'.step) := by
  intro c
  obtain ⟨ds, hmemory, hds⟩ := S.memory_dispatch (S.met_any (desk.dispatch event) w)
  have hc : ((S.memory w).welcome event.sender).customer? c.id = some c :=
    Memory.customer?_welcome (S.memory w) event.sender
  have hid : c.id = event.sender.id := Memory.guest_id (S.memory w) event.sender
  rw [hmemory, ← hid]
  rcases hds with rfl | ⟨q, hq, hdeed⟩
  · exact ⟨c, hc, .inl rfl⟩
  · obtain ⟨c', hc', hstep⟩ := hdeed.edge hc
    exact ⟨c', hc', hstep.imp id fun hedge => ⟨q, hq, hedge⟩⟩

end Surroundings

end OrderDesk
