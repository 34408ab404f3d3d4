import OrderDesk.Proofs.Cart
import OrderDesk.Proofs.Store.Collect
import OrderDesk.Proofs.World.History

/-!
# Where lines are

A line is in a cart or in an order.  `Memory.lines` are all lines that are kept, and `Desk.Passage`
lists what a dispatch can do to them: a completed draft joins the sender's cart, a line leaves the
sender's cart, or the sender's cart, all of it, becomes one new order.
`Surroundings.lines_dispatch` shows that a dispatch does one of these to any store in which each
customer is kept once, or nothing, and `Surroundings.cart?_dispatch_of_ne` that the carts of other
customers stay what they are.

Nor does a dispatch leave lines where they are when it is asked to move them.  A link that completes
the draft makes the line join (`Surroundings.line_joins`), a removal that finds a line makes one leave
(`Surroundings.line_leaves`), and an accepted address makes the order (`Surroundings.cart_ordered`).
-/

namespace OrderDesk

open Desk (Deed Move Request Sources withoutLine)
open Store (Memory)

/-- All lines that are kept, in carts and in orders. -/
def Store.Memory.lines (m : Memory) : List Position := m.collect (·.cart.lines) (·.cart.lines)

/-- The cart of a customer, if the customer is known. -/
def Store.Memory.cart? (m : Memory) (id : Int64) : Option Cart := (m.customer? id).map (·.cart)

namespace Desk

/-- What becomes of the lines, from the store before to the store after an event of a customer. -/
inductive Passage (desk : Desk) (event : Chat.Event) (c : Customer) (m m' : Memory) : Prop where
  /-- They stay where they are. -/
  | stay (hlines : m'.lines.Perm m.lines) (hcart : m'.cart? c.id = some c.cart)
    (horders : m'.orders.map (·.cart) = m.orders.map (·.cart))
  /-- The draft, completed by a link, joins the customer's cart. -/
  | join {text link : String} {draft : Draft} {p : Position}
    (hask : desk.understand c event = .ok (.answer .link text))
    (hlink : Answer.link? desk.linkPattern text = some link) (hdraft : c.draft = some draft)
    (hp : { draft with shopLink := some link }.complete? = some p)
    (hlines : m'.lines.Perm (p :: m.lines)) (hcart : m'.cart? c.id = some (c.cart.add p))
    (horders : m'.orders = m.orders)
  /-- A line leaves the customer's cart. -/
  | leave {index : Nat} {data : ButtonData} {message : Option Int32} {p : Position}
    (hask : desk.understand c event = .ok (.press (.removePosition index) data message))
    (hp : c.cart.lines.Perm (p :: (withoutLine c.cart index).lines))
    (hlines : m.lines.Perm (p :: m'.lines))
    (hcart : m'.cart? c.id = some (withoutLine c.cart index)) (horders : m'.orders = m.orders)
  /-- The customer's cart becomes one new order. -/
  | order {text : String} {o : Order}
    (hask : desk.understand c event = .ok (.answer .deliveryAddress text))
    (ho : o.cart = c.cart) (hlines : m'.lines.Perm m.lines) (hcart : m'.cart? c.id = some .empty)
    (horders : m'.orders = m.orders ++ [o])

/-- A move leaves the cart as it is, or adds the completed draft, or takes a line out. -/
theorem Move.cart_cases {desk : Desk} {σ : Sources} {c : Customer} {q : Request}
    {u : Customer.Update}
    (h : Move desk σ c q u) :
    (c.apply u).cart = c.cart ∨
      (∃ text link draft p, q = .answer .link text ∧
        Answer.link? desk.linkPattern text = some link ∧ c.draft = some draft ∧
        { draft with shopLink := some link }.complete? = some p ∧
        (c.apply u).cart = c.cart.add p) ∨
      ∃ index data message, q = .press (.removePosition index) data message ∧
        (c.apply u).cart = withoutLine c.cart index := by
  cases h with
  | link hstep hlink hsize hdraft hp =>
    exact .inr (.inl ⟨_, _, _, _, rfl, hlink, hdraft, hp, rfl⟩)
  | removePosition hstep => exact .inr (.inr ⟨_, _, _, rfl, rfl⟩)
  | _ => exact .inl rfl

end Desk

/-! ## The lines of a store -/

namespace Store.Memory

variable {m : Memory} {c : Customer} {sender : Chat.Sender}

/-- A sender who is met for the first time holds nothing. -/
theorem Keyed.collect_welcome {α : Type} {f : Customer → List α} {g : Order → List α} (h : m.Keyed)
    (hf : ∀ id username, f (.fresh id username) = []) (sender : Chat.Sender) :
    ((m.welcome sender).collect f g).Perm (m.collect f g) := by
  unfold Memory.welcome
  split
  · exact .refl _
  · rename_i hnone
    refine h.collect_putCustomer_of_eq ?_
    rw [guest_id, hnone, guest, hnone]
    exact hf _ _

/-- A change of a record exchanges the lines of the cart. -/
theorem Keyed.lines_exchange (h : m.Keyed) (hc : m.customer? c.id = some c) (u : Customer.Update) :
    ∃ rest, m.lines.Perm (c.cart.lines ++ rest) ∧
      (m.putCustomer (c.apply u)).lines.Perm ((c.apply u).cart.lines ++ rest) :=
  h.collect_exchange (x := c.apply u) hc

/-- What comes into a cart comes into the store. -/
theorem Keyed.lines_perm_cons (h : m.Keyed) (hc : m.customer? c.id = some c) (u : Customer.Update)
    {p : Position} (hp : (c.apply u).cart.lines.Perm (p :: c.cart.lines)) :
    (m.putCustomer (c.apply u)).lines.Perm (p :: m.lines) := by
  obtain ⟨rest, hbefore, hafter⟩ := h.lines_exchange hc u
  have hjoin : ((c.apply u).cart.lines ++ rest).Perm (p :: (c.cart.lines ++ rest)) :=
    hp.append_right rest
  exact hafter.trans (hjoin.trans (hbefore.symm.cons p))

/-- What leaves a cart leaves the store. -/
theorem Keyed.perm_cons_lines (h : m.Keyed) (hc : m.customer? c.id = some c) (u : Customer.Update)
    {p : Position} (hp : c.cart.lines.Perm (p :: (c.apply u).cart.lines)) :
    m.lines.Perm (p :: (m.putCustomer (c.apply u)).lines) := by
  obtain ⟨rest, hbefore, hafter⟩ := h.lines_exchange hc u
  have hleave : (c.cart.lines ++ rest).Perm (p :: ((c.apply u).cart.lines ++ rest)) :=
    hp.append_right rest
  exact hbefore.trans (hleave.trans (hafter.symm.cons p))

/-- What goes from a cart into an order stays in the store. -/
theorem Keyed.lines_perm_order (h : m.Keyed) (hc : m.customer? c.id = some c) {o : Order}
    (ho : o.cart = c.cart) :
    ((m.putCustomer (c.apply .clearing)).saveOrder o).lines.Perm m.lines := by
  obtain ⟨rest, hbefore, hafter⟩ := h.lines_exchange hc .clearing
  refine (Memory.collect_saveOrder _ _).trans (List.Perm.trans ?_ hbefore.symm)
  rw [ho]
  exact hafter.append_left _

theorem cart?_putCustomer (m : Memory) (c : Customer) :
    (m.putCustomer c).cart? c.id = some c.cart := by
  rw [cart?, customer?_putCustomer]
  rfl

theorem cart?_putCustomer_of_ne {id : Int64} (h : c.id ≠ id) :
    (m.putCustomer c).cart? id = m.cart? id := by
  rw [cart?, cart?, customer?_putCustomer_of_ne h]

theorem cart?_welcome_of_ne {id : Int64} (h : sender.id ≠ id) :
    (m.welcome sender).cart? id = m.cart? id := by
  unfold Memory.welcome
  split
  · rfl
  · exact cart?_putCustomer_of_ne (by rwa [guest_id])

theorem cart?_saveOrder (m : Memory) (o : Order) (id : Int64) :
    (m.saveOrder o).cart? id = m.cart? id := rfl

theorem cart?_markPaid (m : Memory) (buyer id : Int64) (shortId : String) :
    (m.after (.markPaid buyer shortId)).cart? id = m.cart? id := by
  rw [cart?, cart?, customer?, customer?, after_markPaid_customers]

end Store.Memory

/-! ## Dispatches -/

section Dispatch

variable {desk : Desk} {σ : Sources} {event : Chat.Event} {c : Customer} {m : Memory} {q : Request}

/-- What becomes of the lines when a customer that is kept moves. -/
theorem Desk.Move.passage {u : Customer.Update} (hm : m.Keyed) (hc : m.customer? c.id = some c)
    (hask : desk.understand c event = .ok q) (h : Move desk σ c q u) :
    desk.Passage event c m (m.putCustomer (c.apply u)) := by
  have hcart := m.cart?_putCustomer (c.apply u)
  have horders := m.putCustomer_orders (c.apply u)
  have hstay (hsame : (c.apply u).cart = c.cart) :
      desk.Passage event c m (m.putCustomer (c.apply u)) := by
    obtain ⟨rest, hbefore, hafter⟩ := hm.lines_exchange hc u
    rw [hsame] at hafter hcart
    exact .stay (hafter.trans hbefore.symm) hcart (congrArg _ horders)
  rcases h.cart_cases with hsame | ⟨text, link, draft, p, rfl, hlink, hdraft, hp, hadd⟩ |
      ⟨index, data, message, rfl, hwithout⟩
  · exact hstay hsame
  · have hjoin : (c.apply u).cart.lines.Perm (p :: c.cart.lines) :=
      hadd ▸ List.perm_append_singleton p _
    exact .join hask hlink hdraft hp (hm.lines_perm_cons hc u hjoin) (hcart.trans (congrArg _ hadd))
      horders
  · -- a button of an older message may name a line that is no longer there
    rcases withoutLine_perm c.cart index with ⟨p, hp⟩ | hsame
    · exact .leave hask hp (hm.perm_cons_lines hc u (hwithout ▸ hp))
        (hcart.trans (congrArg _ hwithout)) horders
    · exact hstay (hwithout.trans hsame)

/-- What becomes of the lines when a cart is ordered. -/
theorem Desk.passage_order {text address shortId : String} {id : Uuid} {createdAt : Instant}
    (hm : m.Keyed) (hc : m.customer? c.id = some c)
    (hask : desk.understand c event = .ok (.answer .deliveryAddress text)) :
    desk.Passage event c m ((m.putCustomer (c.apply .clearing)).saveOrder
      (.ofCustomer c address c.terms.isExpress shortId id createdAt)) :=
  .order hask rfl (hm.lines_perm_order hc rfl) (m.cart?_putCustomer (c.apply .clearing))
    (congrArg (· ++ _) (m.putCustomer_orders _))

/-- What becomes of the lines in a deed of a customer that is kept. -/
theorem Desk.Deed.passage {ds : List Store.Call} (hm : m.Keyed) (hc : m.customer? c.id = some c)
    (hask : desk.understand c event = .ok q) (h : Deed desk σ c q ds) :
    desk.Passage event c m (ds.foldl Memory.after m) := by
  have hcart : m.cart? c.id = some c.cart := by rw [Memory.cart?, hc]; rfl
  cases h with
  | nothing => exact .stay (.refl _) hcart rfl
  | move hmove =>
    rw [Memory.foldl_updateCustomer hc]
    exact hmove.passage hm hc hask
  | order hstep haddress =>
    rw [Memory.foldl_order hc]
    exact Desk.passage_order hm hc hask
  | pay htext =>
    rw [List.foldl_cons, List.foldl_nil]
    exact .stay (.of_eq (Memory.collect_markPaid (fun _ => rfl) _ _))
      ((Memory.cart?_markPaid _ _ _ _).trans hcart) (Memory.map_markPaid (fun _ => rfl) _)

/-- A deed leaves the carts of other customers alone. -/
theorem Desk.Deed.cart?_of_ne {ds : List Store.Call} {id : Int64} (hc : m.customer? c.id = some c)
    (h : Deed desk σ c q ds) (hid : c.id ≠ id) :
    (ds.foldl Memory.after m).cart? id = m.cart? id := by
  cases h with
  | nothing => rfl
  | move hmove =>
    rw [Memory.foldl_updateCustomer hc]
    exact Memory.cart?_putCustomer_of_ne hid
  | order hstep haddress =>
    rw [Memory.foldl_order hc, Memory.cart?_saveOrder]
    exact Memory.cart?_putCustomer_of_ne hid
  | pay htext => exact Memory.cart?_markPaid _ _ _ _

end Dispatch

/-- What is true of the store in which the sender is known is true of the store before. -/
theorem Desk.Passage.of_welcome {desk : Desk} {event : Chat.Event} {sender : Chat.Sender}
    {c : Customer}
    {m m' : Memory} (h : desk.Passage event c (m.welcome sender) m') (hm : m.Keyed) :
    desk.Passage event c m m' := by
  have hlines : (m.welcome sender).lines.Perm m.lines := hm.collect_welcome (fun _ _ => rfl) sender
  have horders := m.welcome_orders sender
  cases h with
  | stay hstay hcart hsame => exact .stay (hstay.trans hlines) hcart (horders ▸ hsame)
  | join hask hlink hdraft hp hjoin hcart hsame =>
    exact .join hask hlink hdraft hp (hjoin.trans (hlines.cons _)) hcart (horders ▸ hsame)
  | leave hask hp hleave hcart hsame =>
    exact .leave hask hp (hlines.symm.trans hleave) hcart (horders ▸ hsame)
  | order hask ho hstay hcart hsame =>
    exact .order hask ho (hstay.trans hlines) hcart (horders ▸ hsame)

/-- A dispatch does one of the things of `Desk.Passage` to the lines. -/
theorem Surroundings.lines_dispatch {W : Type} (S : Surroundings W) (desk : Desk)
    (event : Chat.Event)
    {w : W} (hw : (S.memory w).Keyed) :
    desk.Passage event ((S.memory w).guest event.sender) (S.memory w)
      (S.memory (S.run (desk.dispatch event) w).2) := by
  obtain ⟨ds, hmemory, hds⟩ := S.memory_dispatch (S.met_any (desk.dispatch event) w)
  have hc := Memory.customer?_welcome (S.memory w) event.sender
  have hpassage : desk.Passage event ((S.memory w).guest event.sender)
      ((S.memory w).welcome event.sender)
      (ds.foldl Memory.after ((S.memory w).welcome event.sender)) := by
    rcases hds with rfl | ⟨q, hask, hds⟩
    · exact .stay (.refl _) (by rw [Memory.cart?, List.foldl_nil, hc]; rfl) rfl
    · exact hds.passage (hw.welcome event.sender) hc hask
  exact hmemory ▸ hpassage.of_welcome hw

/-- A dispatch leaves the carts of other customers alone. -/
theorem Surroundings.cart?_dispatch_of_ne {W : Type} (S : Surroundings W) (desk : Desk)
    (event : Chat.Event)
    (w : W) {id : Int64} (hid : event.sender.id ≠ id) :
    (S.memory (S.run (desk.dispatch event) w).2).cart? id = (S.memory w).cart? id := by
  obtain ⟨ds, hmemory, hds⟩ := S.memory_dispatch (S.met_any (desk.dispatch event) w)
  have hwelcome : ((S.memory w).welcome event.sender).cart? id = (S.memory w).cart? id :=
    Memory.cart?_welcome_of_ne hid
  rw [hmemory, ← hwelcome]
  rcases hds with rfl | ⟨q, -, hds⟩
  · rfl
  · have hc := Memory.customer?_welcome (S.memory w) event.sender
    exact hds.cart?_of_ne hc (by rwa [Memory.guest_id])

/-! ## What is asked for is done -/

namespace Surroundings

variable {W : Type} (S : Surroundings W) {desk : Desk} {event : Chat.Event} {w : W} {c : Customer}
  (hc : (S.memory w).customer? event.sender.id = some c) (hm : (S.memory w).Keyed)
include hc hm

/-- A link that completes the draft of a customer with room in the cart: the line joins the cart. -/
theorem line_joins {text link : String} {draft : Draft} {p : Position}
    (hask : desk.understand c event = .ok (.answer .link text))
    (hlink : Answer.link? desk.linkPattern text = some link) (hsize : c.cart.size < maxCartLines)
    (hdraft : c.draft = some draft)
    (hp : { draft with shopLink := some link }.complete? = some p) :
    let m' := S.memory (S.run (desk.dispatch event) w).2
    m'.lines.Perm (p :: (S.memory w).lines) ∧ m'.cart? c.id = some (c.cart.add p) ∧
      m'.orders = (S.memory w).orders := by
  have hkept : (S.memory w).customer? c.id = some c := by rw [Memory.customer?_id hc, hc]
  have hwrites : (desk.fulfil event.chat c (.answer .link text)).Writes Sources.any.Gives
      (· = [.updateCustomer c.id (Desk.addition c p)]) :=
    Desk.handleLink_writes_addition hlink hsize hdraft hp rfl
  obtain ⟨_, rfl, hmemory⟩ := S.memory_fulfil hask hc hwrites (S.met_any _ w)
  rw [Memory.foldl_updateCustomer hkept] at hmemory
  have hjoin : (c.apply (Desk.addition c p)).cart.lines.Perm (p :: c.cart.lines) :=
    List.perm_append_singleton p _
  dsimp only
  rw [hmemory]
  exact ⟨hm.lines_perm_cons hkept _ hjoin, Memory.cart?_putCustomer _ (c.apply _),
    Memory.putCustomer_orders _ _⟩

/-- A removal that finds a line: a line with its identifier leaves the cart. -/
theorem line_leaves {index : Nat} {data : ButtonData} {message : Option Int32} {p : Position}
    (hask : desk.understand c event = .ok (.press (.removePosition index) data message))
    (hp : c.cart.get? index = some p) :
    let m' := S.memory (S.run (desk.dispatch event) w).2
    ∃ q, q.id = p.id ∧ c.cart.lines.Perm (q :: (withoutLine c.cart index).lines) ∧
      (S.memory w).lines.Perm (q :: m'.lines) ∧
      m'.cart? c.id = some (withoutLine c.cart index) ∧ m'.orders = (S.memory w).orders := by
  have hkept : (S.memory w).customer? c.id = some c := by rw [Memory.customer?_id hc, hc]
  have hwrites : (desk.fulfil event.chat c (.press (.removePosition index) data message)).Writes
      Sources.any.Gives (· = [.updateCustomer c.id (Desk.removal c index)]) :=
    Desk.removePosition_writes_removal index rfl
  obtain ⟨_, rfl, hmemory⟩ := S.memory_fulfil hask hc hwrites (S.met_any _ w)
  rw [Memory.foldl_updateCustomer hkept] at hmemory
  obtain ⟨q, hid, hleave⟩ := Desk.withoutLine_found hp
  dsimp only
  rw [hmemory]
  exact ⟨q, hid, hleave, hm.perm_cons_lines hkept _ hleave, Memory.cart?_putCustomer _ (c.apply _),
    Memory.putCustomer_orders _ _⟩

/-- An accepted address, if a free short identifier is found: the cart becomes an order for it. -/
theorem cart_ordered {text address : String}
    (hask : desk.understand c event = .ok (.answer .deliveryAddress text))
    (haddress : Answer.address? text = some address)
    (hfree : (desk.dispatch event).run.Met S.serve Desk.FindsFree w) :
    let m' := S.memory (S.run (desk.dispatch event) w).2
    ∃ o, o.cart = c.cart ∧ o.deliveryAddress = address ∧ m'.orders = (S.memory w).orders ++ [o] ∧
      m'.lines.Perm (S.memory w).lines ∧ m'.cart? c.id = some .empty := by
  have hkept : (S.memory w).customer? c.id = some c := by rw [Memory.customer?_id hc, hc]
  have hmet := (S.met_keeping (desk.dispatch event) (by rw [hkept]; rfl)).and hfree
  obtain ⟨_, ⟨shortId, id, createdAt, rfl⟩, hmemory⟩ := S.memory_fulfil hask hc
    (Desk.handleDeliveryAddress_writes_order haddress fun _ _ h => h) hmet
  rw [Memory.foldl_order hkept] at hmemory
  refine ⟨.ofCustomer c address c.terms.isExpress shortId id createdAt, rfl, rfl, ?_⟩
  rw [hmemory]
  exact ⟨congrArg (· ++ _) (Memory.putCustomer_orders _ _), hm.lines_perm_order hkept rfl,
    Memory.cart?_putCustomer _ (c.apply .clearing)⟩

end Surroundings

end OrderDesk
