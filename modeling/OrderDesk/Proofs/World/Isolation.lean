import OrderDesk.Proofs.Conversation.Surroundings
import OrderDesk.Proofs.Store.Portion
import OrderDesk.Proofs.World.History

/-!
# Customers are kept apart

A dispatch is about its sender and nobody else.  It leaves the records and orders of all other
customers as they are and speaks in the chat of its event only.  And what it does not change it does
not look at either: two dispatches of one event that find the same portion of the sender and the same
surroundings go the same way and leave the same portion behind, whatever else the two stores hold
(`Outside.dispatch_isolated`).

The second part is about two runs, so the surroundings are written out here: `Outside` is everything
but the store, and a `State` is a store in memory with a state of the outside.
-/

namespace OrderDesk

open Store (Memory)
open Store.Memory (SamePortion)

/-- Everything around a store in memory. -/
structure Outside (E : Type) where
  chat : (c : Chat.Call) → E → c.Reply × E
  rate : E → Except PricingError Float × E
  shelf : E → Catalog.Shelf × E
  newId : E → Uuid × E
  now : E → Instant × E
  /-- The catalogue was changed. -/
  hear : List Catalog.Item → E → E
  /-- Candidates for short identifiers, in the order in which they are drawn. -/
  candidate : Nat → String

/-! ## What a dispatch leaves alone -/

namespace Surroundings

variable {W : Type} (S : Surroundings W) (desk : Desk) (event : Chat.Event) (w : W)

/-- The calls of a dispatch concern the sender and are made in the chat of the event. -/
theorem allowed_dispatch :
    ∀ c ∈ S.calls (desk.dispatch event) w, c.Allowed event.sender.id event.chat := by
  intro c hc
  rw [calls_dispatch, List.mem_append] at hc
  rcases hc with hc | hc
  · exact .inl ((Desk.loadCustomer_asks event.sender).run w c hc).private
  · have hguest : ((S.memory w).guest event.sender).id = event.sender.id := Memory.guest_id _ _
    exact hguest ▸ (Desk.respond_allowed _ event).run _ c hc

/-- A dispatch leaves the portions of others as they are. -/
theorem portion_dispatch {other : Int64} (h : other ≠ event.sender.id) :
    SamePortion other (S.memory (S.run (desk.dispatch event) w).2) (S.memory w) := by
  have hmemory : S.memory (S.run (desk.dispatch event) w).2 =
      (S.calls (desk.dispatch event) w).foldl Desk.Call.effect (S.memory w) :=
    Program.view_run (fun c v => S.memory_serve c v) (desk.dispatch event).run w
  rw [hmemory]
  refine List.foldlRecOn _ _ (motive := fun m => SamePortion other m (S.memory w)) ⟨rfl, rfl⟩ ?_
  intro m hm c hc
  cases c with
  | store c =>
    have hstep := Memory.portion_of_ne (m := m) (S.allowed_dispatch desk event w _ hc) h
    exact ⟨hstep.customer.trans hm.customer, hstep.orders.trans hm.orders⟩
  | _ => exact hm

end Surroundings

namespace Outside

variable {E : Type}

/-- A store with everything around it. -/
structure State (E : Type) where
  memory : Memory
  /-- Candidates drawn so far. -/
  drawn : Nat
  outside : E

/-- Answers a call of a turn. -/
def serve (O : Outside E) : (c : Desk.Call) → State E → c.Reply × State E
  | .store c, x =>
    let (reply, after) := x.memory.serve O.candidate x.drawn c
    let outside := match after.announced with
      | some items => O.hear items x.outside
      | none => x.outside
    (reply, ⟨after.memory, after.drawn, outside⟩)
  | .chat c, x => ((O.chat c x.outside).1, { x with outside := (O.chat c x.outside).2 })
  | .rate, x => ((O.rate x.outside).1, { x with outside := (O.rate x.outside).2 })
  | .shelf, x => ((O.shelf x.outside).1, { x with outside := (O.shelf x.outside).2 })
  | .newId, x => ((O.newId x.outside).1, { x with outside := (O.newId x.outside).2 })
  | .now, x => ((O.now x.outside).1, { x with outside := (O.now x.outside).2 })

def surroundings (O : Outside E) : Surroundings (State E) where
  serve := O.serve
  memory := State.memory
  memory_serve c x := by
    cases c with
    | store c => exact Memory.serve_memory _ _ _ c
    | _ => rfl
  reply c x := ⟨O.candidate, x.drawn, rfl⟩

variable (O : Outside E) {id chat : Int64} {x y : State E} {desk : Desk} {event : Chat.Event}

/-! ## States that are the same for one customer -/

/-- Two states differ in the portions of other customers at most. -/
structure Peers (id : Int64) (x y : State E) : Prop where
  portion : SamePortion id x.memory y.memory
  drawn : x.drawn = y.drawn
  outside : x.outside = y.outside

/-- Two states between which a customer can not tell, also by what is asked about all orders: no
short identifier is used twice, and no candidate that could be drawn next is free in one of them
only. -/
structure Alike (id : Int64) (x y : State E) : Prop extends Peers id x y where
  distinct : (x.memory.orders.map (·.shortId)).Nodup ∧ (y.memory.orders.map (·.shortId)).Nodup
  free : ∀ k < Store.shortIdAttempts,
    x.memory.isFree (O.candidate (x.drawn + k)) = y.memory.isFree (O.candidate (x.drawn + k))

/-- Private calls are answered alike. -/
theorem Peers.private {call : Desk.Call} (h : Peers id x y) (hcall : call.Private id chat) :
    (O.serve call x).1 = (O.serve call y).1 ∧ Peers id (O.serve call x).2 (O.serve call y).2 := by
  cases call with
  | store call =>
    obtain ⟨hreply, hportion⟩ := h.portion.private hcall O.candidate x.drawn
    simp only [serve, ← h.drawn, Memory.serve_private hcall]
    exact ⟨hreply, hportion, rfl, h.outside⟩
  | _ =>
    simp only [serve, ← h.outside, true_and]
    exact ⟨h.portion, h.drawn, rfl⟩

/-- Looking a customer up or registering one does not touch orders. -/
theorem Alike.registers {call : Desk.Call} (h : O.Alike id x y) (hcall : call.Registers id) :
    (O.serve call x).1 = (O.serve call y).1 ∧ O.Alike id (O.serve call x).2 (O.serve call y).2 := by
  have hprivate : call.Private id 0 := hcall.private
  obtain ⟨hreply, hpeers⟩ := h.toPeers.private O hprivate
  have same : ∀ z : State E, (O.serve call z).2.memory.orders = z.memory.orders ∧
      (O.serve call z).2.drawn = z.drawn := by
    intro z
    cases call with
    | store call =>
      cases call with
      | customer i => exact ⟨rfl, rfl⟩
      | saveCustomer c => exact ⟨Memory.putCustomer_orders _ c, rfl⟩
      | _ => exact hcall.elim
    | _ => exact hcall.elim
  refine ⟨hreply, hpeers, ?_, ?_⟩
  · rw [(same x).1, (same y).1]
    exact h.distinct
  · intro k hk
    simp only [Memory.isFree, (same x).1, (same x).2, (same y).1]
    exact h.free k hk

/-! ## Turns that go the same way -/

variable {α β : Type} {t : Turn α} {f : α → Turn β} {R R' : State E → State E → Prop}

/-- Two runs of a turn make the same calls, end with the same result and leave states that are
related. -/
structure Same (R : State E → State E → Prop) (t : Turn α) (x y : State E) : Prop where
  result : (O.surroundings.run t x).1 = (O.surroundings.run t y).1
  calls : O.surroundings.calls t x = O.surroundings.calls t y
  after : R (O.surroundings.run t x).2 (O.surroundings.run t y).2

theorem same_of_asks {B : Desk.Call → Prop}
    (hR : ∀ c, B c → ∀ x y, R x y →
      (O.serve c x).1 = (O.serve c y).1 ∧ R (O.serve c x).2 (O.serve c y).2)
    (ht : t.Asks B) (h : R x y) : O.Same R t x y := by
  obtain ⟨hresult, hcalls, hafter⟩ := Program.Along.run_related hR ht h
  exact ⟨hresult, hcalls, hafter⟩

/-- A turn that only makes private calls. -/
theorem same_private (chat : Int64) (ht : t.Asks (Desk.Call.Private id chat)) (h : Peers id x y) :
    O.Same (Peers id) t x y :=
  O.same_of_asks (fun _ hc _ _ hxy => hxy.private O hc) ht h

variable {O}

/-- One turn after the other. -/
theorem Same.bind (h : O.Same R t x y) (hR : ∀ x y, R x y → R' x y)
    (hf : ∀ a, (O.surroundings.run t x).1 = .ok a →
      O.Same R' (f a) (O.surroundings.run t x).2 (O.surroundings.run t y).2) :
    O.Same R' (t >>= f) x y := by
  cases hx : (O.surroundings.run t x).1 with
  | error e =>
    have hy : (O.surroundings.run t y).1 = .error e := h.result ▸ hx
    refine ⟨?_, ?_, ?_⟩
    · rw [Surroundings.run_bind_of_error _ hx, Surroundings.run_bind_of_error _ hy]
    · rw [Surroundings.calls_bind_of_error _ hx, Surroundings.calls_bind_of_error _ hy, h.calls]
    · rw [Surroundings.run_bind_of_error _ hx, Surroundings.run_bind_of_error _ hy]
      exact hR _ _ h.after
  | ok a =>
    have hy : (O.surroundings.run t y).1 = .ok a := h.result ▸ hx
    have hrest := hf a hx
    refine ⟨?_, ?_, ?_⟩
    · rw [Surroundings.run_bind _ hx, Surroundings.run_bind _ hy]
      exact hrest.result
    · rw [Surroundings.calls_bind _ hx, Surroundings.calls_bind _ hy, h.calls, hrest.calls]
    · rw [Surroundings.run_bind _ hx, Surroundings.run_bind _ hy]
      exact hrest.after

/-! ## The two questions about all orders -/

/-- The same short identifier is given. -/
theorem Alike.freeShortId (h : O.Alike id x y) :
    O.Same (Peers id) (Turn.store .freeShortId) x y := by
  have hfree : x.memory.freeShortId O.candidate Store.shortIdAttempts x.drawn =
      y.memory.freeShortId O.candidate Store.shortIdAttempts y.drawn := by
    rw [← h.drawn]
    exact Memory.freeShortId_congr _ _ h.free
  have hask : O.Same (Peers id) (Turn.ask (.store .freeShortId)) x y := by
    have hreply : (O.serve (.store .freeShortId) x).1 = (O.serve (.store .freeShortId) y).1 := by
      show (x.memory.freeShortId O.candidate Store.shortIdAttempts x.drawn).1 = _
      rw [hfree]
      rfl
    exact ⟨congrArg Except.ok hreply, rfl, h.portion, congrArg Prod.snd hfree, h.outside⟩
  refine hask.bind (fun _ _ hxy => hxy) fun r _ => ?_
  exact O.same_private 0 (Turn.asks_ofExcept _ r) hask.after

/-- The order that a payment is for is one of the customer's, or there is none. -/
theorem run_ownOrder? (O : Outside E) {x : State E} (h : (x.memory.orders.map (·.shortId)).Nodup)
    (c : Customer) (shortId : String) :
    O.surroundings.run (Desk.ownOrder? c shortId) x =
        (.ok ((x.memory.ordersOf c.id).find? (·.shortId == shortId)), x) ∧
      O.surroundings.calls (Desk.ownOrder? c shortId) x = [.store (.order shortId)] := by
  have hask : (O.surroundings.run (Turn.ask (.store (.order shortId))) x).1 =
      .ok (x.memory.order shortId) := rfl
  rw [← Memory.order_find? h, Desk.ownOrder?, O.surroundings.run_bind hask,
    O.surroundings.calls_bind hask, Memory.order]
  cases ho : x.memory.orders.find? (·.shortId == shortId) with
  | none => exact ⟨rfl, rfl⟩
  | some order =>
    by_cases hbuyer : order.buyer.id = c.id
    · simp only [hbuyer, if_true, Option.filter_some, beq_self_eq_true]
      exact ⟨rfl, rfl⟩
    · simp only [hbuyer, if_false, Option.filter_some, beq_iff_eq]
      exact ⟨rfl, rfl⟩

theorem Alike.ownOrder? {c : Customer} (h : O.Alike c.id x y) (shortId : String) :
    O.Same (Peers c.id) (Desk.ownOrder? c shortId) x y := by
  obtain ⟨hx, hxcalls⟩ := O.run_ownOrder? h.distinct.1 c shortId
  obtain ⟨hy, hycalls⟩ := O.run_ownOrder? h.distinct.2 c shortId
  refine ⟨?_, hxcalls.trans hycalls.symm, ?_⟩
  · rw [hx, hy, h.portion.orders]
  · rw [hx, hy]
    exact h.toPeers

/-! ## Dispatches -/

/-- Requests of one customer are carried out alike. -/
theorem Alike.fulfil {c : Customer} (h : O.Alike c.id x y) (desk : Desk) (chat : Int64)
    (q : Desk.Request) : O.Same (Peers c.id) (desk.fulfil chat c q) x y := by
  by_cases hq : q.isPrivate
  · exact O.same_private chat (Desk.fulfil_private hq) h.toPeers
  · cases q with
    | command k => exact absurd rfl hq
    | answer i text =>
      cases i with
      | deliveryAddress =>
        rw [Desk.fulfil, Desk.take]
        cases haddress : Answer.address? text with
        | none =>
          unfold Desk.handleDeliveryAddress
          rw [haddress]
          have hsend : (desk.send chat "address-invalid").Asks (Desk.Call.Private c.id chat) :=
            Desk.send_asks.mono fun _ => Desk.Call.Ordinary.private (p := False)
          exact O.same_private chat hsend h.toPeers
        | some address =>
          obtain ⟨rest, heq, hrest⟩ :=
            Desk.handleDeliveryAddress_eq (p := False) desk chat c haddress
          have hprivate : ∀ shortId, (rest shortId).Asks (Desk.Call.Private c.id chat) :=
            fun shortId => (hrest shortId).mono fun _ hcall => hcall.private
          rw [heq]
          refine h.freeShortId.bind (fun _ _ hxy => hxy) fun shortId _ => ?_
          exact O.same_private chat (hprivate shortId) h.freeShortId.after
      | _ => exact absurd rfl hq
    | press a data message =>
      cases a with
      | paid =>
        rw [Desk.fulfil, Desk.act]
        cases data.text? with
        | none => exact O.same_private chat (Turn.asks_throw _) h.toPeers
        | some shortId =>
          obtain ⟨rest, heq, hrest⟩ := Desk.paid_eq (p := False) desk chat c shortId
          have hprivate : ∀ order?, (rest order?).Asks (Desk.Call.Private c.id chat) :=
            fun order? => (hrest order?).mono fun _ hcall => hcall.private
          rw [heq]
          refine (h.ownOrder? shortId).bind (fun _ _ hxy => hxy) fun order? _ => ?_
          exact O.same_private chat (hprivate order?) (h.ownOrder? shortId).after
      | _ => exact absurd rfl hq

/-- Events of one customer are dispatched alike. -/
theorem Alike.dispatch (h : O.Alike event.sender.id x y) (desk : Desk) :
    O.Same (Peers event.sender.id) (desk.dispatch event) x y := by
  have hload : O.Same (O.Alike event.sender.id) (Desk.loadCustomer event.sender) x y :=
    O.same_of_asks (fun _ hc _ _ hxy => hxy.registers O hc) (Desk.loadCustomer_asks event.sender) h
  rw [Desk.dispatch_eq]
  refine hload.bind (fun _ _ hxy => hxy.toPeers) fun c hc => ?_
  have hguest : (x.memory.guest event.sender) = c :=
    Except.ok.inj ((O.surroundings.run_load event.sender x).1.symm.trans hc)
  have hid : c.id = event.sender.id := hguest ▸ Memory.guest_id _ _
  rw [Desk.respond]
  rw [← hid] at hload ⊢
  cases desk.understand c event with
  | error e => exact O.same_private event.chat (Turn.asks_throw _) hload.after.toPeers
  | ok q =>
    exact hload.after.fulfil desk event.chat q

/-- A dispatch is about its sender.  Records and orders of all other customers stay as they are, and
everything is said in the chat of the event.  From another state that is alike for the sender, the
dispatch makes the same calls, ends with the same result, and leaves the same record, the same
orders and the same outside behind. -/
theorem dispatch_isolated (O : Outside E) (desk : Desk) (event : Chat.Event) (x : State E) :
    (∀ other, other ≠ event.sender.id →
      SamePortion other (O.surroundings.run (desk.dispatch event) x).2.memory x.memory) ∧
    (∀ call, .chat call ∈ O.surroundings.calls (desk.dispatch event) x →
      call.chat = event.chat) ∧
    ∀ y, O.Alike event.sender.id x y →
      O.Same (Peers event.sender.id) (desk.dispatch event) x y := by
  refine ⟨fun other hother => O.surroundings.portion_dispatch desk event x hother, ?_,
    fun y hy => hy.dispatch desk⟩
  intro call hcall
  rcases O.surroundings.allowed_dispatch desk event x _ hcall with h | h | ⟨shortId, h⟩
  · exact h
  · cases h
  · cases h

end Outside

/-- What a world is besides its store. -/
def World.outside (draws : Draws) : Outside World where
  chat c w := w.serveChat c
  rate w := (usableRate w.rate, w)
  shelf w := (w.shelf, w)
  newId w := (draws.id w.drawnIds, { w with drawnIds := w.drawnIds + 1 })
  now w := (w.clock, w)
  hear items w := { w with shelf := ⟨items⟩ }
  candidate := draws.shortId

namespace Purchase

/-- Another customer, who has ordered before. -/
def neighbour : Customer := .fresh 2 "Olga"

/-- The store before the address is sent. -/
def alone : Outside.State World := ⟨(opening.after Desk.bare untilAddress).memory, 0, opening⟩

/-- The same store with the other customer in it. -/
def together : Outside.State World :=
  { alone with
    memory := (alone.memory.putCustomer neighbour).saveOrder
      (.ofCustomer neighbour "Mira 2" false "OLGA" .nil ⟨0, 0⟩) }

/-- The purchase goes the same way next to another customer, whose order stays as it is. -/
theorem kept_apart :
    (World.outside opening.draws).Alike 1 alone together ∧
      together.memory.ordersOf 2 ≠ [] ∧
      (World.outside opening.draws).Same (Outside.Peers 1) (Desk.bare.dispatch address) alone
        together ∧
      SamePortion 2
        ((World.outside opening.draws).surroundings.run (Desk.bare.dispatch address)
          together).2.memory together.memory := by
  have halike : (World.outside opening.draws).Alike 1 alone together := {
    portion := ⟨by decide +kernel, by decide +kernel⟩
    drawn := rfl
    outside := rfl
    distinct := by decide +kernel
    free := by decide +kernel }
  refine ⟨halike, by decide +kernel, ?_, ?_⟩
  · exact ((World.outside opening.draws).dispatch_isolated Desk.bare address alone).2.2 _ halike
  · exact ((World.outside opening.draws).dispatch_isolated Desk.bare address together).1 2 (by decide)

end Purchase

end OrderDesk
