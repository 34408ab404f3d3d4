import OrderDesk.Proofs.World.History

/-!
# Orders stay, and their buyers pay them

Orders are only ever appended.  An order that is kept stays at its place and stays what it is but
for the payment, and what is paid stays paid (`Order.Lasts`).  A dispatch notes the payment of at most
one order, and only when the buyer of that very order presses a payment button with its short
identifier (`Chat.Event.Pays`), although the order is looked up and marked in two separate searches.

What a deed does to the orders is said once (`Deed.orders_cases`); that gives what a dispatch does
(`Surroundings.orders_dispatch`), and with it what is left after any number of dispatches and
changes of the catalogue (`Store.Memory.Later`).
-/

namespace OrderDesk

open Desk (Deed Sources)
open Store (Memory)

/-! ## Orders as time goes on -/

/-- What becomes of an order that is kept: at most it is paid. -/
def Order.Lasts (o o' : Order) : Prop := o' = o ∨ o' = { o with isPaid := true }

theorem Order.Lasts.trans {o o' o'' : Order} (h : o.Lasts o') (h' : o'.Lasts o'') :
    o.Lasts o'' := by
  rcases h with rfl | rfl
  · exact h'
  · rcases h' with rfl | rfl
    · exact .inr rfl
    · exact .inr rfl

/-- The buyer of an order presses a payment button that carries its short identifier. -/
def Chat.Event.Pays (event : Chat.Event) (o : Order) : Prop :=
  ∃ message raw data, event = .press event.chat event.sender message raw ∧
    ButtonData.decode raw = .ok data ∧ Action.ofCode? data.code = some .paid ∧
    data.text? = some o.shortId ∧ event.sender.id = o.buyer.id

/-! ## What a deed does to the orders -/

namespace Store.Memory

variable {m : Memory} {id : Int64} {shortId : String}

/-- Marking an order as paid looks for the first one that has the short identifier and belongs to
the customer, and leaves all others as they are. -/
theorem getElem?_markPaid {i : Nat} {o : Order} (h : m.orders[i]? = some o) :
    (m.after (.markPaid id shortId)).orders[i]? = some o ∨
      (m.orders.findIdx? fun o => o.shortId == shortId && o.buyer.id == id) = some i ∧
        (m.after (.markPaid id shortId)).orders[i]? = some { o with isPaid := true } := by
  rw [after_markPaid]
  split
  · rename_i j hj
    dsimp only
    rw [List.getElem?_modify, h]
    by_cases hji : j = i
    · exact .inr ⟨hji ▸ hj, congrArg some (if_pos hji)⟩
    · exact .inl (congrArg some (if_neg hji))
  · exact .inl h

/-- The order that is marked has the short identifier and belongs to the customer. -/
theorem of_findIdx?_order {i : Nat} {o : Order} (h : m.orders[i]? = some o)
    (hi : (m.orders.findIdx? fun o => o.shortId == shortId && o.buyer.id == id) = some i) :
    o.shortId = shortId ∧ o.buyer.id = id := by
  obtain ⟨hlt, hfound, -⟩ := List.findIdx?_eq_some_iff_getElem.1 hi
  obtain rfl : m.orders[i] = o := (List.getElem?_eq_some_iff.1 h).2
  simpa using hfound

end Store.Memory

/-- A deed leaves the orders as they are, adds one, or notes a payment by its customer. -/
theorem Desk.Deed.orders_cases {desk : Desk} {σ : Sources} {c : Customer} {q : Desk.Request}
    {ds : List Store.Call} {m : Memory} (h : Deed desk σ c q ds) (hc : m.customer? c.id = some c) :
    (ds.foldl Memory.after m).orders = m.orders ∨
      (∃ o, (ds.foldl Memory.after m).orders = m.orders ++ [o]) ∨
      ∃ data message shortId, q = .press .paid data message ∧ data.text? = some shortId ∧
        ds.foldl Memory.after m = m.after (.markPaid c.id shortId) := by
  cases h with
  | nothing => exact .inl rfl
  | move hmove =>
    rw [Memory.foldl_updateCustomer hc]
    exact .inl (Memory.putCustomer_orders m _)
  | order hstep haddress =>
    rw [Memory.foldl_order hc]
    exact .inr (.inl ⟨_, congrArg (· ++ [_]) (Memory.putCustomer_orders m _)⟩)
  | pay htext => exact .inr (.inr ⟨_, _, _, rfl, htext, rfl⟩)

/-! ## Dispatches -/

namespace Surroundings

variable {W : Type} (S : Surroundings W)

/-- A dispatch leaves every order at its place as it is, but for one at most, which the event
pays. -/
theorem orders_dispatch (desk : Desk) (event : Chat.Event) (w : W) :
    ∃ paid : Option Nat, ∀ i o, (S.memory w).orders[i]? = some o →
      (S.memory (S.run (desk.dispatch event) w).2).orders[i]? = some o ∨
        paid = some i ∧ event.Pays o ∧
          (S.memory (S.run (desk.dispatch event) w).2).orders[i]? =
            some { o with isPaid := true } := by
  obtain ⟨ds, hmemory, hds⟩ := S.memory_dispatch (S.met_any (desk.dispatch event) w)
  have horders := Memory.welcome_orders (S.memory w) event.sender
  rw [hmemory]
  rcases hds with rfl | ⟨q, hq, hdeed⟩
  · exact ⟨none, fun i o ho => .inl (by rw [List.foldl_nil, horders, ho])⟩
  · rcases hdeed.orders_cases (Memory.customer?_welcome _ _) with
      hsame | ⟨new, hnew⟩ | ⟨data, message, shortId, rfl, htext, hpay⟩
    · exact ⟨none, fun i o ho => .inl (by rw [hsame, horders, ho])⟩
    · refine ⟨none, fun i o ho => .inl ?_⟩
      rw [hnew, horders, List.getElem?_append_left (List.getElem?_eq_some_iff.1 ho).1, ho]
    · obtain ⟨raw, hevent, hdecode, haction⟩ := desk.press_of_understand hq
      refine ⟨((S.memory w).welcome event.sender).orders.findIdx? fun o =>
        o.shortId == shortId && o.buyer.id == ((S.memory w).guest event.sender).id,
        fun i o ho => ?_⟩
      rw [← horders] at ho
      rw [hpay]
      refine (Memory.getElem?_markPaid ho).imp id fun ⟨hi, hpaid⟩ => ⟨hi, ?_, hpaid⟩
      -- the button carries the short identifier, and the customer is the sender
      obtain ⟨rfl, hbuyer⟩ := Memory.of_findIdx?_order ho hi
      rw [Memory.guest_id] at hbuyer
      exact ⟨message, raw, data, hevent, hdecode, haction, htext, hbuyer.symm⟩

end Surroundings

/-- Changes of the catalogue do not touch orders. -/
theorem World.orders_upkeep (desk : Desk) (w : World) (u : Upkeep) :
    (w.happen desk (.upkeep u)).memory.orders = w.memory.orders :=
  happen_upkeep (I := fun m => m.orders = w.memory.orders) (fun _ _ hm => hm) (fun _ hm => hm) rfl u

/-! ## Runs -/

/-- A store after some dispatches and changes of the catalogue, one after another, whatever
surrounds the store at each of them. -/
inductive Store.Memory.Later (desk : Desk) (m : Memory) : Memory → Prop where
  | refl : Later desk m m
  | dispatch {W : Type} {S : Surroundings W} {w : W} (event : Chat.Event)
    (h : Later desk m (S.memory w)) : Later desk m (S.memory (S.run (desk.dispatch event) w).2)
  | upkeep {w : World} (u : Upkeep) (h : Later desk m w.memory) :
    Later desk m (w.happen desk (.upkeep u)).memory

/-- The store at the end of a history is a later one than that at its beginning. -/
theorem World.later_after (desk : Desk) (w : World) (history : List Occurrence) :
    Memory.Later desk w.memory (w.after desk history).memory := by
  refine List.foldlRecOn history (happen desk)
    (motive := fun v : World => Memory.Later desk w.memory v.memory) .refl
    fun v hv occurrence _ => ?_
  cases occurrence with
  | event e => exact .dispatch (S := World.surroundings) e hv
  | upkeep u => exact .upkeep u hv
  | change rate clock nextMessage => exact hv

/-- In every later store each order is at its place. -/
theorem Store.Memory.Later.order {desk : Desk} {m m' : Memory} (h : m.Later desk m') {i : Nat}
    {o : Order} (ho : m.orders[i]? = some o) : ∃ o', m'.orders[i]? = some o' ∧ o.Lasts o' := by
  induction h with
  | refl => exact ⟨o, ho, .inl rfl⟩
  | @dispatch W S w event _ ih =>
    obtain ⟨o', ho', hlasts⟩ := ih
    obtain ⟨paid, hdispatch⟩ := S.orders_dispatch desk event w
    rcases hdispatch i o' ho' with hsame | ⟨-, -, hpaid⟩
    · exact ⟨o', hsame, hlasts⟩
    · exact ⟨_, hpaid, hlasts.trans (.inr rfl)⟩
  | @upkeep w u _ ih =>
    rw [World.orders_upkeep]
    exact ih

/-- Orders are there for good: in every later store each one is at its place, the same but for a
payment that is never taken back.  A single dispatch changes the payment of one order at most, and
only when the buyer of that order presses a payment button with its short identifier. -/
theorem Desk.orders_permanent (desk : Desk) :
    (∀ m m' : Memory, m.Later desk m' → ∀ (i : Nat) (o : Order), m.orders[i]? = some o →
      ∃ o', m'.orders[i]? = some o' ∧ Order.Lasts o o') ∧
    ∀ (W : Type) (S : Surroundings W) (event : Chat.Event) (w : W) (i : Nat) (o o' : Order),
      (S.memory w).orders[i]? = some o →
      (S.memory (S.run (desk.dispatch event) w).2).orders[i]? = some o' → o'.isPaid ≠ o.isPaid →
        event.Pays o ∧
          ∀ j p p', (S.memory w).orders[j]? = some p →
            (S.memory (S.run (desk.dispatch event) w).2).orders[j]? = some p' →
            p'.isPaid ≠ p.isPaid → j = i := by
  refine ⟨fun m m' h i o ho => h.order ho, fun W S event w i o o' ho ho' hne => ?_⟩
  obtain ⟨paid, hdispatch⟩ := S.orders_dispatch desk event w
  -- an order whose payment changes is the one that is paid
  have changed : ∀ j p p', (S.memory w).orders[j]? = some p →
      (S.memory (S.run (desk.dispatch event) w).2).orders[j]? = some p' →
      p'.isPaid ≠ p.isPaid → paid = some j ∧ event.Pays p := by
    intro j p p' hp hp' hchanged
    rcases hdispatch j p hp with hsame | ⟨hpaid, hpays, -⟩
    · obtain rfl := Option.some.inj (hsame.symm.trans hp')
      exact absurd rfl hchanged
    · exact ⟨hpaid, hpays⟩
  obtain ⟨hi, hpays⟩ := changed i o o' ho ho' hne
  refine ⟨hpays, fun j p p' hp hp' hchanged => ?_⟩
  obtain ⟨hj, -⟩ := changed j p p' hp hp' hchanged
  exact Option.some.inj (hj.symm.trans hi)

namespace Purchase

/-- The customer says that the order is paid. -/
def payment : Chat.Event := presses "s000000:35"

/-- The order of the purchase is paid by its buyer, and by nothing else. -/
theorem payment_noted :
    ∃ o o', (opening.after Desk.bare whole).memory.orders[0]? = some o ∧
      ((opening.after Desk.bare whole).happen Desk.bare (.event payment)).memory.orders[0]? =
        some o' ∧ ¬ o.isPaid ∧ o'.isPaid ∧ o.Lasts o' ∧ payment.Pays o := by
  have hopen : (opening.after Desk.bare whole).memory.orders[0]?.map (·.isPaid) = some false := by
    decide +kernel
  have hpaid : ((opening.after Desk.bare whole).happen Desk.bare
      (.event payment)).memory.orders[0]?.map (·.isPaid) = some true := by
    decide +kernel
  -- what was evaluated is all that need be known of the purchase
  generalize opening.after Desk.bare whole = w at hopen hpaid ⊢
  obtain ⟨hlast, hpays⟩ := Desk.orders_permanent Desk.bare
  obtain ⟨o, ho, hunpaid⟩ := Option.map_eq_some_iff.1 hopen
  obtain ⟨o', ho', hlasts⟩ :=
    hlast _ _ (World.later_after Desk.bare w [.event payment]) 0 o ho
  obtain ⟨o'', ho'', hpaid⟩ := Option.map_eq_some_iff.1 hpaid
  obtain rfl : o'' = o' := Option.some.inj (ho''.symm.trans ho')
  have hchanged : o''.isPaid ≠ o.isPaid := by
    rw [hpaid, hunpaid]
    decide
  obtain ⟨hbuyer, -⟩ := hpays World World.surroundings payment w 0 o o'' ho ho' hchanged
  exact ⟨o, o'', ho, ho', by rw [hunpaid]; decide, hpaid, hlasts, hbuyer⟩

end Purchase

end OrderDesk
