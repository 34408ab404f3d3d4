import OrderDesk.Proofs.Orders.Lines

/-!
# Dispatches that are cut off

A dispatch that takes too long is abandoned between two of its calls.  It should then have left the
store as it was, but for the registration of its sender, or as the whole dispatch leaves it:
`Surroundings.AllOrNothing`.

Almost every dispatch writes once after the sender is known, so any cut is before that write or
after it.  The one exception is the dispatch that makes an order.  It empties the cart and keeps the
order in two calls, one right after the other, and puts the cart back only if the second one fails.
A cut between the two leaves neither cart nor order, and this is the only cut that leaves something
in between (`Surroundings.allOrNothing_iff`).
-/

namespace OrderDesk

open Desk (Call Deed writes writes_append writes_cons_of_none writes_cons_of_some)
open Store (Memory)

/-! ## Cutting lists of calls -/

/-- A prefix of a list that ends in at most one more element. -/
theorem prefix_append_cases {α : Type} {taken : List α} (before ys : List α)
    (h : taken <+: before ++ ys)
    (hys : ys.length ≤ 1) : taken <+: before ∨ taken = before ++ ys := by
  by_cases hlength : taken.length ≤ before.length
  · exact .inl (List.prefix_of_prefix_length_le h (List.prefix_append before ys) hlength)
  · have hall : taken.length = (before ++ ys).length := by
      have hle := h.length_le
      rw [List.length_append] at hle ⊢
      omega
    exact .inr (h.eq_of_length hall)

namespace Desk

theorem writes_take_prefix (cs : List Call) (n : Nat) : writes (cs.take n) <+: writes cs :=
  (List.take_prefix n cs).filterMap _

/-- Calls that write nothing keep no order. -/
theorem saveOrder_not_mem {cs : List Call} (h : writes cs = []) (o : Order) :
    Call.store (.saveOrder o) ∉ cs := by
  intro hmem
  have hwrite : Store.Call.saveOrder o ∈ writes cs := List.mem_filterMap.2 ⟨_, hmem, rfl⟩
  rw [h] at hwrite
  exact List.not_mem_nil hwrite

/-- Two neighbouring calls are cut off together, cut apart, or left together; and where the next
call stands. -/
theorem take_two_cases {before after cs : List Call} {first second : Call}
    (hcs : cs = before ++ first :: second :: after) (n : Nat) :
    (cs.take n = before.take n ∧ ∀ c, cs[n]? = some c → c ∈ before ∨ c = first) ∨
      (cs.take n = before ++ [first] ∧ cs[n]? = some second) ∨
      ∃ k, cs.take n = before ++ first :: second :: after.take k ∧
        ∀ c, cs[n]? = some c → c ∈ after := by
  subst hcs
  rcases Nat.lt_or_ge n before.length with hn | hn
  · refine .inl ⟨List.take_append_of_le_length (Nat.le_of_lt hn), fun c hc => .inl ?_⟩
    rw [List.getElem?_append_left hn] at hc
    exact List.mem_of_getElem? hc
  · obtain ⟨k, rfl⟩ := Nat.exists_eq_add_of_le hn
    rw [List.take_length_add_append, List.getElem?_append_right hn, Nat.add_sub_cancel_left]
    match k with
    | 0 => exact .inl ⟨by simp, fun c hc => .inr (Option.some.inj hc).symm⟩
    | 1 => exact .inr (.inl ⟨rfl, rfl⟩)
    | k + 2 => exact .inr (.inr ⟨k, rfl, fun c hc => List.mem_of_getElem? hc⟩)

end Desk

/-! ## The calls of a dispatch -/

namespace Surroundings

variable {W : Type} (S : Surroundings W) {desk : Desk} {event : Chat.Event} {w : W}

/-- A dispatch makes an order: one call takes the cart out of the record, the next one keeps it as
an order, and nothing else is written. -/
structure Orders (desk : Desk) (event : Chat.Event) (w : W) (order : Order)
    (before after : List Call) : Prop where
  /-- The sender was asked for the address. -/
  step : ((S.memory w).guest event.sender).step = .deliveryAddress
  /-- The order is for the sender's cart. -/
  cart : order.cart = ((S.memory w).guest event.sender).cart
  writes_before : writes before = []
  writes_after : writes after = []
  calls : S.calls (desk.dispatch event) w = before ++
    .store (.updateCustomer ((S.memory w).guest event.sender).id .clearing) ::
      .store (.saveOrder order) :: after

/-- An address that is understood is answered by one order of the sender's cart, or by no write. -/
theorem ordersOnce_respond {text : String}
    (hask : desk.understand ((S.memory w).guest event.sender) event =
      .ok (.answer .deliveryAddress text)) :
    Desk.OrdersOnce ((S.memory w).guest event.sender)
      (fun o => o.cart = ((S.memory w).guest event.sender).cart)
      (S.calls (desk.respond ((S.memory w).guest event.sender) event)
        (S.run (Desk.loadCustomer event.sender) w).2) := by
  have hmet := S.met_dispatch (S.met_any (desk.dispatch event) w)
  rw [desk.respond_of_understand hask] at hmet ⊢
  rcases Desk.handleDeliveryAddress_ordersOnce.run hmet with
    hnone | ⟨before, _, after, ⟨_, _, _, _, -, rfl⟩, hcalls⟩
  · exact .inl hnone
  · exact .inr ⟨before, _, after, rfl, hcalls⟩

/-- A dispatch writes at most once after its sender is known, or it makes an order. -/
theorem calls_cases (desk : Desk) (event : Chat.Event) (w : W) :
    (∃ ds, writes (S.calls (desk.dispatch event) w) = (S.memory w).greeting event.sender ++ ds ∧
      ds.length ≤ 1 ∧ ∀ o, Store.Call.saveOrder o ∉ ds) ∨
    ∃ order before after, S.Orders desk event w order before after := by
  obtain ⟨ds, hds, hdeed⟩ := S.writes_dispatch (S.met_any (desk.dispatch event) w)
  rcases hdeed with rfl | ⟨q, hask, hdeed⟩
  · exact .inl ⟨[], hds, Nat.zero_le _, fun o => List.not_mem_nil⟩
  · cases hdeed with
    | nothing => exact .inl ⟨[], hds, Nat.zero_le _, fun o => List.not_mem_nil⟩
    | move hmove => exact .inl ⟨_, hds, Nat.le_refl _, fun o => by simp⟩
    | pay htext => exact .inl ⟨_, hds, Nat.le_refl _, fun o => by simp⟩
    | order hstep haddress =>
      -- the deed does not say where its calls stand among the others
      have hknown : (S.memory w).greeting event.sender = [] :=
        Memory.greeting_of_step (by rw [hstep]; exact Step.noConfusion)
      have hload := (S.run_load event.sender w).2.trans hknown
      rcases S.ordersOnce_respond hask with
        hnone | ⟨before, order, after, hcart, hbefore, hafter, hrespond⟩
      · have hwrites : writes (S.calls (desk.dispatch event) w) = [] := by
          rw [S.calls_dispatch, writes_append, hload, hnone, List.append_nil]
        rw [hwrites, hknown] at hds
        cases hds
      · refine .inr ⟨order, S.calls (Desk.loadCustomer event.sender) w ++ before, after, hstep,
          hcart, ?_, hafter, ?_⟩
        · rw [writes_append, hload, hbefore, List.append_nil]
        · rw [S.calls_dispatch, hrespond, List.append_assoc]

/-! ## Cuts -/

/-- A dispatch that is cut off after `n` calls has left the store as it was, or with the sender
registered, or as the whole dispatch leaves it. -/
def AllOrNothing (desk : Desk) (event : Chat.Event) (w : W) (n : Nat) : Prop :=
  S.memory (S.cutAfter n (desk.dispatch event) w) = S.memory w ∨
    S.memory (S.cutAfter n (desk.dispatch event) w) = (S.memory w).welcome event.sender ∨
    S.memory (S.cutAfter n (desk.dispatch event) w) = S.memory (S.run (desk.dispatch event) w).2

instance {S : Surroundings W} {n : Nat} : Decidable (S.AllOrNothing desk event w n) :=
  inferInstanceAs (Decidable (_ ∨ _ ∨ _))

/-- One write after the sender is known is made or not. -/
theorem allOrNothing_of_length_le {ds : List Store.Call} (n : Nat)
    (hds : writes (S.calls (desk.dispatch event) w) = (S.memory w).greeting event.sender ++ ds)
    (hlength : ds.length ≤ 1) : S.AllOrNothing desk event w n := by
  have hgreeting : ((S.memory w).greeting event.sender).length ≤ 1 := by
    unfold Memory.greeting
    split <;> simp
  have htaken := Desk.writes_take_prefix (S.calls (desk.dispatch event) w) n
  rw [hds] at htaken
  -- what is written before the cut is a prefix of two writes: the registration and the other one
  unfold AllOrNothing
  rw [memory_cutAfter, memory_run, hds]
  rcases prefix_append_cases _ _ htaken hlength with hfirst | hwhole
  · rcases prefix_append_cases [] _ hfirst hgreeting with hnone | hregistered
    · exact .inl (by rw [List.prefix_nil.1 hnone]; rfl)
    · exact .inr (.inl (by rw [hregistered]; exact Memory.foldl_greeting _ _))
  · exact .inr (.inr (by rw [hwhole]))

/-- Where no order is kept, no cut comes right before one is. -/
theorem next_ne_saveOrder {ds : List Store.Call} {n : Nat} {o : Order}
    (hds : writes (S.calls (desk.dispatch event) w) = (S.memory w).greeting event.sender ++ ds)
    (hsave : ∀ o, Store.Call.saveOrder o ∉ ds) :
    (S.calls (desk.dispatch event) w)[n]? ≠ some (.store (.saveOrder o)) := by
  intro hnext
  have hwrite : Store.Call.saveOrder o ∈ writes (S.calls (desk.dispatch event) w) :=
    List.mem_filterMap.2 ⟨_, List.mem_of_getElem? hnext, rfl⟩
  rw [hds] at hwrite
  rcases List.mem_append.1 hwrite with hgreeting | hwrite
  · unfold Memory.greeting at hgreeting
    split at hgreeting <;> simp at hgreeting
  · exact hsave o hwrite

end Surroundings

/-- A record that is emptied is not the record before. -/
theorem Store.Memory.putCustomer_clearing_ne {m : Memory} {c : Customer}
    (hc : m.customer? c.id = some c)
    (hstep : c.step = .deliveryAddress) : m.putCustomer (c.apply .clearing) ≠ m := by
  intro hsame
  have hfound := m.customer?_putCustomer (c.apply .clearing)
  rw [hsame] at hfound
  have hrecord : c = c.apply .clearing := Option.some.inj (hc.symm.trans hfound)
  have hidle : c.step = .idle := congrArg Customer.step hrecord
  rw [hstep] at hidle
  cases hidle

namespace Surroundings.Orders

variable {W : Type} {S : Surroundings W} {desk : Desk} {event : Chat.Event} {w : W} {order : Order}
  {before after : List Call} {n : Nat}

/-- Whoever is asked for the address is known. -/
theorem customer? (h : S.Orders desk event w order before after) :
    (S.memory w).welcome event.sender = S.memory w ∧
      (S.memory w).customer? ((S.memory w).guest event.sender).id =
        some ((S.memory w).guest event.sender) := by
  have hidle : ((S.memory w).guest event.sender).step ≠ .idle := by
    rw [h.step]
    exact Step.noConfusion
  have hknown := Memory.welcome_of_step hidle
  have hc := Memory.customer?_welcome (S.memory w) event.sender
  rw [hknown] at hc
  exact ⟨hknown, hc⟩

/-- The store between the two calls. -/
theorem memory_between (h : S.Orders desk event w order before after) :
    (writes (before ++
        [.store (.updateCustomer ((S.memory w).guest event.sender).id .clearing)])).foldl
        Memory.after (S.memory w) =
      (S.memory w).putCustomer (((S.memory w).guest event.sender).apply .clearing) := by
  rw [writes_append, h.writes_before, List.nil_append]
  exact Memory.foldl_updateCustomer h.customer?.2 .clearing

/-- The store after both calls. -/
theorem memory_both (h : S.Orders desk event w order before after) {later : List Call}
    (hlater : writes later = []) :
    (writes (before ++ .store (.updateCustomer ((S.memory w).guest event.sender).id .clearing) ::
        .store (.saveOrder order) :: later)).foldl Memory.after (S.memory w) =
      ((S.memory w).putCustomer
        (((S.memory w).guest event.sender).apply .clearing)).saveOrder order := by
  rw [writes_append, h.writes_before, writes_cons_of_some rfl, writes_cons_of_some rfl, hlater,
    List.nil_append]
  exact Memory.foldl_order h.customer?.2 .clearing order

theorem memory_run (h : S.Orders desk event w order before after) :
    S.memory (S.run (desk.dispatch event) w).2 =
      ((S.memory w).putCustomer
        (((S.memory w).guest event.sender).apply .clearing)).saveOrder order := by
  rw [S.memory_run, h.calls, h.memory_both h.writes_after]

/-- Where a dispatch that makes an order can be cut: before it takes the cart, between the two
calls, or after them. -/
theorem cut_cases (h : S.Orders desk event w order before after) (n : Nat) :
    (S.memory (S.cutAfter n (desk.dispatch event) w) = S.memory w ∧
      ∀ o, (S.calls (desk.dispatch event) w)[n]? ≠ some (.store (.saveOrder o))) ∨
    (S.memory (S.cutAfter n (desk.dispatch event) w) =
        (S.memory w).putCustomer (((S.memory w).guest event.sender).apply .clearing) ∧
      (S.calls (desk.dispatch event) w)[n]? = some (.store (.saveOrder order))) ∨
    (S.memory (S.cutAfter n (desk.dispatch event) w) = S.memory (S.run (desk.dispatch event) w).2 ∧
      ∀ o, (S.calls (desk.dispatch event) w)[n]? ≠ some (.store (.saveOrder o))) := by
  rw [memory_cutAfter]
  rcases Desk.take_two_cases h.calls n with ⟨htake, hnext⟩ | ⟨htake, hnext⟩ | ⟨k, htake, hnext⟩
  · have htaken : writes (before.take n) = [] :=
      List.prefix_nil.1 (h.writes_before ▸ Desk.writes_take_prefix before n)
    refine .inl ⟨by rw [htake, htaken, List.foldl_nil], fun o ho => ?_⟩
    rcases hnext _ ho with hmem | hfirst
    · exact Desk.saveOrder_not_mem h.writes_before o hmem
    · cases hfirst
  · exact .inr (.inl ⟨by rw [htake, h.memory_between], hnext⟩)
  · have htaken : writes (after.take k) = [] :=
      List.prefix_nil.1 (h.writes_after ▸ Desk.writes_take_prefix after k)
    refine .inr (.inr ⟨by rw [htake, h.memory_both htaken, h.memory_run], fun o ho => ?_⟩)
    exact Desk.saveOrder_not_mem h.writes_after o (hnext _ ho)

/-- Between the two calls the store is neither as before nor as after the whole dispatch. -/
theorem not_allOrNothing (h : S.Orders desk event w order before after)
    (hcut : S.memory (S.cutAfter n (desk.dispatch event) w) =
      (S.memory w).putCustomer (((S.memory w).guest event.sender).apply .clearing)) :
    ¬ S.AllOrNothing desk event w n := by
  obtain ⟨hknown, hc⟩ := h.customer?
  have hchanged := Memory.putCustomer_clearing_ne hc h.step
  rw [← hcut] at hchanged
  rintro (hsame | hregistered | hdone)
  · exact hchanged hsame
  · exact hchanged (hregistered.trans hknown)
  · -- the whole dispatch keeps one order more
    have hlength := congrArg (fun m : Memory => m.orders.length)
      (hcut.symm.trans (hdone.trans h.memory_run))
    simp [Memory.saveOrder] at hlength

end Surroundings.Orders

namespace Surroundings

variable {W : Type} (S : Surroundings W)

/-- A dispatch that is cut off leaves all or nothing exactly when the cut does not come right before
an order is kept.  If it does, the cart that is ordered has left its customer and is in no order. -/
theorem allOrNothing_iff (desk : Desk) (event : Chat.Event) (w : W) (n : Nat) :
    (S.AllOrNothing desk event w n ↔
      ∀ o, (S.calls (desk.dispatch event) w)[n]? ≠ some (.store (.saveOrder o))) ∧
    ∀ o, (S.calls (desk.dispatch event) w)[n]? = some (.store (.saveOrder o)) →
      o.cart = ((S.memory w).guest event.sender).cart ∧
      (S.memory (S.cutAfter n (desk.dispatch event) w)).cart? event.sender.id = some .empty ∧
      (S.memory (S.cutAfter n (desk.dispatch event) w)).orders = (S.memory w).orders ∧
      (S.memory (S.run (desk.dispatch event) w).2).orders = (S.memory w).orders ++ [o] := by
  rcases S.calls_cases desk event w with ⟨ds, hds, hlength, hsave⟩ | ⟨order, before, after, h⟩
  · have hnext : ∀ o, (S.calls (desk.dispatch event) w)[n]? ≠ some (.store (.saveOrder o)) :=
      fun o => S.next_ne_saveOrder hds hsave
    exact ⟨⟨fun _ => hnext, fun _ => S.allOrNothing_of_length_le n hds hlength⟩,
      fun o ho => absurd ho (hnext o)⟩
  · rcases h.cut_cases n with ⟨hcut, hnext⟩ | ⟨hcut, hnext⟩ | ⟨hcut, hnext⟩
    · exact ⟨⟨fun _ => hnext, fun _ => .inl hcut⟩, fun o ho => absurd ho (hnext o)⟩
    · have hbroken := h.not_allOrNothing hcut
      refine ⟨⟨fun hall => absurd hall hbroken, fun hno => absurd hnext (hno order)⟩,
        fun o ho => ?_⟩
      obtain rfl : order = o := by simpa using hnext.symm.trans ho
      refine ⟨h.cart, ?_, ?_, ?_⟩
      · rw [hcut, ← Memory.guest_id (S.memory w) event.sender]
        exact Memory.cart?_putCustomer _ (Customer.apply .clearing _)
      · rw [hcut, Memory.putCustomer_orders]
      · rw [h.memory_run]
        exact congrArg (· ++ [order]) (Memory.putCustomer_orders _ _)
    · exact ⟨⟨fun _ => hnext, fun _ => .inr (.inr hcut)⟩, fun o ho => absurd ho (hnext o)⟩

end Surroundings

/-- The last event of a purchase, cut off after five calls, leaves neither all nor nothing. -/
theorem Purchase.cart_lost : ¬ ∀ (history : List Occurrence) (event : Chat.Event) (n : Nat),
    World.surroundings.AllOrNothing Desk.bare event (opening.after Desk.bare history) n :=
  fun h => absurd (h untilAddress address 5) (by decide +kernel)

end OrderDesk
