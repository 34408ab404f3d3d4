import OrderDesk.Proofs.Conversation.Confinement
import OrderDesk.Proofs.Store.Writes

/-!
# One customer's portion of the store

The portion of a customer is the customer's record and orders.  What a private call is told and what
it makes of the portion depend on nothing but the portion (`SamePortion.private`), and it leaves
the portions of all others alone (`portion_of_ne`).  The two calls that look at all orders change
nothing, and with distinct short identifiers the order that is found under one belongs to the
customer if and only if it is in the portion (`order_find?`).
-/

namespace OrderDesk.Store

/-! ## Marking an order as paid -/

/-- The orders with the first one of a kind marked as paid. -/
def paidFirst (p : Order → Bool) : List Order → List Order
  | [] => []
  | o :: orders => if p o then { o with isPaid := true } :: orders else o :: paidFirst p orders

theorem paidFirst_eq (p : Order → Bool) (orders : List Order) :
    paidFirst p orders =
      match orders.findIdx? p with
      | some i => orders.modify i fun o => { o with isPaid := true }
      | none => orders := by
  induction orders with
  | nil => rfl
  | cons o orders ih =>
    rw [paidFirst, List.findIdx?_cons]
    by_cases ho : p o
    · simp [ho]
    · rw [ih]
      cases orders.findIdx? p <;> simp [ho]

/-- Marking an order of one customer concerns that customer's orders only. -/
theorem filter_paidFirst (p : Order → Bool) (id : Int64) (orders : List Order) :
    (paidFirst (fun o => p o && o.buyer.id == id) orders).filter (·.buyer.id == id) =
      paidFirst p (orders.filter (·.buyer.id == id)) := by
  induction orders with
  | nil => rfl
  | cons o orders ih =>
    by_cases hid : o.buyer.id = id <;> by_cases ho : p o <;> simp [paidFirst, hid, ho, ih]

theorem filter_paidFirst_of_ne (p : Order → Bool) {id other : Int64} (h : other ≠ id)
    (orders : List Order) :
    (paidFirst (fun o => p o && o.buyer.id == id) orders).filter (·.buyer.id == other) =
      orders.filter (·.buyer.id == other) := by
  induction orders with
  | nil => rfl
  | cons o orders ih =>
    by_cases ho : p o && o.buyer.id == id
    · have hne : o.buyer.id ≠ other := by
        intro heq
        simp only [Bool.and_eq_true, beq_iff_eq] at ho
        exact h (heq.symm.trans ho.2)
      simp only [paidFirst, ho, if_true]
      rw [List.filter_cons_of_neg (by simpa using hne), List.filter_cons_of_neg (by simpa using hne)]
    · simp only [paidFirst, ho, Bool.false_eq_true, if_false]
      rw [List.filter_cons, List.filter_cons, ih]

namespace Memory

variable {m : Memory} {c : Customer} {id other chat : Int64} {shortId : String}

theorem orders_markPaid :
    (m.after (.markPaid id shortId)).orders =
      paidFirst (fun o => o.shortId == shortId && o.buyer.id == id) m.orders := by
  rw [after_markPaid, paidFirst_eq]
  cases m.orders.findIdx? fun o => o.shortId == shortId && o.buyer.id == id <;> rfl

theorem ordersOf_markPaid :
    (m.after (.markPaid id shortId)).ordersOf id =
      paidFirst (·.shortId == shortId) (m.ordersOf id) := by
  rw [ordersOf, orders_markPaid, filter_paidFirst, ordersOf]

theorem ordersOf_markPaid_of_ne (h : other ≠ id) :
    (m.after (.markPaid id shortId)).ordersOf other = m.ordersOf other := by
  rw [ordersOf, orders_markPaid, filter_paidFirst_of_ne _ h, ordersOf]

/-- Marking succeeds where the customer has such an order. -/
theorem serve_markPaid (next : Nat → String) (drawn : Nat) :
    (m.serve next drawn (.markPaid id shortId)).1 =
      if (m.ordersOf id).any (·.shortId == shortId) then .ok ()
      else .error (.orderNotFound shortId) := by
  have hany : (m.ordersOf id).any (·.shortId == shortId) =
      (m.orders.findIdx? fun o => o.shortId == shortId && o.buyer.id == id).isSome := by
    rw [ordersOf, List.any_filter, List.findIdx?_isSome]
    exact congrArg _ (funext fun o => Bool.and_comm _ _)
  rw [hany]
  simp only [serve, markPaid]
  cases m.orders.findIdx? fun o => o.shortId == shortId && o.buyer.id == id <;> rfl

/-! ## Portions -/

/-- Two stores have the same record and the same orders of a customer. -/
structure SamePortion (id : Int64) (m m' : Memory) : Prop where
  customer : m.customer? id = m'.customer? id
  orders : m.ordersOf id = m'.ordersOf id

theorem ordersOf_putCustomer (c : Customer) : (m.putCustomer c).ordersOf id = m.ordersOf id := by
  rw [ordersOf, putCustomer_orders, ordersOf]

theorem SamePortion.putCustomer {m' : Memory} (h : SamePortion c.id m m') :
    SamePortion c.id (m.putCustomer c) (m'.putCustomer c) where
  customer := by rw [customer?_putCustomer, customer?_putCustomer]
  orders := by rw [ordersOf_putCustomer, ordersOf_putCustomer, h.orders]

/-- A private call draws nothing and announces nothing. -/
theorem serve_private {call : Call} (h : (Desk.Call.store call).Private id chat)
    (next : Nat → String) (drawn : Nat) :
    (m.serve next drawn call).2 = ⟨m.after call, drawn, none⟩ := by
  cases call with
  | updateCustomer i u =>
    simp only [after, serve]
    cases m.updateCustomer i u <;> rfl
  | updateStep i s =>
    simp only [after, serve]
    cases m.updateCustomer i { Customer.Update.none with step := some s } <;> rfl
  | markPaid i s =>
    simp only [after, serve]
    cases m.markPaid i s <;> rfl
  | _ => first | rfl | exact h.elim

/-- What a private call is told and what it makes of a portion depend on the portion only. -/
theorem SamePortion.private {m' : Memory} {call : Call} (h : SamePortion id m m')
    (hcall : (Desk.Call.store call).Private id chat) (next : Nat → String) (drawn : Nat) :
    (m.serve next drawn call).1 = (m'.serve next drawn call).1 ∧
      SamePortion id (m.after call) (m'.after call) := by
  have update : ∀ u, (m.serve next drawn (.updateCustomer id u)).1 =
        (m'.serve next drawn (.updateCustomer id u)).1 ∧
      SamePortion id (m.after (.updateCustomer id u)) (m'.after (.updateCustomer id u)) := by
    intro u
    cases hc : m.customer? id with
    | none =>
      have hc' : m'.customer? id = none := h.customer ▸ hc
      rw [after_updateCustomer_of_none hc, after_updateCustomer_of_none hc']
      simp only [serve, updateCustomer, hc, hc', settle, true_and]
      exact h
    | some c =>
      have hc' : m'.customer? id = some c := h.customer ▸ hc
      obtain rfl : c.id = id := customer?_id hc
      rw [after_updateCustomer hc, after_updateCustomer hc']
      simp only [serve, updateCustomer, hc, hc', settle, true_and]
      exact SamePortion.putCustomer (c := c.apply u) h
  cases call with
  | customer i =>
    obtain rfl : i = id := hcall
    exact ⟨by simp only [serve, h.customer], h⟩
  | saveCustomer c =>
    obtain rfl : c.id = id := hcall
    exact ⟨rfl, h.putCustomer⟩
  | updateCustomer i u =>
    obtain rfl : i = id := hcall
    exact update u
  | updateStep i s =>
    obtain rfl : i = id := hcall
    exact update { Customer.Update.none with step := some s }
  | saveOrder o =>
    refine ⟨rfl, h.customer, ?_⟩
    have horders : ∀ m : Memory, (m.after (.saveOrder o)).ordersOf id = m.ordersOf id ++ [o] := by
      intro m
      have hbuyer : o.buyer.id = id := hcall
      simp [after, serve, saveOrder, ordersOf, hbuyer]
    rw [horders, horders, h.orders]
  | ordersOf i =>
    obtain rfl : i = id := hcall
    exact ⟨by simp only [serve, h.orders], h⟩
  | markPaid i s =>
    obtain rfl : i = id := hcall
    refine ⟨by rw [serve_markPaid, serve_markPaid, h.orders], ?_, ?_⟩
    · rw [customer?, customer?, after_markPaid_customers, after_markPaid_customers]
      exact h.customer
    · rw [ordersOf_markPaid, ordersOf_markPaid, h.orders]
  | _ => exact hcall.elim

/-- A call of a dispatch leaves the portions of others as they are. -/
theorem portion_of_ne {call : Call} (hcall : (Desk.Call.store call).Allowed id chat)
    (h : other ≠ id) : SamePortion other (m.after call) m := by
  have put : ∀ c : Customer, c.id = id → SamePortion other (m.putCustomer c) m := fun c hc =>
    ⟨customer?_putCustomer_of_ne fun heq => h (heq.symm.trans hc), ordersOf_putCustomer c⟩
  have update : ∀ u, SamePortion other (m.after (.updateCustomer id u)) m := by
    intro u
    cases hc : m.customer? id with
    | none =>
      rw [after_updateCustomer_of_none hc]
      exact ⟨rfl, rfl⟩
    | some c =>
      have hid : c.id = id := customer?_id hc
      rw [after_updateCustomer hc]
      exact put (c.apply u) hid
  rcases hcall with hcall | hcall | ⟨shortId, hcall⟩
  · cases call with
    | saveCustomer c => exact put c hcall
    | updateCustomer i u =>
      obtain rfl : i = id := hcall
      exact update u
    | updateStep i s =>
      obtain rfl : i = id := hcall
      exact update { Customer.Update.none with step := some s }
    | saveOrder o =>
      refine ⟨rfl, ?_⟩
      have hbuyer : o.buyer.id ≠ other := fun heq => h (heq.symm.trans hcall)
      simp [after, serve, saveOrder, ordersOf, hbuyer]
    | markPaid i s =>
      obtain rfl : i = id := hcall
      refine ⟨?_, ordersOf_markPaid_of_ne h⟩
      rw [customer?, customer?, after_markPaid_customers]
    | customer i => exact ⟨rfl, rfl⟩
    | ordersOf i => exact ⟨rfl, rfl⟩
    | _ => exact hcall.elim
  · cases hcall
    exact ⟨rfl, rfl⟩
  · cases hcall
    exact ⟨rfl, rfl⟩

/-! ## Looking at all orders -/

/-- With distinct short identifiers, an order that is found belongs to the customer if and only if
it is one of the customer's. -/
theorem order_find? (h : (m.orders.map (·.shortId)).Nodup) :
    (m.orders.find? (·.shortId == shortId)).filter (·.buyer.id == id) =
      (m.ordersOf id).find? (·.shortId == shortId) := by
  rw [ordersOf]
  generalize m.orders = orders at h
  induction orders with
  | nil => rfl
  | cons o orders ih =>
    rw [List.map_cons, List.nodup_cons] at h
    by_cases hshort : o.shortId = shortId
    · -- the order that is found is the only one
      have hnone : (orders.filter (·.buyer.id == id)).find? (·.shortId == shortId) = none := by
        refine List.find?_eq_none.2 fun x hx heq => h.1 ?_
        have hsame : x.shortId = o.shortId := (by simpa using heq : x.shortId = shortId).trans hshort.symm
        exact hsame ▸ List.mem_map_of_mem (List.mem_filter.1 hx).1
      by_cases hid : o.buyer.id = id <;> simp [hshort, hid, hnone]
    · by_cases hid : o.buyer.id = id <;> simp [hshort, hid, ih h.2]

/-- Stores that accept the same candidates give the same short identifier. -/
theorem freeShortId_congr {m' : Memory} {next : Nat → String} (attempts drawn : Nat)
    (h : ∀ k < attempts, m.isFree (next (drawn + k)) = m'.isFree (next (drawn + k))) :
    m.freeShortId next attempts drawn = m'.freeShortId next attempts drawn := by
  induction attempts generalizing drawn with
  | zero => rfl
  | succ attempts ih =>
    have hfirst : m.isFree (next drawn) = m'.isFree (next drawn) := h 0 (Nat.zero_lt_succ _)
    have hrest : m.freeShortId next attempts (drawn + 1) = m'.freeShortId next attempts (drawn + 1) := by
      refine ih (drawn + 1) fun k hk => ?_
      rw [Nat.add_assoc, Nat.add_comm 1 k]
      exact h (k + 1) (Nat.succ_lt_succ hk)
    rw [freeShortId, freeShortId, hfirst, hrest]

end Memory

end OrderDesk.Store
