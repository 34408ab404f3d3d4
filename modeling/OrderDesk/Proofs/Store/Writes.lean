import OrderDesk.Proofs.Store.Customers

/-!
# What calls write

Most calls only read.  `Call.write?` gives the write of a call that has one, and brings the two ways
of changing a customer's step into one form.  `Memory.after` is the store after a call; it does not
depend on what is drawn for the call, is the store itself after a call that does not write
(`after_of_reads`), and is the same for a call and for its write (`after_write?`).  Customers are
never lost (`customer?_after`).
-/

namespace OrderDesk.Store

/-- The write of a call, if it has one.  A change of the step is a change of the record. -/
def Call.write? : Call → Option Call
  | updateStep id s => some (.updateCustomer id { Customer.Update.none with step := some s })
  | customer _ => none
  | catalog => none
  | rankOf _ => none
  | idAt _ => none
  | order _ => none
  | freeShortId => none
  | ordersOf _ => none
  | c => some c

/-- What does not depend on a change of one element is the same for all elements after it. -/
theorem map_modify {α β : Type} {g : α → β} {f : α → α} (hf : ∀ x, g (f x) = g x) (list : List α)
    (i : Nat) : (list.modify i f).map g = list.map g := by
  induction list generalizing i with
  | nil => simp
  | cons x list ih =>
    cases i with
    | zero => simp [hf]
    | succ i => simp [ih]

namespace Memory

variable {m : Memory} {c : Customer} {id : Int64}

/-- The store after a call. -/
def after (m : Memory) (c : Call) : Memory := (m.serve (fun _ => "") 0 c).2.memory

/-- What is drawn for a call does not show in the store. -/
theorem serve_memory (m : Memory) (next : Nat → String) (drawn : Nat) (c : Call) :
    (m.serve next drawn c).2.memory = m.after c := by
  cases c with
  | updateCustomer id u =>
    simp only [after, serve]
    cases m.updateCustomer id u <;> rfl
  | updateStep id s =>
    simp only [after, serve]
    cases m.updateCustomer id { Customer.Update.none with step := some s } <;> rfl
  | removeItem id =>
    simp only [after, serve]
    cases m.removeItem id <;> rfl
  | swapRanks up down =>
    simp only [after, serve]
    cases m.swapRanks up down <;> rfl
  | markPaid id shortId =>
    simp only [after, serve]
    cases m.markPaid id shortId <;> rfl
  | _ => rfl

/-- A call that does not write leaves the store as it is. -/
theorem after_of_reads {call : Call} (h : call.write? = none) : m.after call = m := by
  cases call <;> first | rfl | simp [Call.write?] at h

/-- A call and its write leave the same behind. -/
theorem after_write? {call write : Call} (h : call.write? = some write) :
    m.after call = m.after write := by
  cases call <;> simp only [Call.write?, Option.some.injEq, reduceCtorEq] at h <;> subst h <;> rfl

/-! ## The writes of the desk -/

theorem after_updateCustomer (h : m.customer? id = some c) (u : Customer.Update) :
    m.after (.updateCustomer id u) = m.putCustomer (c.apply u) := by
  simp only [after, serve, updateCustomer, h, settle]

theorem after_updateCustomer_of_none (h : m.customer? id = none) (u : Customer.Update) :
    m.after (.updateCustomer id u) = m := by
  simp only [after, serve, updateCustomer, h, settle]

/-- The store after one change of a record. -/
theorem foldl_updateCustomer (h : m.customer? id = some c) (u : Customer.Update) :
    [Call.updateCustomer id u].foldl after m = m.putCustomer (c.apply u) :=
  after_updateCustomer h u

/-- The store after a change of a record and an order. -/
theorem foldl_order (h : m.customer? id = some c) (u : Customer.Update) (o : Order) :
    [Call.updateCustomer id u, .saveOrder o].foldl after m =
      (m.putCustomer (c.apply u)).saveOrder o := by
  rw [List.foldl_cons, after_updateCustomer h]
  rfl

/-- The orders with the payment of one of them noted. -/
theorem after_markPaid (shortId : String) :
    m.after (.markPaid id shortId) =
      match m.orders.findIdx? fun o => o.shortId == shortId && o.buyer.id == id with
      | some i => { m with orders := m.orders.modify i fun o => { o with isPaid := true } }
      | none => m := by
  simp only [after, serve, markPaid]
  cases m.orders.findIdx? fun o => o.shortId == shortId && o.buyer.id == id <;> rfl

@[simp] theorem after_markPaid_customers (shortId : String) :
    (m.after (.markPaid id shortId)).customers = m.customers := by
  rw [after_markPaid]
  split <;> rfl

/-- What does not depend on the payment is the same for all orders after a payment was noted. -/
theorem map_markPaid {β : Type} {f : Order → β}
    (hf : ∀ o : Order, f { o with isPaid := true } = f o) (shortId : String) :
    (m.after (.markPaid id shortId)).orders.map f = m.orders.map f := by
  rw [after_markPaid]
  split
  · exact map_modify hf _ _
  · rfl

/-- An order kept after a payment was noted was kept before, but for the payment. -/
theorem mem_markPaid {shortId : String} {o : Order}
    (h : o ∈ (m.after (.markPaid id shortId)).orders) :
    o ∈ m.orders ∨ ∃ old ∈ m.orders, o = { old with isPaid := true } := by
  rw [after_markPaid] at h
  split at h
  · obtain ⟨i, hi, rfl⟩ := List.mem_iff_getElem.1 h
    rw [List.getElem_modify]
    split
    · exact .inr ⟨_, List.getElem_mem _, rfl⟩
    · exact .inl (List.getElem_mem _)
  · exact .inl h

/-! ## The writes of those who manage the catalogue -/

theorem after_addItem (item : Catalog.Item) : ∃ items, m.after (.addItem item) = { m with items } :=
  ⟨_, rfl⟩

theorem after_removeItem (i : Uuid) : ∃ items, m.after (.removeItem i) = { m with items } := by
  simp only [after, serve, removeItem]
  split
  · exact ⟨_, rfl⟩
  · exact ⟨m.items, rfl⟩

theorem after_swapRanks (i j : Uuid) : ∃ items, m.after (.swapRanks i j) = { m with items } := by
  simp only [after, serve, swapRanks]
  split
  · split
    · exact ⟨_, rfl⟩
    · exact ⟨m.items, rfl⟩
  · exact ⟨m.items, rfl⟩

/-! ## Replies that can be relied on -/

theorem serve_updateCustomer (h : (m.customer? id).isSome) (next : Nat → String) (drawn : Nat)
    (u : Customer.Update) : (m.serve next drawn (.updateCustomer id u)).1 = .ok () := by
  obtain ⟨c, hc⟩ := Option.isSome_iff_exists.1 h
  simp only [serve, updateCustomer, hc, settle]

theorem serve_order {shortId : String} {o : Order} {next : Nat → String} {drawn : Nat}
    (h : (m.serve next drawn (.order shortId)).1 = .ok o) : o.shortId = shortId := by
  simp only [serve, order] at h
  split at h
  · rename_i found hfound
    obtain rfl : found = o := by simpa using h
    simpa using List.find?_some hfound
  · simp at h

/-- No call keeps an identifier twice. -/
theorem Keyed.after (h : m.Keyed) (call : Call) : (m.after call).Keyed := by
  have update : ∀ id u, (m.after (.updateCustomer id u)).Keyed := fun id u => by
    cases hc : m.customer? id with
    | none => rwa [after_updateCustomer_of_none hc]
    | some c => rw [after_updateCustomer hc]; exact h.putCustomer _
  cases call with
  | saveCustomer c => exact h.putCustomer c
  | updateCustomer id u => exact update id u
  | updateStep id s => exact update id _
  | resetOffsets => exact h.resetOffsets
  | removeItem i =>
    obtain ⟨items, hitems⟩ := after_removeItem (m := m) i
    rw [hitems]
    exact h
  | swapRanks i j =>
    obtain ⟨items, hitems⟩ := after_swapRanks (m := m) i j
    rw [hitems]
    exact h
  | markPaid i s =>
    rw [Keyed, after_markPaid_customers]
    exact h
  | _ => exact h

/-- A customer that is kept stays kept. -/
theorem customer?_after (h : (m.customer? id).isSome) (call : Call) :
    ((m.after call).customer? id).isSome := by
  have put : ∀ c, ((m.putCustomer c).customer? id).isSome := fun c => by
    by_cases hc : c.id = id
    · rw [← hc, customer?_putCustomer]; rfl
    · rwa [customer?_putCustomer_of_ne hc]
  have update : ∀ id' u, ((m.after (.updateCustomer id' u)).customer? id).isSome := fun id' u => by
    cases hc : m.customer? id' with
    | none => rwa [after_updateCustomer_of_none hc]
    | some c => rw [after_updateCustomer hc]; exact put _
  cases call with
  | saveCustomer c => exact put c
  | updateCustomer id' u => exact update id' u
  | updateStep id' s => exact update id' _
  | resetOffsets =>
    simp only [customer?, List.find?_isSome] at h ⊢
    obtain ⟨c, hc, hid⟩ := h
    exact ⟨_, List.mem_map_of_mem hc, hid⟩
  | removeItem i =>
    obtain ⟨items, hitems⟩ := after_removeItem (m := m) i
    rw [hitems]
    exact h
  | swapRanks i j =>
    obtain ⟨items, hitems⟩ := after_swapRanks (m := m) i j
    rw [hitems]
    exact h
  | markPaid i s =>
    rw [after_markPaid]
    split <;> exact h
  | _ => exact h

end Memory

end OrderDesk.Store
