import OrderDesk.Store.Memory

/-!
# The customers kept in memory

Customers are kept under their identifiers.  A record that is put takes the place of the one with
its identifier or is appended, so it is the record found afterwards (`customer?_putCustomer`), every
other one stays (`customer?_putCustomer_of_ne`), and no identifier ever occurs twice (`Keyed`).
Counted over all customers, putting a record exchanges one entry (`putCustomer_perm`).
-/

namespace OrderDesk.Store.Memory

variable {m : Memory} {c d old x : Customer} {id : Int64}

/-! ## What is put -/

@[simp] theorem putCustomer_orders (m : Memory) (c : Customer) :
    (m.putCustomer c).orders = m.orders := by
  unfold putCustomer; split <;> rfl

@[simp] theorem putCustomer_items (m : Memory) (c : Customer) :
    (m.putCustomer c).items = m.items := by
  unfold putCustomer; split <;> rfl

/-- A customer kept after a record was put is that record, or was kept before under another
identifier. -/
theorem mem_putCustomer (h : x ∈ (m.putCustomer c).customers) :
    x = c ∨ x ∈ m.customers ∧ x.id ≠ c.id := by
  unfold putCustomer at h
  split at h
  · obtain ⟨old, hold, rfl⟩ := List.mem_map.1 h
    by_cases hid : old.id = c.id
    · exact .inl (by simp [hid])
    · exact .inr (by simp [hid, hold])
  · rename_i hnew
    rcases List.mem_append.1 h with hx | hx
    · exact .inr ⟨hx, fun hid => hnew (List.any_eq_true.2 ⟨x, hx, by simp [hid]⟩)⟩
    · exact .inl (List.mem_singleton.1 hx)

/-! ## What is found -/

theorem customer?_mem (h : m.customer? id = some c) : c ∈ m.customers :=
  List.mem_of_find?_eq_some h

theorem customer?_id (h : m.customer? id = some c) : c.id = id := by
  simpa using List.find?_some h

theorem customer?_isSome_iff : (m.customer? id).isSome ↔ m.customers.any (·.id == id) := by
  rw [customer?, List.find?_isSome, List.any_eq_true]

/-- Looking up after one record has been exchanged for another of the same identifier. -/
theorem find?_exchange (c : Customer) (xs : List Customer) (id : Int64) :
    (xs.map fun old => if old.id == c.id then c else old).find? (·.id == id) =
      if c.id = id then (xs.find? (·.id == id)).map fun _ => c else xs.find? (·.id == id) := by
  induction xs with
  | nil => simp
  | cons y ys ih =>
    by_cases hy : y.id = c.id <;> by_cases hc : c.id = id <;> by_cases hyi : y.id = id <;>
      simp_all

@[simp] theorem customer?_putCustomer (m : Memory) (c : Customer) :
    (m.putCustomer c).customer? c.id = some c := by
  unfold putCustomer customer?
  split
  · rename_i h
    obtain ⟨old, hold⟩ := Option.isSome_iff_exists.1 (customer?_isSome_iff.2 h)
    rw [customer?] at hold
    rw [find?_exchange, if_pos rfl, hold]
    rfl
  · rename_i h
    have hnone : m.customers.find? (·.id == c.id) = none := by
      simpa [customer?] using mt customer?_isSome_iff.1 h
    simp [List.find?_append, hnone]

theorem customer?_putCustomer_of_ne (h : c.id ≠ id) :
    (m.putCustomer c).customer? id = m.customer? id := by
  unfold putCustomer customer?
  split
  · rw [find?_exchange, if_neg h]
  · simp [List.find?_append, h]

theorem customer?_resetOffsets :
    m.resetOffsets.customer? id = (m.customer? id).map fun c => { c with catalogOffset := 0 } := by
  simp only [customer?, resetOffsets, List.find?_map]
  rfl

/-- Of two records put under one identifier the second is kept. -/
theorem putCustomer_putCustomer (h : c.id = d.id) :
    (m.putCustomer c).putCustomer d = m.putCustomer d := by
  have hkept : (m.putCustomer c).customers.any (·.id == d.id) :=
    customer?_isSome_iff.1 (by rw [← h, customer?_putCustomer]; rfl)
  rw [putCustomer, if_pos hkept]
  unfold putCustomer
  rw [h]
  split
  · simp only [List.map_map]
    congr 1
    refine List.map_congr_left fun old _ => ?_
    by_cases hold : old.id = d.id <;> simp [hold, h]
  · rename_i hnew
    have hrest : m.customers.map (fun old => if old.id == d.id then d else old) = m.customers := by
      refine (List.map_congr_left fun old hold => ?_).trans (List.map_id _)
      have hne : old.id ≠ d.id := fun hid => hnew (List.any_eq_true.2 ⟨old, hold, by simp [hid]⟩)
      simp [hne]
    simpa [h] using hrest

/-! ## Identifiers -/

/-- No identifier occurs twice. -/
def Keyed (m : Memory) : Prop := (m.customers.map (·.id)).Nodup

theorem keyed_empty : Keyed empty := List.nodup_nil

theorem Keyed.putCustomer (h : m.Keyed) (c : Customer) : (m.putCustomer c).Keyed := by
  unfold Memory.putCustomer
  split
  · have hids : ((m.customers.map fun old => if old.id == c.id then c else old).map (·.id)) =
        m.customers.map (·.id) := by
      rw [List.map_map]
      refine List.map_congr_left fun old _ => ?_
      by_cases hid : old.id = c.id <;> simp [hid]
    rw [Keyed, hids]
    exact h
  · rename_i hnew
    simp only [Keyed, List.map_append, List.map_cons, List.map_nil]
    refine List.nodup_append.2 ⟨h, by simp, ?_⟩
    rintro _ ha _ hb rfl
    obtain ⟨old, hold, hid⟩ := List.mem_map.1 ha
    exact hnew (List.any_eq_true.2 ⟨old, hold, by simp_all⟩)

theorem Keyed.resetOffsets (h : m.Keyed) : m.resetOffsets.Keyed := by
  simpa [Keyed, Memory.resetOffsets, Function.comp_def] using h

/-- Exchanging the entry under one identifier, with all other entries named. -/
theorem exchange_perm {xs : List Customer} (hxs : (xs.map (·.id)).Nodup) (hold : old ∈ xs)
    (hid : old.id = c.id) :
    ∃ rest, xs.Perm (old :: rest) ∧
      (xs.map fun x => if x.id == c.id then c else x).Perm (c :: rest) := by
  induction xs with
  | nil => simp at hold
  | cons y ys ih =>
    simp only [List.map_cons, List.nodup_cons, List.mem_map, not_exists, not_and] at hxs
    rcases List.mem_cons.1 hold with rfl | hold
    · -- no other entry has the identifier
      have hrest : (ys.map fun x => if x.id == c.id then c else x) = ys := by
        refine (List.map_congr_left fun x hx => ?_).trans (List.map_id _)
        have hne : x.id ≠ c.id := fun h => hxs.1 x hx (h.trans hid.symm)
        simp [hne]
      refine ⟨ys, .refl _, ?_⟩
      rw [List.map_cons, hrest, if_pos (by simp [hid])]
    · obtain ⟨rest, hfrom, hto⟩ := ih hxs.2 hold
      have hne : y.id ≠ c.id := fun h => hxs.1 old hold (hid.trans h.symm)
      refine ⟨y :: rest, (hfrom.cons y).trans (.swap ..), ?_⟩
      simpa [hne] using (hto.cons y).trans (.swap ..)

/-- Putting a record exchanges it for the one found under its identifier, if there is one. -/
theorem Keyed.putCustomer_perm (h : m.Keyed) (c : Customer) :
    ∃ rest, m.customers.Perm ((m.customer? c.id).toList ++ rest) ∧
      (m.putCustomer c).customers.Perm (c :: rest) := by
  cases hc : m.customer? c.id with
  | none =>
    have hnew : ¬ m.customers.any (·.id == c.id) := by
      rw [← customer?_isSome_iff, hc]; simp
    refine ⟨m.customers, .refl _, ?_⟩
    rw [Memory.putCustomer, if_neg hnew]
    exact List.perm_append_singleton _ _
  | some old =>
    have hany : m.customers.any (·.id == c.id) := customer?_isSome_iff.1 (by rw [hc]; rfl)
    rw [Memory.putCustomer, if_pos hany]
    exact exchange_perm h (customer?_mem hc) (customer?_id hc)

end OrderDesk.Store.Memory
