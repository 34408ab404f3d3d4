import OrderDesk.Proofs.Store.Writes

/-!
# What customers and orders hold together

`Memory.collect` puts together what each customer and each order holds, up to order.  Putting a
record exchanges what its customer held for what the record holds (`Keyed.collect_putCustomer`),
keeping an order adds what the order holds, and nothing else matters.
-/

namespace OrderDesk.Store.Memory

variable {α : Type} {f : Customer → List α} {g : Order → List α} {m : Memory} {c old : Customer}

/-- What all customers and all orders hold. -/
def collect (f : Customer → List α) (g : Order → List α) (m : Memory) : List α :=
  m.customers.flatMap f ++ m.orders.flatMap g

/-- Putting a record exchanges what its customer held for what it holds. -/
theorem Keyed.collect_putCustomer (h : m.Keyed) (c : Customer) :
    ∃ rest, (m.collect f g).Perm (((m.customer? c.id).elim [] f) ++ rest) ∧
      ((m.putCustomer c).collect f g).Perm (f c ++ rest) := by
  obtain ⟨others, hbefore, hafter⟩ := h.putCustomer_perm c
  refine ⟨others.flatMap f ++ m.orders.flatMap g, ?_, ?_⟩
  · rw [← List.append_assoc]
    refine List.Perm.append_right _ ((hbefore.flatMap_right f).trans (.of_eq ?_))
    rw [List.flatMap_append]
    cases m.customer? c.id <;> simp
  · rw [← List.append_assoc, collect, putCustomer_orders]
    exact List.Perm.append_right _ ((hafter.flatMap_right f).trans (.of_eq List.flatMap_cons))

/-- A customer that is kept exchanges what the old record holds for what the new one holds. -/
theorem Keyed.collect_exchange {x : Customer} (h : m.Keyed) (hc : m.customer? x.id = some c) :
    ∃ rest, (m.collect f g).Perm (f c ++ rest) ∧
      ((m.putCustomer x).collect f g).Perm (f x ++ rest) := by
  obtain ⟨rest, hbefore, hafter⟩ := h.collect_putCustomer (f := f) (g := g) x
  rw [hc] at hbefore
  exact ⟨rest, hbefore, hafter⟩

/-- A record that holds what its customer held. -/
theorem Keyed.collect_putCustomer_of_eq (h : m.Keyed) (hc : f c = (m.customer? c.id).elim [] f) :
    ((m.putCustomer c).collect f g).Perm (m.collect f g) := by
  obtain ⟨rest, hbefore, hafter⟩ := h.collect_putCustomer (f := f) (g := g) c
  exact hafter.trans (hc ▸ hbefore.symm)

theorem collect_saveOrder (m : Memory) (o : Order) :
    ((m.saveOrder o).collect f g).Perm (g o ++ m.collect f g) := by
  have hcollect : (m.saveOrder o).collect f g = m.collect f g ++ g o := by
    simp [collect, saveOrder, List.append_assoc]
  exact hcollect ▸ List.perm_append_comm

/-- Paying for an order leaves it what it holds. -/
theorem collect_markPaid (hg : ∀ o : Order, g { o with isPaid := true } = g o) (id : Int64)
    (shortId : String) : (m.after (.markPaid id shortId)).collect f g = m.collect f g := by
  simp only [collect, after_markPaid_customers, List.flatMap_def, map_markPaid hg]

/-- Places in the catalogue are not held. -/
theorem collect_resetOffsets (hf : ∀ c : Customer, f { c with catalogOffset := 0 } = f c) :
    m.resetOffsets.collect f g = m.collect f g := by
  simp only [collect, resetOffsets, List.flatMap_map, hf]

end OrderDesk.Store.Memory
