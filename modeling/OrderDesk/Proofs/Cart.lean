import OrderDesk.Conversation.CartEditing

/-!
# Lines of a cart

Taking a line out of a cart puts the last one into its place (`getElem?_swapRemove`), so carts are
compared up to the order of their lines: a line that is taken out is the only one that is missing
afterwards (`withoutLine_perm`), and a line that is added is the only new one.  A position is what
its draft says (`Draft.complete?_eq_some_iff`).
-/

namespace OrderDesk

/-! ## Drafts and positions -/

/-- A draft is complete as a position when it says all that the position says. -/
theorem Draft.complete?_eq_some_iff {d : Draft} {p : Position} :
    d.complete? = some p ↔
      d = ⟨p.id, some p.size, some p.button, p.category, some p.priceYuan, some p.priceRub,
        some p.shopLink⟩ := by
  obtain ⟨id, size, button, category, priceYuan, priceRub, shopLink⟩ := d
  obtain ⟨id', shopLink', size', button', category', priceYuan', priceRub'⟩ := p
  cases shopLink <;> cases size <;> cases button <;> cases priceYuan <;> cases priceRub <;>
    simp [complete?]
  grind

/-! ## Taking out -/

theorem set_last_eq {α : Type} {xs : List α} (h : xs ≠ []) (a : α) :
    xs.set (xs.length - 1) a = xs.dropLast ++ [a] := by
  have hlast : xs.length - 1 < xs.length := Nat.sub_one_lt (Nat.ne_of_gt (List.length_pos_iff.2 h))
  have hdrop : xs.drop (xs.length - 1 + 1) = [] := List.drop_eq_nil_of_le (by omega)
  rw [List.set_eq_take_append_cons_drop, if_pos hlast, List.dropLast_eq_take, hdrop]

theorem swapRemove_eq {α : Type} {xs : List α} {i : Nat} (h : i < xs.length) :
    swapRemove xs i = (xs.set i xs[xs.length - 1]).dropLast := by
  rw [swapRemove, List.getLast?_eq_getElem?, List.getElem?_eq_getElem (by omega)]

/-- The last element takes the place of the one that is taken out. -/
theorem swapRemove_perm {α : Type} {xs : List α} {i : Nat} (h : i < xs.length) :
    xs.Perm (xs[i] :: swapRemove xs i) := by
  have hlast : xs.length - 1 < xs.length := by omega
  have hset : (xs.set i xs[xs.length - 1]) ≠ [] :=
    List.ne_nil_of_length_pos (by rw [List.length_set]; omega)
  have hswapped := set_last_eq hset xs[i]
  rw [List.length_set, ← swapRemove_eq h] at hswapped
  calc xs.Perm ((xs.set i xs[xs.length - 1]).set (xs.length - 1) xs[i]) :=
        (List.set_set_perm h hlast).symm
    _ = swapRemove xs i ++ [xs[i]] := hswapped
    List.Perm _ (xs[i] :: swapRemove xs i) := List.perm_append_singleton _ _

/-- The last element comes to the place that has become free, and the others stay where they are. -/
theorem getElem?_swapRemove {α : Type} {xs : List α} {i : Nat} (h : i < xs.length) (j : Nat) :
    (swapRemove xs i)[j]? =
      if j + 1 < xs.length then (if j = i then xs[xs.length - 1]? else xs[j]?) else none := by
  rw [swapRemove_eq h, List.getElem?_dropLast, List.length_set]
  by_cases hj : j + 1 < xs.length
  · rw [if_pos hj, if_pos (by omega)]
    by_cases hji : j = i
    · subst hji
      rw [if_pos rfl, List.getElem?_set_self h, List.getElem?_eq_getElem (by omega)]
    · rw [if_neg hji, List.getElem?_set_ne (Ne.symm hji)]
  · rw [if_neg hj, if_neg (by omega)]

namespace Cart

variable {cart : Cart}

theorem remove_of_find?_eq_none {id : Uuid} (h : cart.lines.find? (·.id == id) = none) :
    cart.remove id = (cart, false) := by
  have hindex : cart.indexOf? id = none :=
    List.findIdx?_eq_none_iff.2 fun p hp => eq_false_of_ne_true (List.find?_eq_none.1 h p hp)
  rw [remove, hindex]

/-- A removal that finds a line takes out the first one with the identifier. -/
theorem remove_of_find?_eq_some {id : Uuid} {p : Position}
    (h : cart.lines.find? (·.id == id) = some p) :
    ∃ rest, cart.remove id = (rest, true) ∧ cart.lines.Perm (p :: rest.lines) := by
  rw [List.find?_eq_bind_findIdx?_getElem?] at h
  obtain ⟨i, hindex, hi⟩ := Option.bind_eq_some_iff.1 h
  obtain ⟨hlt, rfl⟩ := List.getElem?_eq_some_iff.1 hi
  refine ⟨⟨swapRemove cart.lines i⟩, ?_, swapRemove_perm hlt⟩
  have hindex : cart.indexOf? id = some i := hindex
  rw [remove, hindex]

/-- Where identifiers are distinct, a line is found by its own. -/
theorem indexOf?_of_nodup {i : Nat} {p : Position} (hids : (cart.lines.map (·.id)).Nodup)
    (hp : cart.lines[i]? = some p) : cart.indexOf? p.id = some i := by
  obtain ⟨hi, rfl⟩ := List.getElem?_eq_some_iff.1 hp
  refine List.findIdx?_eq_some_iff_getElem.2 ⟨hi, beq_self_eq_true _, fun j hj => ?_⟩
  have hne : cart.lines[j].id ≠ cart.lines[i].id := by
    have hapart := List.pairwise_iff_getElem.1 hids j i (by simpa using Nat.lt_trans hj hi)
      (by simpa using hi) hj
    simpa using hapart
  simpa using hne

end Cart

/-- Taking out the line of a number takes out a line with its identifier. -/
theorem Desk.withoutLine_found {cart : Cart} {index : Nat} {p : Position}
    (hp : cart.get? index = some p) :
    ∃ q, q.id = p.id ∧ cart.lines.Perm (q :: (withoutLine cart index).lines) := by
  -- the first line with the identifier, which is there since `p` is
  obtain ⟨q, hq⟩ : ∃ q, cart.lines.find? (·.id == p.id) = some q :=
    Option.isSome_iff_exists.1 (List.find?_isSome.2 ⟨p, List.mem_of_getElem? hp, by simp⟩)
  obtain ⟨rest, hremove, hperm⟩ := Cart.remove_of_find?_eq_some hq
  have hleft : withoutLine cart index = rest := by
    rw [withoutLine, hp]
    exact congrArg Prod.fst hremove
  exact ⟨q, by simpa using List.find?_some hq, hleft ▸ hperm⟩

/-- Taking out the line of a number takes out one line, or none where there is no such line. -/
theorem Desk.withoutLine_perm (cart : Cart) (index : Nat) :
    (∃ p, cart.lines.Perm (p :: (withoutLine cart index).lines)) ∨
      withoutLine cart index = cart := by
  cases hp : cart.get? index with
  | some p =>
    obtain ⟨q, -, hperm⟩ := withoutLine_found hp
    exact .inl ⟨q, hperm⟩
  | none => exact .inr (by rw [withoutLine, hp])

/-- Where identifiers are distinct, it is the line of that number that is taken out. -/
theorem Desk.withoutLine_of_nodup {cart : Cart} {i : Nat} {p : Position}
    (hids : (cart.lines.map (·.id)).Nodup) (hp : cart.lines[i]? = some p) :
    withoutLine cart i = ⟨swapRemove cart.lines i⟩ := by
  rw [withoutLine, Cart.get?, hp]
  dsimp only
  rw [Cart.remove, Cart.indexOf?_of_nodup hids hp]

theorem Desk.withoutLine_of_le {cart : Cart} {i : Nat} (h : cart.size ≤ i) :
    withoutLine cart i = cart := by
  rw [withoutLine, Cart.get?, List.getElem?_eq_none h]

theorem Desk.mem_withoutLine {cart : Cart} {index : Nat} {p : Position}
    (h : p ∈ (withoutLine cart index).lines) : p ∈ cart.lines := by
  rcases withoutLine_perm cart index with ⟨removed, hperm⟩ | hsame
  · exact hperm.mem_iff.2 (List.mem_cons_of_mem _ h)
  · rwa [hsame] at h

theorem Desk.withoutLine_size (cart : Cart) (index : Nat) :
    (withoutLine cart index).size ≤ cart.size := by
  rcases withoutLine_perm cart index with ⟨removed, hperm⟩ | hsame
  · have hlength := hperm.length_eq
    rw [List.length_cons] at hlength
    exact Nat.le_of_lt (Nat.lt_of_succ_le (Nat.le_of_eq hlength.symm))
  · exact Nat.le_of_eq (congrArg Cart.size hsame)

theorem Cart.add_size (cart : Cart) (p : Position) : (cart.add p).size = cart.size + 1 := by
  simp [Cart.add, Cart.size]

end OrderDesk
