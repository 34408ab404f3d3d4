import OrderDesk.Catalog.Shelf

/-!
# Paging through a shelf

Offsets are words of 64 bits, places on a shelf are numbers.  A shelf can be paged through at an
offset (`Shelf.Navigable`) if what it says there is right for the numbers: whether there is a next
item and a previous one, which items they are, and that steps forth and back undo each other.

What is asked of the offset itself and of the place before it has the right answer at every offset
(`Shelf.LooksBack`), since a step back is only made from offsets above 0.  What comes after has one
as long as the sum of the offset and 1 is a word.  At the greatest offset the program stops on that
question, whatever there is on the shelf (`next_of_greatest`), so a shelf can be paged through at
every other offset and not at this one (`navigable_iff`).

No customer gets there: offsets of items and what `clamp` gives never are the greatest one
(`Has.navigable`).
-/

namespace OrderDesk.Catalog.Shelf

variable {s : Shelf} {offset : UInt64}

/-- The item is that of place `k` if the place is `found`, and the sentinel if it is not. -/
structure Yields (s : Shelf) (found : Prop) (k : Nat) (item : Item) : Prop where
  inside : found → s.items[k]? = some item
  outside : ¬ found → item = Item.sentinel

/-- All that the shelf says of an offset and of the place before it is right. -/
structure LooksBack (s : Shelf) (offset : UInt64) : Prop where
  hasPrev_iff : s.hasPrev offset ↔ 0 < offset.toNat ∧ offset.toNat < s.size
  prev : s.Yields (0 < offset.toNat ∧ offset.toNat < s.size) (offset.toNat - 1) (s.prev offset)
  itemAt : s.Yields (offset.toNat < s.size) offset.toNat (s.itemAt offset)
  clamp : (s.clamp offset).toNat = if offset.toNat < s.size then offset.toNat else 0
  /-- A step forth undoes a step back. -/
  forth : s.hasPrev offset →
    s.hasNext (offset - 1) = .ok true ∧ s.next (offset - 1) = .ok (s.itemAt offset)

/-- All that the shelf says at an offset is there and right for the numbers of its places. -/
structure Navigable (s : Shelf) (offset : UInt64) : Prop extends LooksBack s offset where
  hasNext_eq : s.hasNext offset = .ok (decide (offset.toNat + 1 < s.size))
  next : ∃ item, s.next offset = .ok item ∧
    s.Yields (offset.toNat + 1 < s.size) (offset.toNat + 1) item
  /-- A step back undoes a step forth. -/
  back : s.hasNext offset = .ok true →
    s.hasPrev (offset + 1) ∧ s.prev (offset + 1) = s.itemAt offset

/-! ## The offset after -/

theorem after_eq_ok (hfits : offset.toNat + 1 < UInt64.size) : after offset = .ok (offset + 1) :=
  if_pos hfits

theorem after_eq_error (hgreatest : offset.toNat + 1 = UInt64.size) :
    after offset = .error .overflow :=
  if_neg (Nat.not_lt_of_le (Nat.le_of_eq hgreatest.symm))

theorem toNat_succ (hfits : offset.toNat + 1 < UInt64.size) :
    (offset + 1).toNat = offset.toNat + 1 := by
  rw [UInt64.toNat_add]
  exact Nat.mod_eq_of_lt hfits

theorem hasNext_of_fits (s : Shelf) (hfits : offset.toNat + 1 < UInt64.size) :
    s.hasNext offset = .ok (decide (offset.toNat + 1 < s.size)) := by
  rw [hasNext, after_eq_ok hfits, ← toNat_succ hfits]
  rfl

theorem next_of_fits (s : Shelf) (hfits : offset.toNat + 1 < UInt64.size) :
    s.next offset =
      .ok (if offset.toNat + 1 < s.size then s.itemAt (offset + 1) else .sentinel) := by
  rw [next, hasNext_of_fits s hfits, after_eq_ok hfits]
  by_cases hin : offset.toNat + 1 < s.size
  · rw [decide_eq_true hin, if_pos hin]
    rfl
  · rw [decide_eq_false hin, if_neg hin]
    rfl

/-- At the greatest offset nothing is said about what comes after. -/
theorem next_of_greatest (s : Shelf) (hgreatest : offset.toNat + 1 = UInt64.size) :
    s.hasNext offset = .error .overflow ∧ s.next offset = .error .overflow := by
  have hnext : s.hasNext offset = .error .overflow := by
    rw [hasNext, after_eq_error hgreatest]
    rfl
  refine ⟨hnext, ?_⟩
  rw [next, hnext]
  rfl

theorem fits_or_greatest (offset : UInt64) :
    offset.toNat + 1 < UInt64.size ∨ offset.toNat + 1 = UInt64.size :=
  Nat.lt_or_eq_of_le offset.toNat_lt

/-- There is an item after an offset exactly if its place is a word and on the shelf. -/
theorem hasNext_eq_true_iff :
    s.hasNext offset = .ok true ↔
      offset.toNat + 1 < UInt64.size ∧ offset.toNat + 1 < s.size := by
  rcases fits_or_greatest offset with hfits | hgreatest
  · rw [hasNext_of_fits s hfits, Except.ok.injEq, decide_eq_true_eq, and_iff_right hfits]
  · rw [(next_of_greatest s hgreatest).1]
    exact iff_of_false nofun fun h => absurd hgreatest (Nat.ne_of_lt h.1)

/-! ## Items and steps back, at every offset -/

theorem itemAt_yields (s : Shelf) (offset : UInt64) :
    s.Yields (offset.toNat < s.size) offset.toNat (s.itemAt offset) where
  inside hin := by
    rw [itemAt, List.getD_eq_getElem?_getD, List.getElem?_eq_getElem hin]
    rfl
  outside hout := by
    rw [itemAt, List.getD_eq_getElem?_getD, List.getElem?_eq_none (Nat.le_of_not_lt hout)]
    rfl

theorem toNat_clamp (s : Shelf) (offset : UInt64) :
    (s.clamp offset).toNat = if offset.toNat < s.size then offset.toNat else 0 := by
  unfold clamp
  split
  · rfl
  · rfl

theorem hasPrev_eq_true_iff : s.hasPrev offset ↔ 0 < offset.toNat ∧ offset.toNat < s.size := by
  simp [hasPrev]

theorem toNat_pred (h : 0 < offset.toNat) : (offset - 1).toNat = offset.toNat - 1 := by
  have hone : (1 : UInt64) ≤ offset := UInt64.le_iff_toNat_le.2 h
  rw [UInt64.toNat_sub_of_le _ _ hone]
  rfl

theorem prev_yields (s : Shelf) (offset : UInt64) :
    s.Yields (0 < offset.toNat ∧ offset.toNat < s.size) (offset.toNat - 1) (s.prev offset) where
  inside hin := by
    have hplace := toNat_pred hin.1
    rw [prev, if_pos (hasPrev_eq_true_iff.2 hin), ← hplace]
    exact (itemAt_yields s (offset - 1)).inside (by omega)
  outside hout := by
    rw [prev, if_neg (mt hasPrev_eq_true_iff.1 hout)]

theorem next_prev (h : s.hasPrev offset) :
    s.hasNext (offset - 1) = .ok true ∧ s.next (offset - 1) = .ok (s.itemAt offset) := by
  obtain ⟨hpos, hin⟩ := hasPrev_eq_true_iff.1 h
  -- after a step back there is room for a step forth
  have hplace : (offset - 1).toNat + 1 = offset.toNat := by
    rw [toNat_pred hpos, Nat.sub_add_cancel hpos]
  have hfits : (offset - 1).toNat + 1 < UInt64.size := hplace ▸ offset.toNat_lt
  refine ⟨hasNext_eq_true_iff.2 ⟨hfits, hplace ▸ hin⟩, ?_⟩
  rw [next_of_fits s hfits, hplace, if_pos hin, UInt64.sub_add_cancel]

theorem looksBack (s : Shelf) (offset : UInt64) : s.LooksBack offset where
  hasPrev_iff := hasPrev_eq_true_iff
  prev := prev_yields s offset
  itemAt := itemAt_yields s offset
  clamp := toNat_clamp s offset
  forth := next_prev

/-! ## Steps forth -/

theorem prev_next (h : s.hasNext offset = .ok true) :
    s.hasPrev (offset + 1) ∧ s.prev (offset + 1) = s.itemAt offset := by
  obtain ⟨hfits, hin⟩ := hasNext_eq_true_iff.1 h
  have hprev : s.hasPrev (offset + 1) := by
    rw [hasPrev_eq_true_iff, toNat_succ hfits]
    exact ⟨Nat.succ_pos _, hin⟩
  refine ⟨hprev, ?_⟩
  rw [prev, if_pos hprev, UInt64.add_sub_cancel]

theorem navigable (s : Shelf) (hfits : offset.toNat + 1 < UInt64.size) : s.Navigable offset where
  toLooksBack := looksBack s offset
  hasNext_eq := hasNext_of_fits s hfits
  next := by
    refine ⟨_, next_of_fits s hfits, fun hin => ?_, fun hout => if_neg hout⟩
    rw [if_pos hin, ← toNat_succ hfits]
    exact (itemAt_yields s (offset + 1)).inside (by rwa [toNat_succ hfits])
  back := prev_next

/-! ## Places on a shelf -/

/-- An offset at which there is an item, or the one at the front. -/
def Has (s : Shelf) (offset : UInt64) : Prop := offset = 0 ∨ offset.toNat < s.size

theorem has_zero (s : Shelf) : s.Has 0 := .inl rfl

theorem clamp_eq_self (h : s.Has offset) : s.clamp offset = offset := by
  unfold clamp
  split
  · rfl
  · rename_i hout
    rcases h with rfl | hin
    · rfl
    · exact absurd hin hout

theorem has_clamp (s : Shelf) (offset : UInt64) : s.Has (s.clamp offset) := by
  unfold clamp
  split
  · rename_i hin
    exact .inr hin
  · exact .inl rfl

/-- At the places of a shelf with fewer items than there are offsets every shelf can be paged
through, also the one that takes its place in the meantime. -/
theorem Has.navigable (h : s.Has offset) (hsize : s.size < UInt64.size) (s' : Shelf) :
    s'.Navigable offset := by
  rcases h with rfl | hin
  · exact Shelf.navigable s' (by decide)
  · exact Shelf.navigable s' (Nat.lt_of_le_of_lt hin hsize)

/-! ## The greatest offset -/

/-- A shelf can be paged through at every offset but the greatest one.  There all but what comes
after is still right, and on what comes after the program stops. -/
theorem navigable_iff (s : Shelf) (offset : UInt64) :
    (s.Navigable offset ↔ offset.toNat + 1 < UInt64.size) ∧
      (offset.toNat + 1 = UInt64.size → s.LooksBack offset ∧
        s.hasNext offset = .error .overflow ∧ s.next offset = .error .overflow) := by
  refine ⟨⟨fun h => ?_, navigable s⟩, fun hgreatest =>
    ⟨looksBack s offset, next_of_greatest s hgreatest⟩⟩
  rcases fits_or_greatest offset with hfits | hgreatest
  · exact hfits
  · exact nomatch h.hasNext_eq.symm.trans (next_of_greatest s hgreatest).1

/-- A coat is all there is on a shelf.  Whether there is an item after the greatest offset, and
which, stops the program. -/
theorem coat_after_greatest :
    let coat := Item.fresh ⟨1⟩ "Coat" []
    let offset : UInt64 := 18446744073709551615
    ¬ offset.toNat + 1 < size ⟨[coat]⟩ ∧ hasNext ⟨[coat]⟩ offset = .error .overflow ∧
      next ⟨[coat]⟩ offset = .error .overflow ∧ ¬ Navigable ⟨[coat]⟩ offset := by
  intro coat offset
  obtain ⟨hnext, hitem⟩ : hasNext ⟨[coat]⟩ offset = .error .overflow ∧
      next ⟨[coat]⟩ offset = .error .overflow := ⟨rfl, rfl⟩
  exact ⟨by decide, hnext, hitem, fun h => nomatch h.hasNext_eq.symm.trans hnext⟩

end OrderDesk.Catalog.Shelf
