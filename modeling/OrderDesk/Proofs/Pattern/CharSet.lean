import OrderDesk.Pattern.Node

/-!
# What a set of characters holds

A set that is put together from ranges in any order holds exactly what lies in one of them, although
ranges that touch are joined (`contains_ofRanges`), and it is never in more parts than it was put
together from (`length_ofRanges_le`).
-/

namespace OrderDesk.Pattern.CharSet

/-- A code point lies in a range. -/
def InRange (n : Nat) (r : Nat × Nat) : Prop := r.1 ≤ n ∧ n ≤ r.2

theorem contains_iff {a : CharSet} {n : Nat} : a.contains n ↔ ∃ r ∈ a.ranges, InRange n r := by
  simp [contains, InRange]

theorem mem_single {c d : Char} : (single c).mem d ↔ d = c := by
  rw [mem, contains_iff]
  simp only [single, List.mem_singleton, exists_eq_left, InRange]
  rw [← Char.toNat_inj]
  omega

/-- Joining ranges that touch loses nothing and adds nothing. -/
theorem inRange_absorb {n lo hi : Nat} {rest : List (Nat × Nat)} (hlo : ∀ r ∈ rest, lo ≤ r.1)
    (hrest : rest.Pairwise fun a b => a.1 ≤ b.1) :
    (∃ r ∈ absorb lo hi rest, InRange n r) ↔ InRange n (lo, hi) ∨ ∃ r ∈ rest, InRange n r := by
  induction rest generalizing lo hi with
  | nil => simp [absorb]
  | cons r rest ih =>
    obtain ⟨lo', hi'⟩ := r
    obtain ⟨hfirst, hpairs⟩ := List.pairwise_cons.1 hrest
    have hle : lo ≤ lo' := hlo _ List.mem_cons_self
    rw [absorb]
    split
    · -- the two ranges touch, so together they are one
      rename_i htouch
      have hjoin : InRange n (lo, max hi hi') ↔ InRange n (lo, hi) ∨ InRange n (lo', hi') := by
        simp only [InRange]
        omega
      rw [ih (fun r hr => hlo r (List.mem_cons_of_mem _ hr)) hpairs, hjoin, or_assoc]
      simp only [List.mem_cons, exists_eq_or_imp]
    · simp only [List.mem_cons, exists_eq_or_imp, ih hfirst hpairs]

/-- The ranges of a set before those that touch are joined. -/
theorem ofRanges_eq (ranges : List (Nat × Nat)) :
    ∃ sorted, sorted.Perm ranges ∧ sorted.Pairwise (fun a b => a.1 ≤ b.1) ∧
      ofRanges ranges = match sorted with
        | [] => ⟨[]⟩
        | (lo, hi) :: rest => ⟨absorb lo hi rest⟩ := by
  let le (a b : Nat × Nat) : Bool := a.1 ≤ b.1
  have hsorted : (ranges.mergeSort le).Pairwise (le · ·) :=
    List.pairwise_mergeSort (by grind) (by grind) ranges
  exact ⟨ranges.mergeSort le, List.mergeSort_perm ranges le,
    hsorted.imp fun h => of_decide_eq_true h, rfl⟩

theorem contains_ofRanges {ranges : List (Nat × Nat)} {n : Nat} :
    (ofRanges ranges).contains n ↔ ∃ r ∈ ranges, InRange n r := by
  obtain ⟨sorted, hperm, hsorted, heq⟩ := ofRanges_eq ranges
  simp only [← hperm.mem_iff]
  rw [contains_iff, heq]
  cases sorted with
  | nil => rfl
  | cons r rest =>
    obtain ⟨hfirst, hpairs⟩ := List.pairwise_cons.1 hsorted
    rw [inRange_absorb hfirst hpairs]
    simp only [List.mem_cons, exists_eq_or_imp]

theorem length_absorb_le (lo hi : Nat) (rest : List (Nat × Nat)) :
    (absorb lo hi rest).length ≤ rest.length + 1 := by
  induction rest generalizing lo hi with
  | nil => exact Nat.le_refl 1
  | cons r rest ih =>
    rw [absorb]
    split
    · exact Nat.le_succ_of_le (ih _ _)
    · exact Nat.succ_le_succ (ih _ _)

theorem length_ofRanges_le (ranges : List (Nat × Nat)) :
    (ofRanges ranges).ranges.length ≤ ranges.length := by
  obtain ⟨sorted, hperm, -, heq⟩ := ofRanges_eq ranges
  rw [heq, ← hperm.length_eq]
  cases sorted with
  | nil => exact Nat.le_refl 0
  | cons r rest => exact length_absorb_le r.1 r.2 rest

end OrderDesk.Pattern.CharSet
