import OrderDesk.Text.Basic

/-!
# What texts are cut into

Cutting at the last separator undoes putting a separator between a text and one that holds none
(`splitLast?_eq_some_iff`), and cutting at every separator is the library's `List.splitOn`
(`splitOn_eq`), so the pieces are the ones without separators whose `List.intercalate` is the text
(`splitOn_eq_iff`).  Bytes are counted piece by piece.
-/

namespace OrderDesk.Text

variable {sep : Char} {s : List Char}

theorem splitLast?_eq_none_iff : splitLast? sep s = none ↔ sep ∉ s := by
  induction s with
  | nil => simp [splitLast?]
  | cons c s ih =>
    rw [splitLast?, List.mem_cons, not_or]
    cases hs : splitLast? sep s with
    | some cut =>
      have hmem : sep ∈ s := Decidable.not_not.1 fun hnone => by simp [ih.2 hnone] at hs
      simp [hmem]
    | none =>
      have hnone : sep ∉ s := ih.1 hs
      simp [hnone, eq_comm]

/-- A text is cut at the last separator: what comes after holds no other. -/
theorem splitLast?_eq_some_iff {before after : List Char} :
    splitLast? sep s = some (before, after) ↔ s = before ++ sep :: after ∧ sep ∉ after := by
  induction s generalizing before with
  | nil => simp [splitLast?]
  | cons c s ih =>
    rw [splitLast?]
    constructor
    · intro h
      cases hs : splitLast? sep s with
      | some cut =>
        obtain ⟨before', after'⟩ := cut
        simp only [hs, Option.some.injEq, Prod.mk.injEq] at h
        obtain ⟨rfl, rfl⟩ := h
        obtain ⟨rfl, hafter⟩ := ih.1 hs
        exact ⟨rfl, hafter⟩
      | none =>
        simp only [hs, Option.ite_none_right_eq_some, Option.some.injEq, Prod.mk.injEq] at h
        obtain ⟨rfl, rfl, rfl⟩ := h
        exact ⟨rfl, splitLast?_eq_none_iff.1 hs⟩
    · rintro ⟨hcut, hafter⟩
      cases before with
      | nil =>
        obtain ⟨rfl, rfl⟩ := List.cons.inj hcut
        rw [splitLast?_eq_none_iff.2 hafter]
        exact if_pos rfl
      | cons c' before =>
        obtain ⟨rfl, rfl⟩ := List.cons.inj hcut
        rw [ih.2 ⟨rfl, hafter⟩]

theorem splitOn_eq (sep : Char) (s : List Char) : splitOn sep s = s.splitOn sep := by
  induction s with
  | nil => rw [splitOn, List.splitOn_nil]
  | cons c s ih =>
    rw [splitOn, List.splitOn_cons_eq_if_modifyHead, ih]
    by_cases hc : c = sep
    · simp [hc]
    · simp only [hc, if_false, beq_iff_eq]
      cases hs : s.splitOn sep with
      | nil => exact absurd hs (List.splitOn_ne_nil sep s)
      | cons piece pieces => rfl

theorem not_mem_of_mem_splitOn {piece : List Char} (h : piece ∈ splitOn sep s) : sep ∉ piece := by
  induction s generalizing piece with
  | nil =>
    obtain rfl := List.mem_singleton.1 h
    exact List.not_mem_nil
  | cons c s ih =>
    rw [splitOn] at h
    split at h
    · rcases List.mem_cons.1 h with rfl | h
      · exact List.not_mem_nil
      · exact ih h
    · rename_i hc
      have hcons : ∀ {w : List Char}, sep ∉ w → sep ∉ c :: w := fun hw =>
        List.not_mem_cons_of_ne_of_not_mem (Ne.symm hc) hw
      split at h
      · rename_i first pieces hs
        rw [hs] at ih
        rcases List.mem_cons.1 h with rfl | h
        · exact hcons (ih List.mem_cons_self)
        · exact ih (List.mem_cons_of_mem _ h)
      · obtain rfl := List.mem_singleton.1 h
        exact hcons List.not_mem_nil

/-- The pieces of a text are the ones that hold no separator and give the text with one between
neighbours. -/
theorem splitOn_eq_iff {pieces : List (List Char)} (hne : pieces ≠ []) :
    splitOn sep s = pieces ↔ s = [sep].intercalate pieces ∧ ∀ piece ∈ pieces, sep ∉ piece := by
  constructor
  · rintro rfl
    exact ⟨by rw [splitOn_eq, List.intercalate_splitOn], fun _ => not_mem_of_mem_splitOn⟩
  · rintro ⟨rfl, hpieces⟩
    rw [splitOn_eq, List.splitOn_intercalate sep hpieces hne]

/-! ## Bytes -/

theorem byteLength_cons (c : Char) (s : List Char) :
    byteLength (c :: s) = c.utf8Size + byteLength s := rfl

theorem byteLength_append (s t : List Char) :
    byteLength (s ++ t) = byteLength s + byteLength t := by
  induction s with
  | nil => exact (Nat.zero_add _).symm
  | cons c s ih => rw [List.cons_append, byteLength_cons, byteLength_cons, ih, Nat.add_assoc]

theorem utf8ByteSize_ofList (s : List Char) : (String.ofList s).utf8ByteSize = byteLength s := by
  induction s with
  | nil => rfl
  | cons c s ih =>
    rw [byteLength_cons, ← ih]
    simp

/-- Characters of one byte each. -/
theorem byteLength_eq_length (h : ∀ c ∈ s, c.utf8Size = 1) : byteLength s = s.length := by
  induction s with
  | nil => rfl
  | cons c s ih =>
    rw [byteLength_cons, h c List.mem_cons_self, ih fun d hd => h d (List.mem_cons_of_mem c hd),
      List.length_cons, Nat.add_comm]

end OrderDesk.Text
