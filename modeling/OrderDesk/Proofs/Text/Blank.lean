import Mathlib.Data.List.DropRight
import OrderDesk.Text.Basic

/-!
# What trimming leaves

Trimming drops blanks one by one at both ends; what it leaves is determined by the text around it.
It is the part between two stretches of blanks that neither begins nor ends with one
(`trimmed_eq_iff`), so a text with no blank at its ends is left as it is.
-/

namespace OrderDesk.Text

variable {s t : List Char}

/-- A text neither begins nor ends with a blank. -/
def Bare (t : List Char) : Prop :=
  ∀ h : t ≠ [], ¬ isBlank (t.head h) ∧ ¬ isBlank (t.getLast h)

/-- A text is another one without the blanks around it. -/
def Trims (s t : List Char) : Prop :=
  ∃ front back, s = front ++ t ++ back ∧ (∀ c ∈ front, isBlank c) ∧ (∀ c ∈ back, isBlank c) ∧ Bare t

theorem trimBack_eq (s : List Char) : trimBack s = s.rdropWhile isBlank := rfl

theorem trimBack_append {back : List Char} (h : ∀ c ∈ back, isBlank c) :
    trimBack (t ++ back) = trimBack t := by
  rw [trimBack, List.reverse_append, List.dropWhile_append_of_pos, trimBack]
  simpa using h

theorem trimFront_eq_self (h : ∀ hne : s ≠ [], ¬ isBlank (s.head hne)) : trimFront s = s := by
  cases s with
  | nil => rfl
  | cons c s => exact List.dropWhile_cons_of_neg (h (List.cons_ne_nil c s))

theorem Trims.trimmed_eq (h : Trims s t) : trimmed s = t := by
  obtain ⟨front, back, rfl, hfront, hback, hbare⟩ := h
  rw [trimmed, trimFront, List.append_assoc, List.dropWhile_append_of_pos hfront, ← trimFront]
  cases t with
  | nil => rw [List.nil_append, trimFront, List.dropWhile_eq_nil_iff.2 hback, trimBack_eq,
      List.rdropWhile_nil]
  | cons c t =>
    obtain ⟨hhead, hlast⟩ := hbare (List.cons_ne_nil c t)
    rw [trimFront_eq_self (s := c :: t ++ back) fun _ => hhead, trimBack_append hback, trimBack_eq,
      List.rdropWhile_eq_self_iff]
    exact fun _ => hlast

theorem bare_trimmed (s : List Char) : Bare (trimmed s) := by
  intro h
  have hfront : trimmed s <+: trimFront s := List.rdropWhile_prefix isBlank (trimFront s)
  constructor
  · rw [hfront.head h]
    exact ne_true_of_eq_false (List.head_dropWhile_not isBlank _)
  · exact List.rdropWhile_last_not isBlank _ h

theorem trims_trimmed (s : List Char) : Trims s (trimmed s) := by
  refine ⟨s.takeWhile isBlank, (trimFront s).rtakeWhile isBlank, ?_, ?_, ?_, bare_trimmed s⟩
  · rw [List.append_assoc, trimmed, trimBack_eq, List.rdropWhile_append_rtakeWhile, trimFront,
      List.takeWhile_append_dropWhile]
  · exact fun c hc => List.mem_takeWhile_imp hc
  · exact fun c hc => List.mem_rtakeWhile_imp hc

/-- What trimming leaves is determined by the text around it. -/
theorem trimmed_eq_iff : trimmed s = t ↔ Trims s t :=
  ⟨fun h => h ▸ trims_trimmed s, Trims.trimmed_eq⟩

theorem trimmed_of_bare (h : Bare t) : trimmed t = t :=
  trimmed_eq_iff.2 ⟨[], [], (List.append_nil t).symm, List.forall_mem_nil _, List.forall_mem_nil _, h⟩

theorem trimmed_of_forall (h : ∀ c ∈ t, ¬ isBlank c) : trimmed t = t :=
  trimmed_of_bare fun hne => ⟨h _ (List.head_mem hne), h _ (List.getLast_mem hne)⟩

/-- No digit is a blank. -/
theorem not_isBlank_of_isDigit {c : Char} (h : isDigit c) : ¬ isBlank c := by
  have hapart : ∀ d ∈ digitRanges, ∀ b ∈ blankRanges, b.2 < d.1 ∨ d.2 < b.1 := by decide +kernel
  simp only [isDigit, isBlank, inRanges, List.any_eq_true, Bool.and_eq_true, decide_eq_true_eq]
    at h ⊢
  rintro ⟨b, hb, hlo, hhi⟩
  obtain ⟨d, hd, hlo', hhi'⟩ := h
  have := hapart d hd b hb
  omega

/-- The digits of ASCII are the digits with codes below 128. -/
theorem isDigit_and_lt_iff {c : Char} : isDigit c ∧ c.toNat < 128 ↔ c.isDigit := by
  have hhigh : ∀ d ∈ digitRanges.tail, 128 ≤ d.1 := by decide +kernel
  have hcons : digitRanges = (0x30, 0x39) :: digitRanges.tail := rfl
  have hascii : c.isDigit ↔ 0x30 ≤ c.toNat ∧ c.toNat ≤ 0x39 := Char.isDigit_iff_toNat
  rw [isDigit, inRanges, hcons, List.any_cons, hascii]
  simp only [Bool.or_eq_true, Bool.and_eq_true, decide_eq_true_eq, List.any_eq_true]
  constructor
  · rintro ⟨hlow | ⟨d, hd, hlo, -⟩, hlt⟩
    · exact hlow
    · have := hhigh d hd
      omega
  · exact fun h => ⟨.inl h, by omega⟩

end OrderDesk.Text
