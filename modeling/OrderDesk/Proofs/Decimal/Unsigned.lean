import OrderDesk.Proofs.Decimal.Integer

/-!
# Numbers without a minus sign, in 64 bits

`Unsigned` says which texts spell a natural number, however great.  The model reads the number first
and then asks whether it fits 64 bits, so a 64-bit number is read from its spellings and from nothing
else (`uint64?_eq_some_iff`).

A machine never holds the whole number.  It goes through the digits with a 64-bit accumulator that is
multiplied by ten and added to, and gives up at the first result that does not fit
(`accumulated?`).  It reads the same numbers (`uint64?_eq_read?`): an accumulator never gets smaller,
so a text that is given up spells a number beyond 64 bits, and none comes back into range.
-/

namespace OrderDesk.Decimal

variable {s : List Char} {k : Nat} {n : UInt64}

/-- The spellings of a natural number: digits, the first of which may be zeros, after a plus sign or
none. -/
inductive Unsigned : List Char → Nat → Prop where
  | bare {s : List Char} (h : Digits s) : Unsigned s (Nat.ofDigitChars 10 s 0)
  | plus {s : List Char} (h : Digits s) : Unsigned ('+' :: s) (Nat.ofDigitChars 10 s 0)

/-- Digits begin with no sign. -/
theorem Digits.ne_plus (h : Digits s) (t : List Char) : s ≠ '+' :: t := by
  rintro rfl
  exact absurd (h.2 '+' List.mem_cons_self) (by decide)

/-- Natural numbers are read from their spellings and from nothing else. -/
theorem unsigned?_eq_some_iff : unsigned? s = some k ↔ Unsigned s k := by
  constructor
  · intro h
    unfold unsigned? at h
    split at h
    · obtain ⟨hs, rfl⟩ := natural?_eq_some_iff.1 h
      exact .plus hs
    · obtain ⟨hs, rfl⟩ := natural?_eq_some_iff.1 h
      exact .bare hs
  · intro h
    cases h with
    | plus hs => exact natural?_eq_some_iff.2 ⟨hs, rfl⟩
    | bare hs =>
      unfold unsigned?
      split
      · exact absurd rfl (hs.ne_plus _)
      · exact natural?_eq_some_iff.2 ⟨hs, rfl⟩

/-! ## Numbers that fit -/

theorem fitUInt64?_eq_some_iff : fitUInt64? k = some n ↔ k = n.toNat := by
  unfold fitUInt64?
  constructor
  · intro h
    obtain ⟨hk, hn⟩ := Option.ite_none_right_eq_some.1 h
    rw [← Option.some.inj hn, UInt64.toNat_ofNat_of_lt' hk]
  · rintro rfl
    rw [if_pos n.toNat_lt, UInt64.ofNat_toNat]

/-- 64-bit numbers are read from the spellings of their values. -/
theorem uint64?_eq_some_iff : uint64? s = some n ↔ Unsigned s n.toNat := by
  rw [uint64?, Option.bind_eq_some_iff]
  constructor
  · rintro ⟨k, hk, hfit⟩
    obtain rfl := fitUInt64?_eq_some_iff.1 hfit
    exact unsigned?_eq_some_iff.1 hk
  · intro h
    exact ⟨n.toNat, unsigned?_eq_some_iff.2 h, fitUInt64?_eq_some_iff.2 rfl⟩

/-! ## Reading in 64 bits -/

/-- A digit is put behind a number; neither ten times the number nor the sum may leave 64 bits. -/
def append? (n : UInt64) (c : Char) : Option UInt64 := do
  let tens ← fitUInt64? (n.toNat * 10)
  let d ← digit? c
  fitUInt64? (tens.toNat + d)

/-- Digits are put behind a number one after another, as long as the number fits. -/
def accumulated? (n : UInt64) (s : List Char) : Option UInt64 := s.foldlM append? n

/-- One or more digits, with no number beyond 64 bits on the way. -/
def digits? : List Char → Option UInt64
  | [] => none
  | s => accumulated? 0 s

/-- The same after a plus sign or none. -/
def read? : List Char → Option UInt64
  | '+' :: s => digits? s
  | s => digits? s

theorem append?_eq_some_iff {c : Char} {m : UInt64} :
    append? n c = some m ↔ c.isDigit ∧ 10 * n.toNat + (c.toNat - '0'.toNat) = m.toNat := by
  simp only [append?, Option.bind_eq_bind, Option.bind_eq_some_iff, digit?_eq_some_iff,
    fitUInt64?_eq_some_iff]
  constructor
  · rintro ⟨tens, htens, d, ⟨hc, rfl⟩, hm⟩
    exact ⟨hc, by omega⟩
  · rintro ⟨hc, hm⟩
    -- ten times the number is no greater than the sum, which fits
    have htens : n.toNat * 10 < UInt64.size := by
      have := m.toNat_lt_size
      omega
    refine ⟨UInt64.ofNat (n.toNat * 10), (UInt64.toNat_ofNat_of_lt' htens).symm, _, ⟨hc, rfl⟩, ?_⟩
    rw [UInt64.toNat_ofNat_of_lt' htens, Nat.mul_comm]
    exact hm

/-- Digits never make a number smaller. -/
theorem le_ofDigitChars (s : List Char) (k : Nat) : k ≤ Nat.ofDigitChars 10 s k := by
  induction s generalizing k with
  | nil => exact Nat.le_refl k
  | cons c s ih =>
    rw [Nat.ofDigitChars_cons]
    have := ih (10 * k + (c.toNat - '0'.toNat))
    omega

/-- Nothing is lost on the way, and nothing but what does not fit is given up. -/
theorem accumulated?_eq_some_iff {m : UInt64} :
    accumulated? n s = some m ↔
      (∀ c ∈ s, c.isDigit) ∧ Nat.ofDigitChars 10 s n.toNat = m.toNat := by
  unfold accumulated?
  induction s generalizing n with
  | nil => simp [UInt64.toNat_inj]
  | cons c s ih =>
    simp only [List.foldlM_cons, Option.bind_eq_bind, Option.bind_eq_some_iff, List.forall_mem_cons,
      Nat.ofDigitChars_cons, append?_eq_some_iff, ih]
    constructor
    · rintro ⟨next, ⟨hc, hnext⟩, hs, hm⟩
      exact ⟨⟨hc, hs⟩, hnext ▸ hm⟩
    · rintro ⟨⟨hc, hs⟩, hm⟩
      -- the next number is no greater than the last one
      have hnext : 10 * n.toNat + (c.toNat - '0'.toNat) < UInt64.size := by
        have := le_ofDigitChars s (10 * n.toNat + (c.toNat - '0'.toNat))
        have := m.toNat_lt_size
        omega
      refine ⟨UInt64.ofNat (10 * n.toNat + (c.toNat - '0'.toNat)), ⟨hc, ?_⟩, hs, ?_⟩
      · rw [UInt64.toNat_ofNat_of_lt' hnext]
      · rw [UInt64.toNat_ofNat_of_lt' hnext]
        exact hm

theorem digits?_eq (s : List Char) : digits? s = (natural? s).bind fitUInt64? := by
  cases s with
  | nil => rfl
  | cons c s =>
    refine Option.ext fun n => ?_
    have hread : digits? (c :: s) = accumulated? 0 (c :: s) := rfl
    rw [hread, accumulated?_eq_some_iff, Option.bind_eq_some_iff]
    constructor
    · rintro ⟨hdigits, hn⟩
      exact ⟨_, natural?_eq_some_iff.2 ⟨⟨List.cons_ne_nil c s, hdigits⟩, hn⟩,
        fitUInt64?_eq_some_iff.2 rfl⟩
    · rintro ⟨k, hk, hfit⟩
      obtain rfl := fitUInt64?_eq_some_iff.1 hfit
      obtain ⟨⟨-, hdigits⟩, hn⟩ := natural?_eq_some_iff.1 hk
      exact ⟨hdigits, hn⟩

/-- A number is read in 64 bits as if there were no bound on the way. -/
theorem uint64?_eq_read? (s : List Char) : uint64? s = read? s := by
  by_cases hplus : ∃ t, s = '+' :: t
  · obtain ⟨t, rfl⟩ := hplus
    exact (digits?_eq t).symm
  · have hplain : ∀ t, s = '+' :: t → False := fun t ht => hplus ⟨t, ht⟩
    rw [uint64?, unsigned?, read?, digits?_eq]
    · exact hplain
    · exact hplain

end OrderDesk.Decimal
