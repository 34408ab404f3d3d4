import Mathlib.Algebra.Group.Nat.Defs
import Mathlib.Data.List.Basic
import Mathlib.Data.List.Induction
import OrderDesk.Decimal.Integer

/-!
# How whole numbers are spelled

A number has many spellings, with a plus sign or none and with zeros in front, and `Numeral` says
which.  Reading accepts exactly the spellings (`integer?_eq_some_iff`, `int32?_eq_some_iff`).
`integerText` is one of them (`numeral_integerText`), so a number is read as it was written, and no
other is shorter (`Numeral.length_le`).
-/

namespace OrderDesk.Decimal

/-! ## Spellings -/

/-- One or more ASCII digits. -/
def Digits (s : List Char) : Prop := s ≠ [] ∧ ∀ c ∈ s, c.isDigit

/-- The spellings of a number: digits, the first of which may be zeros, after a sign or none. -/
inductive Numeral : List Char → Int → Prop where
  | unsigned {s : List Char} (h : Digits s) : Numeral s (Nat.ofDigitChars 10 s 0)
  | plus {s : List Char} (h : Digits s) : Numeral ('+' :: s) (Nat.ofDigitChars 10 s 0)
  | minus {s : List Char} (h : Digits s) : Numeral ('-' :: s) (-(Nat.ofDigitChars 10 s 0 : Nat))

variable {s : List Char} {n : Int}

theorem Numeral.ne_nil (h : Numeral s n) : s ≠ [] := by
  cases h with
  | unsigned hs => exact hs.1
  | plus hs => exact List.cons_ne_nil _ _
  | minus hs => exact List.cons_ne_nil _ _

/-- A spelling holds digits and perhaps a sign. -/
theorem Numeral.mem (h : Numeral s n) {c : Char} (hc : c ∈ s) : c = '+' ∨ c = '-' ∨ c.isDigit := by
  cases h with
  | unsigned hs => exact .inr (.inr (hs.2 c hc))
  | plus hs =>
    rcases List.mem_cons.1 hc with hc | hc
    · exact .inl hc
    · exact .inr (.inr (hs.2 c hc))
  | minus hs =>
    rcases List.mem_cons.1 hc with hc | hc
    · exact .inr (.inl hc)
    · exact .inr (.inr (hs.2 c hc))

theorem Numeral.not_mem (h : Numeral s n) {c : Char} (hplus : c ≠ '+') (hminus : c ≠ '-')
    (hdigit : c.isDigit = false) : c ∉ s := by
  intro hc
  rcases h.mem hc with rfl | rfl | hc
  · exact hplus rfl
  · exact hminus rfl
  · simp [hc] at hdigit

/-! ## Reading -/

theorem digit?_eq_some_iff {c : Char} {k : Nat} :
    digit? c = some k ↔ c.isDigit ∧ c.toNat - '0'.toNat = k := by
  have hdigit : ('0' ≤ c ∧ c ≤ '9') ↔ c.isDigit := by
    rw [Char.isDigit_iff_toNat]
    rfl
  unfold digit?
  simp only [hdigit]
  by_cases hc : c.isDigit <;> simp [hc]

theorem mapM_digit?_eq_some_iff {values : List Nat} :
    s.mapM digit? = some values ↔
      (∀ c ∈ s, c.isDigit) ∧ s.map (fun c => c.toNat - '0'.toNat) = values := by
  induction s generalizing values with
  | nil => simp
  | cons c s ih =>
    constructor
    · intro h
      simp only [List.mapM_cons, Option.bind_eq_bind, Option.bind_eq_some_iff, Option.pure_def,
        Option.some.injEq] at h
      obtain ⟨k, hk, rest, hrest, rfl⟩ := h
      obtain ⟨hc, rfl⟩ := digit?_eq_some_iff.1 hk
      obtain ⟨hs, rfl⟩ := ih.1 hrest
      exact ⟨List.forall_mem_cons.2 ⟨hc, hs⟩, rfl⟩
    · rintro ⟨hall, rfl⟩
      obtain ⟨hc, hs⟩ := List.forall_mem_cons.1 hall
      have hfirst : digit? c = some (c.toNat - '0'.toNat) := digit?_eq_some_iff.2 ⟨hc, rfl⟩
      have hrest := ih.2 ⟨hs, rfl⟩
      simp [List.mapM_cons, hfirst, hrest]

theorem valueOf_map (s : List Char) :
    valueOf (s.map fun c => c.toNat - '0'.toNat) = Nat.ofDigitChars 10 s 0 := by
  rw [valueOf, List.foldl_map]
  rfl

/-- Digits picked out of digits. -/
theorem valueOf_filterMap (h : ∀ c ∈ s, c.isDigit) :
    valueOf (s.filterMap digit?) = Nat.ofDigitChars 10 s 0 := by
  have hvalues : s.filterMap digit? = s.map fun c => c.toNat - '0'.toNat :=
    List.filterMap_eq_map_iff_forall_eq_some.2 fun c hc => digit?_eq_some_iff.2 ⟨h c hc, rfl⟩
  rw [hvalues, valueOf_map]

theorem natural?_eq_some_iff {k : Nat} :
    natural? s = some k ↔ Digits s ∧ Nat.ofDigitChars 10 s 0 = k := by
  cases s with
  | nil => simp [natural?, Digits]
  | cons c s =>
    have hread : natural? (c :: s) = ((c :: s).mapM digit?).map valueOf := rfl
    rw [hread, Option.map_eq_some_iff]
    constructor
    · rintro ⟨values, hvalues, rfl⟩
      obtain ⟨hdigits, rfl⟩ := mapM_digit?_eq_some_iff.1 hvalues
      exact ⟨⟨List.cons_ne_nil c s, hdigits⟩, (valueOf_map _).symm⟩
    · rintro ⟨⟨-, hdigits⟩, rfl⟩
      exact ⟨_, mapM_digit?_eq_some_iff.2 ⟨hdigits, rfl⟩, valueOf_map _⟩

/-- Numbers are read from their spellings and from nothing else. -/
theorem integer?_eq_some_iff : integer? s = some n ↔ Numeral s n := by
  have hminus : ∀ s : List Char,
      integer? ('-' :: s) = (natural? s).map fun k : Nat => -(k : Int) := by
    intro s
    simp only [integer?]
    cases natural? s <;> rfl
  constructor
  · intro h
    unfold integer? at h
    split at h
    · obtain ⟨k, hk, rfl⟩ := Option.map_eq_some_iff.1 ((hminus _).symm.trans h)
      obtain ⟨hs, rfl⟩ := natural?_eq_some_iff.1 hk
      exact .minus hs
    · obtain ⟨k, hk, rfl⟩ := Option.map_eq_some_iff.1 h
      obtain ⟨hs, rfl⟩ := natural?_eq_some_iff.1 hk
      exact .plus hs
    · obtain ⟨k, hk, rfl⟩ := Option.map_eq_some_iff.1 h
      obtain ⟨hs, rfl⟩ := natural?_eq_some_iff.1 hk
      exact .unsigned hs
  · intro h
    cases h with
    | unsigned hs =>
      have hread : integer? s = (natural? s).map Int.ofNat := by
        unfold integer?
        split
        · exact absurd (hs.2 '-' List.mem_cons_self) (by decide)
        · exact absurd (hs.2 '+' List.mem_cons_self) (by decide)
        · rfl
      rw [hread, natural?_eq_some_iff.2 ⟨hs, rfl⟩]
      rfl
    | plus hs =>
      simp only [integer?, natural?_eq_some_iff.2 ⟨hs, rfl⟩]
      rfl
    | minus hs => rw [hminus, natural?_eq_some_iff.2 ⟨hs, rfl⟩, Option.map_some]

/-- 32-bit numbers are read from the spellings of their values. -/
theorem int32?_eq_some_iff {n : Int32} : int32? s = some n ↔ Numeral s n.toInt := by
  rw [int32?, Option.bind_eq_some_iff]
  constructor
  · rintro ⟨k, hk, hfit⟩
    unfold fitInt32? at hfit
    split at hfit
    · rename_i hrange
      obtain rfl := Option.some.inj hfit
      rw [Int32.toInt_ofInt_of_le hrange.1 hrange.2]
      exact integer?_eq_some_iff.1 hk
    · cases hfit
  · intro h
    refine ⟨n.toInt, integer?_eq_some_iff.2 h, ?_⟩
    rw [fitInt32?, if_pos ⟨n.le_toInt, n.toInt_lt⟩, Int32.ofInt_toInt]

/-! ## Writing -/

theorem digits_naturalText (k : Nat) : Digits (naturalText k) :=
  ⟨Nat.toDigits_ne_nil, fun _ hc => Nat.isDigit_of_mem_toDigits (by decide) (by decide) hc⟩

theorem ofDigitChars_naturalText (k : Nat) : Nat.ofDigitChars 10 (naturalText k) 0 = k :=
  Nat.ofDigitChars_toDigits (by decide) (by decide)

/-- What is written for a number is one of its spellings. -/
theorem numeral_integerText (n : Int) : Numeral (integerText n) n := by
  cases n with
  | ofNat k =>
    have h := Numeral.unsigned (digits_naturalText k)
    rw [ofDigitChars_naturalText] at h
    exact h
  | negSucc k =>
    have h := Numeral.minus (digits_naturalText (k + 1))
    rw [ofDigitChars_naturalText] at h
    exact h

theorem length_naturalText_le {n k : Nat} (hk : 0 < k) (h : n < 10 ^ k) :
    (naturalText n).length ≤ k := (Nat.length_toDigits_le_iff (by decide) hk).2 h

theorem ofDigitChars_lt (h : ∀ c ∈ s, c.isDigit) : Nat.ofDigitChars 10 s 0 < 10 ^ s.length := by
  induction s using List.reverseRecOn with
  | nil => decide
  | append_singleton s c ih =>
    have hs := ih fun d hd => h d (List.mem_append_left _ hd)
    have hc : c.toNat ≤ '9'.toNat := (Char.isDigit_iff_toNat.1 (h c (by simp))).2
    have hnine : '9'.toNat = 57 := rfl
    have hzero : '0'.toNat = 48 := rfl
    rw [Nat.ofDigitChars_append, List.length_append, List.length_singleton, Nat.pow_succ]
    simp only [Nat.ofDigitChars_cons, Nat.ofDigitChars_nil]
    omega

/-- No spelling is shorter than the one that is written. -/
theorem Numeral.length_le (h : Numeral s n) : (integerText n).length ≤ s.length := by
  have hdigits : ∀ {s : List Char}, Digits s →
      (naturalText (Nat.ofDigitChars 10 s 0)).length ≤ s.length := by
    intro s hs
    exact length_naturalText_le (List.length_pos_iff.2 hs.1) (ofDigitChars_lt hs.2)
  cases h with
  | unsigned hs => exact hdigits hs
  | plus hs => exact Nat.le_succ_of_le (hdigits hs)
  | minus hs =>
    -- a zero loses its sign
    have hlength := hdigits hs
    generalize Nat.ofDigitChars 10 _ 0 = k at hlength ⊢
    cases k with
    | zero => exact Nat.le_succ_of_le hlength
    | succ k => exact Nat.succ_le_succ hlength

/-- A written number starts with a zero only if it is zero. -/
theorem naturalText_zero {k : Nat} {t : List Char} (h : naturalText k = '0' :: t) : t = [] := by
  by_contra hne
  have hdigits := digits_naturalText k
  rw [h] at hdigits
  have hvalue : Nat.ofDigitChars 10 t 0 = k := by
    have hall := ofDigitChars_naturalText k
    rwa [h] at hall
  -- without its zero the text would be a shorter one for the same number
  have hshorter : (naturalText k).length ≤ t.length := by
    rw [← hvalue]
    exact (Numeral.unsigned ⟨hne, fun c hc => hdigits.2 c (List.mem_cons_of_mem _ hc)⟩).length_le
  rw [h, List.length_cons] at hshorter
  omega

theorem toList_repr (n : Int) : n.repr.toList = integerText n := by
  cases n with
  | ofNat k => simp [Int.repr, Nat.repr_eq_ofList_toDigits, integerText, naturalText]
  | negSucc k => simp [Int.repr, Nat.repr_eq_ofList_toDigits, integerText, naturalText]

end OrderDesk.Decimal
