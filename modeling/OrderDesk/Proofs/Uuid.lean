import Mathlib.Algebra.Group.Nat.Defs
import OrderDesk.Proofs.Text.Split
import OrderDesk.Uuid

/-!
# Identifiers as texts

A fixed number of hexadecimal digits of a number is read as the number they are left of
(`readHexadecimal?_hexadecimal`), and an identifier is read as it was written (`ofText?_text`).
-/

namespace OrderDesk.Uuid

/-! ## Hexadecimal digits -/

theorem hexValue?_hexDigit (n : Nat) : hexValue? (hexDigit n) = some (n % 16) := by
  have hall : ∀ d < 16, hexValue? (Nat.digitChar d) = some d := by decide
  exact hall _ (Nat.mod_lt n (by decide))

theorem length_hexadecimal (width n : Nat) : (hexadecimal width n).length = width := by
  induction width generalizing n with
  | zero => rfl
  | succ width ih => rw [hexadecimal, List.length_append, ih, List.length_singleton]

/-- The digits of a number are read as its rest by the power of 16. -/
theorem readHexadecimal?_hexadecimal (width n : Nat) :
    readHexadecimal? (hexadecimal width n) = some (n % 16 ^ width) := by
  induction width generalizing n with
  | zero => simp [hexadecimal, readHexadecimal?, Nat.mod_one]
  | succ width ih =>
    obtain ⟨values, hvalues, hvalue⟩ := Option.map_eq_some_iff.1 (ih (n / 16))
    have hdivmod : n % 16 ^ (width + 1) = n % 16 + 16 * (n / 16 % 16 ^ width) := by
      rw [Nat.pow_succ', Nat.mod_mul]
    rw [hexadecimal, readHexadecimal?, List.mapM_append, hvalues, hdivmod, ← hvalue]
    simp [hexValue?_hexDigit, Nat.add_comm]

/-- Something that no hexadecimal digit is does not occur among them. -/
theorem not_mem_hexadecimal {c : Char} (hc : hexValue? c = none) (width n : Nat) :
    c ∉ hexadecimal width n := by
  induction width generalizing n with
  | zero => exact List.not_mem_nil
  | succ width ih =>
    rw [hexadecimal, List.mem_append, List.mem_singleton, not_or]
    refine ⟨ih _, fun hdigit => ?_⟩
    rw [hdigit, hexValue?_hexDigit] at hc
    cases hc

theorem ofDigits?_hexadecimal (u : Uuid) : ofDigits? (hexadecimal 32 u.bits.toNat) = some u := by
  have hbound : u.bits.toNat < 16 ^ 32 := u.bits.isLt
  rw [ofDigits?, if_pos (length_hexadecimal 32 _), readHexadecimal?_hexadecimal,
    Nat.mod_eq_of_lt hbound, Option.map_some, ofNat, BitVec.ofNat_toNat, BitVec.setWidth_eq]

/-! ## Groups -/

/-- Digits in five groups. -/
def groups (digits : List Char) : List (List Char) :=
  [digits.take 8, (digits.drop 8).take 4, (digits.drop 12).take 4, (digits.drop 16).take 4,
    digits.drop 20]

theorem hyphenated_eq (u : Uuid) :
    u.hyphenated = List.intercalate ['-'] (groups (hexadecimal 32 u.bits.toNat)) := by
  simp [hyphenated, groups, List.intercalate]

section Groups

variable {digits group : List Char} {c : Char}

theorem mem_of_mem_groups (h : group ∈ groups digits) (hc : c ∈ group) : c ∈ digits := by
  simp only [groups, List.mem_cons, List.not_mem_nil, or_false] at h
  rcases h with rfl | rfl | rfl | rfl | rfl
  · exact List.mem_of_mem_take hc
  · exact List.mem_of_mem_drop (List.mem_of_mem_take hc)
  · exact List.mem_of_mem_drop (List.mem_of_mem_take hc)
  · exact List.mem_of_mem_drop (List.mem_of_mem_take hc)
  · exact List.mem_of_mem_drop hc

/-- The groups are found between hyphens. -/
theorem splitOn_groups (h : '-' ∉ digits) :
    Text.splitOn '-' (List.intercalate ['-'] (groups digits)) = groups digits := by
  rw [Text.splitOn_eq]
  exact List.splitOn_intercalate '-' (fun _ hgroup hmem => h (mem_of_mem_groups hgroup hmem))
    (List.cons_ne_nil _ _)

theorem flatten_groups (digits : List Char) : (groups digits).flatten = digits := by
  have hcut : ∀ i, (digits.drop i).take 4 ++ digits.drop (i + 4) = digits.drop i := fun i => by
    rw [← List.drop_drop, List.take_append_drop]
  simp only [groups, List.flatten_cons, List.flatten_nil, List.append_nil]
  rw [hcut 16, hcut 12, hcut 8, List.take_append_drop]

/-- Groups of the right sizes are read as the digits in them. -/
theorem ofGroups?_groups (h : '-' ∉ digits) (hlength : digits.length = 32) :
    ofGroups? (List.intercalate ['-'] (groups digits)) = ofDigits? digits := by
  have hflatten := flatten_groups digits
  simp only [groups, List.flatten_cons, List.flatten_nil, List.append_nil] at hflatten
  rw [ofGroups?, splitOn_groups h]
  simp only [groups]
  rw [if_pos (by simp [hlength])]
  simp only [List.append_assoc, hflatten]

end Groups

theorem ofGroups?_hyphenated (u : Uuid) : ofGroups? u.hyphenated = some u := by
  rw [hyphenated_eq, ofGroups?_groups (not_mem_hexadecimal (by decide) _ _)
    (length_hexadecimal _ _), ofDigits?_hexadecimal]

theorem not_mem_hyphenated {c : Char} (hc : hexValue? c = none) (hyphen : c ≠ '-') (u : Uuid) :
    c ∉ u.hyphenated := by
  have hdigits := not_mem_hexadecimal hc 32 u.bits.toNat
  have hgroups : ∀ group ∈ groups (hexadecimal 32 u.bits.toNat), c ∉ group :=
    fun _ hgroup hmem => hdigits (mem_of_mem_groups hgroup hmem)
  rw [hyphenated_eq]
  simp only [groups, List.forall_mem_cons] at hgroups
  simp [groups, List.intercalate, hgroups, hyphen]

theorem length_hyphenated (u : Uuid) : u.hyphenated.length = 36 := by
  simp [hyphenated, length_hexadecimal]

/-- An identifier is read as it was written. -/
theorem ofText?_text (u : Uuid) : ofText? u.text = some u := by
  -- the text is in none of the other three forms
  rw [ofText?, text, String.toList_ofList, ofList?, if_neg (by simp [length_hyphenated]),
    ofGroups?_hyphenated]
  · intro rest hbrace
    exact not_mem_hyphenated (c := '\x7b') (by decide) (by decide) u (hbrace ▸ List.mem_cons_self)
  · intro rest hurn
    exact not_mem_hyphenated (c := 'u') (by decide) (by decide) u (hurn ▸ List.mem_cons_self)

end OrderDesk.Uuid
