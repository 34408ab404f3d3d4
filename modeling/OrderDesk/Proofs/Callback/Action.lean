import OrderDesk.Callback.Action

/-!
# Codes stand for their actions

`Action.ofCode?_code`: a code that an action has is resolved to this action.  The exception is the
code 0, which a plain action that is not on the list has, a step of the guide that there is not
(`code_eq_zero_iff`); it stands for none.  In the other direction, an action that a code is resolved
to has this code (`code_of_ofCode?`), and its band is the band of the code (`ofCode?_band`).  So
apart from 0 codes and actions determine each other (`code_exact`).
-/

namespace OrderDesk

namespace CodeBand

variable {band : CodeBand} {i : Nat} {code : Int} {n : Int32}

theorem index?_add (h : i < band.size) : band.index? (band.first + i) = some i := by
  unfold index?
  rw [if_pos ⟨by omega, by omega⟩]
  congr 1
  omega

theorem index?_eq_none (h : code < band.first ∨ band.first + band.size ≤ code) :
    band.index? code = none := by
  unfold index?
  rw [if_neg]
  omega

/-- The code of an index, as a number. -/
theorem toInt_code (hfirst : 0 ≤ band.first) (hlast : band.first + band.size ≤ 2147483648)
    (h : band.code i = .ok n) : i < band.size ∧ n.toInt = band.first + i := by
  unfold CodeBand.code at h
  split at h
  · rename_i hi
    obtain rfl := Except.ok.inj h
    exact ⟨hi, Int32.toInt_ofInt_of_le (by omega) (by omega)⟩
  · cases h

/-- No band has the code 0. -/
theorem code_ne_zero (hfirst : 0 < band.first) (hlast : band.first + band.size ≤ 2147483648)
    (h : band.code i = .ok n) : n ≠ 0 := by
  intro hzero
  obtain ⟨-, hn⟩ := toInt_code (by omega) hlast h
  have htoInt : (0 : Int32).toInt = 0 := rfl
  rw [hzero, htoInt] at hn
  omega

theorem code_of_lt (band : CodeBand) (h : i < band.size) : ∃ n, band.code i = .ok n := ⟨_, if_pos h⟩

theorem index?_eq_some_iff : band.index? code = some i ↔ i < band.size ∧ code = band.first + i := by
  unfold index?
  split <;> simp only [Option.some.injEq, reduceCtorEq, false_iff] <;> omega

theorem code_eq_error_iff {e : CallbackError} :
    band.code i = .error e ↔ band.size ≤ i ∧ e = .outOfBand i := by
  unfold CodeBand.code
  split
  · rename_i hi
    exact ⟨fun h => (nomatch h), fun h => absurd h.1 (Nat.not_le.2 hi)⟩
  · rename_i hi
    exact ⟨fun h => ⟨Nat.not_lt.1 hi, (Except.error.inj h).symm⟩, fun h => congrArg _ h.2.symm⟩

/-- All bands. -/
def all : List CodeBand := [removePosition, catalog, faq]

end CodeBand

namespace Action

/-- Only the actions on the list have codes as plain actions. -/
theorem mem_plain {a : Action} (h : a.plainCode ≠ 0) : a ∈ plain := by
  refine Decidable.byContradiction fun hmem => ?_
  have hnone : plain.findIdx? (· == a) = none := by
    rw [List.findIdx?_eq_none_iff]
    intro x hx
    simpa using fun hxa : x = a => hmem (hxa ▸ hx)
  rw [plainCode, hnone] at h
  exact h rfl

theorem ofCode?_place : ∀ i < plain.length, ofCode? (Int32.ofNat (i + 1)) = plain[i]? := by
  decide +kernel

/-- The code of a plain action is its place on the list. -/
theorem ofCode?_plainCode {a : Action} (h : a.plainCode ≠ 0) : ofCode? a.plainCode = some a := by
  unfold plainCode at h ⊢
  cases hi : plain.findIdx? (· == a) with
  | none =>
    rw [hi] at h
    exact absurd rfl h
  | some i =>
    obtain ⟨hlt, ha, -⟩ := List.findIdx?_eq_some_iff_getElem.1 hi
    have hget : plain[i]? = some a := by
      rw [List.getElem?_eq_getElem hlt]
      exact congrArg some (by simpa using ha)
    exact (ofCode?_place i hlt).trans hget

theorem ofCode?_removePosition {i : Nat} {n : Int32}
    (h : CodeBand.removePosition.code i = .ok n) : ofCode? n = some (removePosition i) := by
  obtain ⟨hi, hn⟩ := CodeBand.toInt_code (by decide) (by decide) h
  simp only [ofCode?, hn, CodeBand.index?_add hi]

theorem ofCode?_faqAnswer {i : Nat} {n : Int32} (h : CodeBand.faq.code i = .ok n) :
    ofCode? n = some (faqAnswer i) := by
  obtain ⟨hi, hn⟩ := CodeBand.toInt_code (by decide) (by decide) h
  -- the bands lie one after another
  have hfirst : CodeBand.faq.first = 1400 := rfl
  have hlines : CodeBand.removePosition.index? (CodeBand.faq.first + i) = none :=
    CodeBand.index?_eq_none (.inr (by
      have hend : CodeBand.removePosition.first + CodeBand.removePosition.size = 1200 := rfl
      omega))
  have hitems : CodeBand.catalog.index? (CodeBand.faq.first + i) = none :=
    CodeBand.index?_eq_none (.inr (by
      have hend : CodeBand.catalog.first + CodeBand.catalog.size = 1400 := rfl
      omega))
  simp only [ofCode?, hn, hlines, hitems, CodeBand.index?_add hi, Option.isSome_none,
    Bool.false_eq_true, if_false]

/-- A code that an action has stands for it. -/
theorem ofCode?_code {a : Action} {n : Int32} (h : a.code = .ok n) (hn : n ≠ 0) :
    ofCode? n = some a := by
  unfold Action.code at h
  split at h
  · exact ofCode?_removePosition h
  · obtain rfl := Except.ok.inj h
    decide
  · obtain rfl := Except.ok.inj h
    decide
  · exact ofCode?_faqAnswer h
  · obtain rfl := Except.ok.inj h
    exact ofCode?_plainCode hn

/-! ## Plain actions -/

variable {a b : Action} {n : Int32}

theorem plainCode_ne_zero : ∀ a ∈ plain, a.plainCode ≠ 0 := by
  decide +kernel

theorem code_plain (ha : a ∈ plain) : a.code = .ok a.plainCode := by
  unfold Action.code
  split
  · simp [plain] at ha
  · simp [plain] at ha
  · simp [plain] at ha
  · simp [plain] at ha
  · rfl

/-- The band that an action has its code in; plain actions have theirs in none. -/
def band? : Action → Option CodeBand
  | removePosition _ => some .removePosition
  | catalogPrev => some .catalog
  | catalogNext => some .catalog
  | faqAnswer _ => some .faq
  | _ => none

/-- The codes of plain actions count their places on the list, and no band reaches down to them. -/
theorem plainCode_place : ∀ p ∈ plain.zipIdx, p.1.plainCode = Int32.ofNat (p.2 + 1) ∧
    p.1.band? = none ∧ ∀ band ∈ CodeBand.all, band.index? (Int32.ofNat (p.2 + 1)).toInt = none := by
  decide +kernel

/-! ## From codes to actions -/

/-- What a code that stands for an action can be. -/
theorem ofCode?_cases (h : ofCode? n = some a) :
    (∃ i < CodeBand.removePosition.size,
      n.toInt = CodeBand.removePosition.first + i ∧ a = removePosition i) ∨
    (n = catalogPrevCode ∧ a = catalogPrev) ∨ (n = catalogNextCode ∧ a = catalogNext) ∨
    (∃ i < CodeBand.faq.size, n.toInt = CodeBand.faq.first + i ∧ a = faqAnswer i) ∨
    ∃ i, (a, i) ∈ plain.zipIdx ∧ n = Int32.ofNat (i + 1) := by
  unfold ofCode? at h
  split at h
  · rename_i i hi
    obtain ⟨hlt, hn⟩ := CodeBand.index?_eq_some_iff.1 hi
    exact .inl ⟨i, hlt, hn, (Option.some.inj h).symm⟩
  · split at h
    · split at h
      · rename_i hn
        exact .inr (.inl ⟨hn, (Option.some.inj h).symm⟩)
      · split at h
        · rename_i hn
          exact .inr (.inr (.inl ⟨hn, (Option.some.inj h).symm⟩))
        · cases h
    · split at h
      · rename_i i hi
        obtain ⟨hlt, hn⟩ := CodeBand.index?_eq_some_iff.1 hi
        exact .inr (.inr (.inr (.inl ⟨i, hlt, hn, (Option.some.inj h).symm⟩)))
      · split at h
        · cases h
        · obtain ⟨hlt, -⟩ := List.getElem?_eq_some_iff.1 h
          have hlength : plain.length = 35 := rfl
          refine .inr (.inr (.inr (.inr ⟨_, List.mk_mem_zipIdx_iff_getElem?.2 h, ?_⟩)))
          rw [← Int32.toInt_inj, Int32.toInt_ofNat_of_lt (by omega)]
          omega

/-- An action that a code stands for has this code. -/
theorem code_of_ofCode? (h : ofCode? n = some a) : a.code = .ok n := by
  rcases ofCode?_cases h with ⟨i, hi, hn, rfl⟩ | ⟨rfl, rfl⟩ | ⟨rfl, rfl⟩ | ⟨i, hi, hn, rfl⟩ |
    ⟨i, hi, rfl⟩
  · rw [Action.code, CodeBand.code, if_pos hi, ← hn, Int32.ofInt_toInt]
  · rfl
  · rfl
  · rw [Action.code, CodeBand.code, if_pos hi, ← hn, Int32.ofInt_toInt]
  · rw [code_plain (List.fst_mem_of_mem_zipIdx hi), (plainCode_place _ hi).1]

/-- The bands lie one after another. -/
theorem bands_apart : ∀ x ∈ CodeBand.all, ∀ y ∈ CodeBand.all,
    x = y ∨ x.first + x.size ≤ y.first ∨ y.first + y.size ≤ x.first := by
  decide +kernel

/-- A code lies in a band exactly when the action that it stands for does. -/
theorem ofCode?_band (h : ofCode? n = some a) {band : CodeBand} (hband : band ∈ CodeBand.all) :
    (band.index? n.toInt).isSome ↔ a.band? = some band := by
  -- in its own band the code has an index, and other bands lie beside it
  have hindexed : ∀ own ∈ CodeBand.all, ∀ i < own.size, n.toInt = own.first + i →
      ((band.index? n.toInt).isSome ↔ some own = some band) := by
    intro own hown i hi hn
    by_cases hsame : own = band
    · subst hsame
      rw [hn, CodeBand.index?_add hi]
      simp
    · have hapart := (bands_apart own hown band hband).resolve_left hsame
      rw [CodeBand.index?_eq_none (by omega)]
      simp [hsame]
  rcases ofCode?_cases h with ⟨i, hi, hn, rfl⟩ | ⟨rfl, rfl⟩ | ⟨rfl, rfl⟩ | ⟨i, hi, hn, rfl⟩ |
    ⟨i, hi, rfl⟩
  · exact hindexed .removePosition (by decide) i hi hn
  · exact hindexed .catalog (by decide) 0 (by decide) (by decide)
  · exact hindexed .catalog (by decide) 1 (by decide) (by decide)
  · exact hindexed .faq (by decide) i hi hn
  · obtain ⟨-, hnone, hfree⟩ := plainCode_place _ hi
    rw [hfree band hband, hnone]
    simp

/-! ## Actions without a code -/

theorem guideStep_mem_plain {k : UInt8} : guideStep k ∈ plain ↔ ¬ (k < 1 ∨ 4 < k) := by
  have hmem : guideStep k ∈ plain ↔ k = 1 ∨ k = 2 ∨ k = 3 ∨ k = 4 := by simp [plain]
  rw [hmem, UInt8.lt_iff_toNat_lt, UInt8.lt_iff_toNat_lt]
  simp only [← UInt8.toNat_inj, UInt8.reduceToNat]
  omega

/-- The code 0 is left to the steps that the guide has not. -/
theorem code_eq_zero_iff : a.code = .ok 0 ↔ ∃ k, a = guideStep k ∧ (k < 1 ∨ 4 < k) := by
  constructor
  · intro h
    have hlisted : a ∉ plain := fun ha =>
      plainCode_ne_zero a ha (Except.ok.inj ((code_plain ha).symm.trans h))
    cases a with
    | guideStep k =>
      exact ⟨k, rfl, Decidable.of_not_not fun hk => hlisted (guideStep_mem_plain.2 hk)⟩
    | removePosition i => exact absurd rfl (CodeBand.code_ne_zero (by decide) (by decide) h)
    | faqAnswer i => exact absurd rfl (CodeBand.code_ne_zero (by decide) (by decide) h)
    | catalogPrev => exact absurd (Except.ok.inj h) (by decide)
    | catalogNext => exact absurd (Except.ok.inj h) (by decide)
    | orderType t => cases t <;> exact absurd (by decide) hlisted
    | location l => cases l <;> exact absurd (by decide) hlisted
    | category c => cases c <;> exact absurd (by decide) hlisted
    | button b => cases b <;> exact absurd (by decide) hlisted
    | calculatorOrderType t => cases t <;> exact absurd (by decide) hlisted
    | calculatorLocation l => cases l <;> exact absurd (by decide) hlisted
    | calculatorCategory c => cases c <;> exact absurd (by decide) hlisted
    | _ => exact absurd (by decide) hlisted
  · rintro ⟨k, rfl, hk⟩
    have hzero : (guideStep k).plainCode = 0 := Decidable.of_not_not fun hne =>
      guideStep_mem_plain.1 (mem_plain hne) hk
    exact congrArg Except.ok hzero

/-- An action has no code exactly when it has an index that its band has not. -/
theorem code_eq_error_iff {e : CallbackError} :
    a.code = .error e ↔ ∃ i, e = .outOfBand i ∧
      (a = removePosition i ∧ CodeBand.removePosition.size ≤ i ∨
        a = faqAnswer i ∧ CodeBand.faq.size ≤ i) := by
  constructor
  · intro h
    unfold Action.code at h
    split at h
    · rename_i i
      obtain ⟨hi, he⟩ := CodeBand.code_eq_error_iff.1 h
      exact ⟨i, he, .inl ⟨rfl, hi⟩⟩
    · cases h
    · cases h
    · rename_i i
      obtain ⟨hi, he⟩ := CodeBand.code_eq_error_iff.1 h
      exact ⟨i, he, .inr ⟨rfl, hi⟩⟩
    · cases h
  · rintro ⟨i, rfl, ⟨rfl, hi⟩ | ⟨rfl, hi⟩⟩
    · exact CodeBand.code_eq_error_iff.2 ⟨hi, rfl⟩
    · exact CodeBand.code_eq_error_iff.2 ⟨hi, rfl⟩

/-! ## Codes and actions -/

theorem ofCode?_zero : ofCode? 0 = none := by decide +kernel

theorem ofCode?_eq_some_iff : ofCode? n = some a ↔ a.code = .ok n ∧ n ≠ 0 := by
  refine ⟨fun h => ⟨code_of_ofCode? h, ?_⟩, fun h => ofCode?_code h.1 h.2⟩
  rintro rfl
  rw [ofCode?_zero] at h
  cases h

/-- Codes stand for the actions that have them, apart from 0.  An action that has no code or the
code 0 is an index beyond its band or a step that the guide has not, no two actions share another
code, and a code is never read as an action of another band than its own. -/
theorem code_exact :
    (∀ (a : Action) (n : Int32), ofCode? n = some a ↔ a.code = .ok n ∧ n ≠ 0) ∧
    (∀ (a : Action) (e : CallbackError), a.code = .error e ↔ ∃ i, e = .outOfBand i ∧
      (a = removePosition i ∧ CodeBand.removePosition.size ≤ i ∨
        a = faqAnswer i ∧ CodeBand.faq.size ≤ i)) ∧
    (∀ a : Action, a.code = .ok 0 ↔ ∃ k, a = guideStep k ∧ (k < 1 ∨ 4 < k)) ∧
    (∀ (a b : Action) (n : Int32), a.code = .ok n → b.code = .ok n → a = b ∨ n = 0) ∧
    ∀ (a : Action) (n : Int32), ofCode? n = some a → ∀ band ∈ CodeBand.all,
      ((band.index? n.toInt).isSome ↔ a.band? = some band) := by
  refine ⟨fun _ _ => ofCode?_eq_some_iff, fun _ _ => code_eq_error_iff, fun _ => code_eq_zero_iff,
    fun a b n ha hb => ?_, fun _ _ h _ hband => ofCode?_band h hband⟩
  by_cases hn : n = 0
  · exact .inr hn
  · exact .inl (Option.some.inj ((ofCode?_code ha hn).symm.trans (ofCode?_code hb hn)))

/-- At the edge between two bands. -/
theorem edge_exact : (removePosition 199).code = .ok 1199 ∧
    ofCode? 1199 = some (removePosition 199) ∧
    (CodeBand.removePosition.index? (1199 : Int32).toInt).isSome := by
  have hcode : (removePosition 199).code = .ok 1199 := rfl
  have hread : ofCode? 1199 = some (removePosition 199) :=
    (code_exact.1 _ _).2 ⟨hcode, by decide⟩
  exact ⟨hcode, hread, (code_exact.2.2.2.2 _ _ hread .removePosition (by decide)).2 rfl⟩

/-- A fifth step of the guide has a code, but no code stands for it. -/
theorem fifth_step_unread : ¬ ∀ a : Action, (∃ e, a.code = .error e) ∨
    ∃ n, a.code = .ok n ∧ ofCode? n = some a := by
  intro h
  have hcode : (guideStep 5).code = .ok 0 := rfl
  rcases h (guideStep 5) with ⟨e, he⟩ | ⟨n, hn, hread⟩
  · cases he
  · obtain rfl := Except.ok.inj (hn.symm.trans hcode)
    rw [ofCode?_zero] at hread
    cases hread

end Action

end OrderDesk
