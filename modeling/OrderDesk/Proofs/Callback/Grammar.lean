import Mathlib.Data.List.Forall2
import OrderDesk.Callback.Data
import OrderDesk.Proofs.Decimal.Integer
import OrderDesk.Proofs.Text.Split

/-!
# How button data are spelled

`ButtonData.Spelling` is the grammar of what a button carries: a number, or a payload behind its
marker and a number after the last colon.  Reading accepts exactly what the grammar derives
(`ofList_eq_ok_iff`).  Numbers hold neither a comma nor a colon, so ids can be told apart at the
commas, and a text may hold both because its end is found at the last colon.
-/

namespace OrderDesk

open Decimal (Numeral)

section Except

variable {ε α β : Type}

theorem bind_eq_ok_iff {x : Except ε α} {f : α → Except ε β} {b : β} :
    x >>= f = .ok b ↔ ∃ a, x = .ok a ∧ f a = .ok b := by
  cases x <;> simp [bind, Except.bind]

theorem map_eq_ok_iff {x : Except ε α} {f : α → β} {b : β} :
    f <$> x = .ok b ↔ ∃ a, x = .ok a ∧ f a = b := by
  cases x <;> simp

theorem mapM_eq_ok_iff {f : α → Except ε β} {xs : List α} {ys : List β} :
    xs.mapM f = .ok ys ↔ List.Forall₂ (fun x y => f x = .ok y) xs ys := by
  induction xs generalizing ys with
  | nil => simp [pure, Except.pure, eq_comm]
  | cons x xs ih =>
    simp only [List.mapM_cons, bind_eq_ok_iff, ih, List.forall₂_cons_left_iff]
    constructor
    · rintro ⟨y, hy, rest, hrest, hys⟩
      exact ⟨y, rest, hy, hrest, (Except.ok.inj hys).symm⟩
    · rintro ⟨y, rest, hy, hrest, rfl⟩
      exact ⟨y, hy, rest, hrest, rfl⟩

end Except

namespace ButtonData

/-! ## The grammar -/

/-- The spellings of message ids: nothing, or numbers with commas between. -/
def Ids (s : List Char) (ids : List Int32) : Prop :=
  ∃ pieces, List.Forall₂ (fun piece id => Numeral piece id.toInt) pieces ids ∧
    s = [','].intercalate pieces

/-- The spellings of button data. -/
inductive Spelling : List Char → ButtonData → Prop where
  | bare {s : List Char} {code : Int32} (h : Numeral s code.toInt) : Spelling s ⟨code, .none⟩
  | messageIds {s t : List Char} {ids : List Int32} {code : Int32} (hids : Ids s ids)
    (hcode : Numeral t code.toInt) : Spelling ('m' :: s ++ ':' :: t) ⟨code, .messageIds ids⟩
  | text {s t : List Char} {code : Int32} (hcode : Numeral t code.toInt) :
    Spelling ('s' :: s ++ ':' :: t) ⟨code, .text (String.ofList s)⟩

/-! ## Reading -/

variable {s : List Char} {code : Int32} {ids : List Int32} {d : ButtonData}

theorem readCode_eq_ok_iff : readCode s = .ok code ↔ Numeral s code.toInt := by
  rw [← Decimal.int32?_eq_some_iff, readCode]
  cases Decimal.int32? s <;> simp

theorem readId_eq_ok_iff {id : Int32} : readId s = .ok id ↔ Numeral s id.toInt := by
  rw [← Decimal.int32?_eq_some_iff, readId]
  cases Decimal.int32? s <;> simp

theorem colon_not_mem (h : Numeral s code.toInt) : ':' ∉ s :=
  h.not_mem (by decide) (by decide) (by decide)

theorem comma_not_mem {pieces : List (List Char)}
    (h : List.Forall₂ (fun piece id => Numeral piece id.toInt) pieces ids) :
    ∀ piece ∈ pieces, ',' ∉ piece := by
  induction h with
  | nil => exact List.forall_mem_nil _
  | cons hpiece _ ih =>
    have hfirst := hpiece.not_mem (c := ',') (by decide) (by decide) (by decide)
    exact List.forall_mem_cons.2 ⟨hfirst, ih⟩

theorem readIds_eq_ok_iff : readIds s = .ok ids ↔ Ids s ids := by
  have hread : ∀ {pieces : List (List Char)}, pieces.mapM readId = .ok ids ↔
      List.Forall₂ (fun piece id => Numeral piece id.toInt) pieces ids := by
    intro pieces
    simp only [mapM_eq_ok_iff, readId_eq_ok_iff]
  unfold readIds
  split
  · rename_i hempty
    obtain rfl := List.isEmpty_iff.1 hempty
    constructor
    · intro h
      obtain rfl := Except.ok.inj h
      exact ⟨[], .nil, rfl⟩
    · rintro ⟨pieces, hpieces, hnil⟩
      cases hpieces with
      | nil => rfl
      | @cons piece id pieces ids hpiece hrest =>
        -- the first number would leave at least one character
        have hne : piece = [] := by
          cases pieces with
          | nil => simpa using hnil.symm
          | cons _ _ => simp at hnil
        exact absurd hne hpiece.ne_nil
  · rename_i hnonempty
    rw [Text.splitOn_eq, hread]
    constructor
    · intro h
      exact ⟨_, h, (List.intercalate_splitOn ',').symm⟩
    · rintro ⟨pieces, hpieces, rfl⟩
      have hne : pieces ≠ [] := by
        rintro rfl
        exact hnonempty rfl
      rwa [List.splitOn_intercalate ',' (comma_not_mem hpieces) hne]

/-- Data are read from their spellings and from nothing else. -/
theorem ofList_eq_ok_iff : ofList s = .ok d ↔ Spelling s d := by
  constructor
  · intro h
    unfold ofList at h
    split at h
    · cases h
    cases hcut : Text.splitLast? ':' s with
    | none =>
      simp only [hcut] at h
      obtain ⟨code, hcode, rfl⟩ := map_eq_ok_iff.1 h
      exact .bare (readCode_eq_ok_iff.1 hcode)
    | some cut =>
      obtain ⟨body, t⟩ := cut
      obtain ⟨rfl, -⟩ := Text.splitLast?_eq_some_iff.1 hcut
      simp only [hcut] at h
      obtain ⟨code, hread, h⟩ := bind_eq_ok_iff.1 h
      have hcode := readCode_eq_ok_iff.1 hread
      split at h
      · obtain ⟨ids, hids, h⟩ := bind_eq_ok_iff.1 h
        obtain rfl := Except.ok.inj h
        exact .messageIds (readIds_eq_ok_iff.1 hids) hcode
      · obtain rfl := Except.ok.inj h
        exact .text hcode
      · cases h
  · intro h
    cases h with
    | bare hcode =>
      have hcut := Text.splitLast?_eq_none_iff.2 (colon_not_mem hcode)
      have hne : s.isEmpty = false := by simpa using hcode.ne_nil
      simp only [ofList, hne, hcut, readCode_eq_ok_iff.2 hcode, Bool.false_eq_true, if_false]
      rfl
    | @messageIds s t ids code hids hcode =>
      have hcut : Text.splitLast? ':' ('m' :: s ++ ':' :: t) = some ('m' :: s, t) :=
        Text.splitLast?_eq_some_iff.2 ⟨rfl, colon_not_mem hcode⟩
      have hne : ('m' :: s ++ ':' :: t).isEmpty = false := rfl
      simp only [ofList, hne, hcut, Bool.false_eq_true, if_false]
      exact bind_eq_ok_iff.2 ⟨code, readCode_eq_ok_iff.2 hcode,
        bind_eq_ok_iff.2 ⟨ids, readIds_eq_ok_iff.2 hids, rfl⟩⟩
    | @text s t code hcode =>
      have hcut : Text.splitLast? ':' ('s' :: s ++ ':' :: t) = some ('s' :: s, t) :=
        Text.splitLast?_eq_some_iff.2 ⟨rfl, colon_not_mem hcode⟩
      have hne : ('s' :: s ++ ':' :: t).isEmpty = false := rfl
      simp only [ofList, hne, hcut, Bool.false_eq_true, if_false]
      exact bind_eq_ok_iff.2 ⟨code, readCode_eq_ok_iff.2 hcode, rfl⟩

end ButtonData

end OrderDesk
