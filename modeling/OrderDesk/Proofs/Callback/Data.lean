import OrderDesk.Proofs.Callback.Grammar

/-!
# What a button carries

The written form of button data (`ButtonData.form`) is one of their spellings, so reading it gives
them back whatever they are (`encode_round_trip`).  No other spelling is shorter
(`Spelling.byteLength_le`), so data that were read from a button can be written on one again
(`decode_reencode`).

The length matters for message ids above all: a button with message ids is short enough if the ids
leave room for its code (`encode_messageIds`), they still do when some are dropped from the end
(`Fits.take`), and those of an album that was just sent always do (`fits_album`).
-/

namespace OrderDesk

open Decimal (Numeral integerText numeral_integerText)
open Text (byteLength byteLength_append byteLength_cons)

namespace ButtonData

variable {s : List Char} {ids : List Int32} {code : Int32} {d : ButtonData} {raw : String}

/-! ## The written form -/

/-- The written form, however long: numbers in decimal without plus sign or zeros in front. -/
def form (d : ButtonData) : String :=
  let code := toString d.code.toInt
  match d.payload with
  | .none => code
  | .messageIds ids => "m" ++ ",".intercalate (ids.map fun id => toString id.toInt) ++ ":" ++ code
  | .text s => "s" ++ s ++ ":" ++ code

theorem writeIds_cons_cons (id id' : Int32) (ids : List Int32) :
    writeIds (id :: id' :: ids) = integerText id.toInt ++ ',' :: writeIds (id' :: ids) := rfl

theorem writeIds_eq (ids : List Int32) :
    writeIds ids = [','].intercalate (ids.map fun id => integerText id.toInt) := by
  induction ids with
  | nil => rfl
  | cons id ids ih =>
    cases ids with
    | nil => simp [writeIds]
    | cons id' ids =>
      rw [writeIds_cons_cons, ih]
      simp

theorem toList_form (d : ButtonData) : d.form.toList = d.wire := by
  obtain ⟨code, payload⟩ := d
  cases payload with
  | none => simp [form, wire, Decimal.toList_repr]
  | messageIds ids =>
    have hids : (",".intercalate (ids.map fun id => toString id.toInt)).toList = writeIds ids := by
      simp [String.toList_intercalate, writeIds_eq, Decimal.toList_repr, Function.comp_def]
    simp [form, wire, writeIds_eq, Decimal.toList_repr, Function.comp_def]
  | text s => simp [form, wire, Decimal.toList_repr]

theorem byteLength_wire (d : ButtonData) : byteLength d.wire = d.form.utf8ByteSize := by
  rw [← Text.utf8ByteSize_ofList, ← toList_form, String.ofList_toList]

/-- The written form is a spelling. -/
theorem spelling_wire (d : ButtonData) : Spelling d.wire d := by
  obtain ⟨code, payload⟩ := d
  have hcode : Numeral (integerText code.toInt) code.toInt := numeral_integerText _
  cases payload with
  | none => exact .bare hcode
  | messageIds ids =>
    have hids : List.Forall₂ (fun piece id => Numeral piece id.toInt)
        (ids.map fun id => integerText id.toInt) ids := by
      rw [List.forall₂_map_left_iff, List.forall₂_same]
      intro id _
      exact numeral_integerText _
    exact .messageIds ⟨_, hids, writeIds_eq ids⟩ hcode
  | text s =>
    have h := Spelling.text (s := s.toList) hcode
    rw [String.ofList_toList] at h
    exact h

/-! ## Reading what was written -/

theorem encode_eq_ok {s : String} (h : d.encode = .ok s) :
    s = String.ofList d.wire ∧ byteLength d.wire ≤ maxBytes := by
  simp only [encode] at h
  split at h
  · cases h
  · rename_i hshort
    exact ⟨(Except.ok.inj h).symm, Nat.le_of_not_lt hshort⟩

theorem encode_of_le (h : byteLength d.wire ≤ maxBytes) : d.encode = .ok (String.ofList d.wire) :=
  if_neg (Nat.not_lt.2 h)

theorem ofList_wire (d : ButtonData) : ofList d.wire = .ok d :=
  ofList_eq_ok_iff.2 (spelling_wire d)

/-- What was written on a button is what is read from it. -/
theorem decode_encode {s : String} (h : d.encode = .ok s) : decode s = .ok d := by
  rw [(encode_eq_ok h).1, decode, String.toList_ofList, ofList_wire]

theorem encode_eq_ok_iff : d.encode = .ok raw ↔ raw = d.form ∧ raw.utf8ByteSize ≤ 64 := by
  have hform : String.ofList d.wire = d.form := by rw [← toList_form, String.ofList_toList]
  constructor
  · intro h
    obtain ⟨rfl, hshort⟩ := encode_eq_ok h
    rw [byteLength_wire] at hshort
    rw [hform]
    exact ⟨rfl, hshort⟩
  · rintro ⟨rfl, hshort⟩
    rw [← byteLength_wire] at hshort
    rw [encode_of_le hshort, hform]

theorem encode_eq_error_iff {e : CallbackError} :
    d.encode = .error e ↔ ∃ n, e = .tooLong n ∧ n = d.form.utf8ByteSize ∧ 64 < n := by
  simp only [encode, byteLength_wire]
  split
  · rename_i hlong
    constructor
    · intro h
      exact ⟨_, (Except.error.inj h).symm, rfl, hlong⟩
    · rintro ⟨n, rfl, rfl, -⟩
      rfl
  · rename_i hshort
    constructor
    · intro h
      cases h
    · rintro ⟨n, -, rfl, hlong⟩
      exact absurd hlong hshort

/-- Whatever a button is to carry, its written form is refused exactly if it takes more than 64
bytes, with their number, and otherwise read back as it was; so no two buttons are written alike. -/
theorem encode_round_trip (d : ButtonData) :
    (∀ raw, d.encode = .ok raw ↔ raw = d.form ∧ raw.utf8ByteSize ≤ 64) ∧
      (∀ e, d.encode = .error e ↔ ∃ n, e = .tooLong n ∧ n = d.form.utf8ByteSize ∧ 64 < n) ∧
      (∀ raw, d.encode = .ok raw → decode raw = .ok d) ∧
      ∀ d' raw, d.encode = .ok raw → d'.encode = .ok raw → d' = d := by
  refine ⟨fun raw => encode_eq_ok_iff, fun e => encode_eq_error_iff, fun raw => decode_encode, ?_⟩
  intro d' raw h h'
  have hread : Except.ok d' = .ok d := (decode_encode h').symm.trans (decode_encode h)
  exact Except.ok.inj hread

/-- The smallest and the largest numbers, in a code and in ids. -/
theorem extreme_round_trip :
    let d : ButtonData := ⟨-2147483648, .messageIds [-1, 0, 2147483647]⟩
    d.encode = .ok "m-1,0,2147483647:-2147483648" ∧
      decode "m-1,0,2147483647:-2147483648" = .ok d := by
  intro d
  obtain ⟨hwritten, -, hread, -⟩ := encode_round_trip d
  have hencode : d.encode = .ok "m-1,0,2147483647:-2147483648" :=
    (hwritten _).2 ⟨by decide +kernel, by decide +kernel⟩
  exact ⟨hencode, hread _ hencode⟩

/-! ## Writing what was read -/

theorem byteLength_numeral {n : Int} (h : Numeral s n) : byteLength s = s.length := by
  refine Text.byteLength_eq_length fun c hc => Char.utf8Size_eq_one_iff.2 ?_
  rcases h.mem hc with rfl | rfl | hdigit
  · decide
  · decide
  · simp only [Char.isDigit, Bool.and_eq_true, decide_eq_true_eq] at hdigit
    exact UInt32.le_trans hdigit.2 (by decide)

theorem byteLength_integerText (n : Int) : byteLength (integerText n) = (integerText n).length :=
  byteLength_numeral (numeral_integerText n)

theorem Numeral.byteLength_le {n : Int} (h : Numeral s n) :
    byteLength (integerText n) ≤ byteLength s := by
  rw [byteLength_integerText, byteLength_numeral h]
  exact h.length_le

theorem Ids.byteLength_le (h : Ids s ids) : byteLength (writeIds ids) ≤ byteLength s := by
  obtain ⟨pieces, hpieces, rfl⟩ := h
  induction hpieces with
  | nil => exact Nat.zero_le _
  | @cons piece id pieces ids hpiece hrest ih =>
    have hfirst := Numeral.byteLength_le hpiece
    cases hrest with
    | nil => simpa [writeIds] using hfirst
    | cons _ _ =>
      rw [writeIds_cons_cons, List.intercalate_cons_cons, byteLength_append, byteLength_append,
        byteLength_append, byteLength_cons]
      have hcomma : byteLength [','] = ','.utf8Size := rfl
      omega

/-- No spelling is shorter than the written form. -/
theorem Spelling.byteLength_le (h : Spelling s d) : byteLength d.wire ≤ byteLength s := by
  cases h with
  | bare hcode => exact Numeral.byteLength_le hcode
  | messageIds hids hcode =>
    have hpayload := Ids.byteLength_le hids
    have hnumber := Numeral.byteLength_le hcode
    simp only [wire, List.cons_append, byteLength_cons, byteLength_append]
    omega
  | text hcode =>
    have hnumber := Numeral.byteLength_le hcode
    simp only [wire, List.cons_append, byteLength_cons, byteLength_append, String.toList_ofList]
    omega

/-- Reading accepts the spellings of the grammar and nothing else.  The written form of what was
read takes no more bytes than what it was read from, so it fits a button if that did and is read as
the same again. -/
theorem decode_reencode (raw : String) :
    (∀ d, decode raw = .ok d ↔ Spelling raw.toList d) ∧
      ∀ d, decode raw = .ok d → d.form.utf8ByteSize ≤ raw.utf8ByteSize ∧
        (raw.utf8ByteSize ≤ 64 → d.encode = .ok d.form ∧ decode d.form = .ok d) := by
  have hspelling : ∀ d, decode raw = .ok d ↔ Spelling raw.toList d := fun d => ofList_eq_ok_iff
  refine ⟨hspelling, fun d h => ?_⟩
  have hle : d.form.utf8ByteSize ≤ raw.utf8ByteSize := by
    have hlength := ((hspelling d).1 h).byteLength_le
    rw [byteLength_wire, ← Text.utf8ByteSize_ofList, String.ofList_toList] at hlength
    exact hlength
  refine ⟨hle, fun hshort => ?_⟩
  have hencode : d.encode = .ok d.form := encode_eq_ok_iff.2 ⟨rfl, Nat.le_trans hle hshort⟩
  exact ⟨hencode, decode_encode hencode⟩

/-- Signs and zeros that are not needed are gone once data are written again. -/
theorem reencode_shorter :
    let d : ButtonData := ⟨5, .messageIds [7, 0]⟩
    decode "m+007,-0:+05" = .ok d ∧ d.encode = .ok "m7,0:5" ∧ decode "m7,0:5" = .ok d := by
  intro d
  have hread : decode "m+007,-0:+05" = .ok d := by decide +kernel
  obtain ⟨-, hagain⟩ := (decode_reencode "m+007,-0:+05").2 d hread
  have hform : d.form = "m7,0:5" := by decide +kernel
  obtain ⟨hencode, hdecode⟩ := hagain (by decide +kernel)
  rw [hform] at hencode hdecode
  exact ⟨hread, hencode, hdecode⟩

/-! ## Message ids that fit -/

/-- Message ids leave room for a code of some digits. -/
def Fits (digits : Nat) (ids : List Int32) : Prop :=
  byteLength (writeIds ids) + digits + 2 ≤ maxBytes

theorem byteLength_wire_messageIds (code : Int32) (ids : List Int32) :
    byteLength (wire ⟨code, .messageIds ids⟩) =
      byteLength (writeIds ids) + (integerText code.toInt).length + 2 := by
  have hm : 'm'.utf8Size = 1 := by decide
  have hcolon : ':'.utf8Size = 1 := by decide
  simp only [wire, byteLength_cons, byteLength_append, byteLength_integerText, hm, hcolon]
  omega

/-- A button with message ids is short enough exactly if the ids leave room for its code. -/
theorem encode_messageIds {code : Int32} {ids : List Int32}
    (h : Fits (integerText code.toInt).length ids) :
    ∃ s, encode ⟨code, .messageIds ids⟩ = .ok s := by
  refine ⟨_, encode_of_le ?_⟩
  rw [byteLength_wire_messageIds]
  exact h

theorem fits_of_encode {code : Int32} {ids : List Int32} {s : String}
    (h : encode ⟨code, .messageIds ids⟩ = .ok s) : Fits (integerText code.toInt).length ids := by
  have hshort := (encode_eq_ok h).2
  rw [byteLength_wire_messageIds] at hshort
  exact hshort

/-- The ids on a button that was written leave room for its code. -/
theorem fits_messageIds {d : ButtonData} {s : String} (h : d.encode = .ok s)
    (hids : d.messageIds ≠ []) : Fits (integerText d.code.toInt).length d.messageIds := by
  obtain ⟨code, payload⟩ := d
  cases payload with
  | messageIds ids => exact fits_of_encode h
  | _ => exact absurd rfl hids

theorem Fits.mono {digits digits' : Nat} {ids : List Int32} (h : Fits digits ids)
    (hle : digits' ≤ digits) : Fits digits' ids := by
  unfold Fits at h ⊢
  omega

/-- Dropping ids from the end leaves more room. -/
theorem Fits.take {digits : Nat} {ids : List Int32} (h : Fits digits ids) (n : Nat) :
    Fits digits (ids.take n) := by
  have hle : ∀ (ids : List Int32) (n : Nat),
      byteLength (writeIds (ids.take n)) ≤ byteLength (writeIds ids) := by
    intro ids
    induction ids with
    | nil => intro n; simp
    | cons id ids ih =>
      intro n
      cases n with
      | zero => exact Nat.zero_le _
      | succ n =>
        rw [List.take_succ_cons]
        cases ids with
        | nil => simp
        | cons id' ids =>
          cases n with
          | zero =>
            rw [List.take_zero, writeIds_cons_cons, writeIds, byteLength_append]
            exact Nat.le_add_right _ _
          | succ n =>
            have hrest := ih (n + 1)
            rw [List.take_succ_cons] at hrest ⊢
            rw [writeIds_cons_cons, writeIds_cons_cons, byteLength_append, byteLength_append,
              byteLength_cons, byteLength_cons]
            omega
  have htake := hle ids n
  unfold Fits at h ⊢
  omega

/-- The ids of up to six messages, of eight digits at most, fit a button with a code of four. -/
theorem fits_album {ids : List Int32} (hlength : ids.length ≤ 6)
    (hids : ∀ id ∈ ids, 1 ≤ id ∧ id ≤ 99999999) : Fits 4 ids := by
  have hwrite : ∀ ids : List Int32, (∀ id ∈ ids, 1 ≤ id ∧ id ≤ 99999999) →
      byteLength (writeIds ids) ≤ 9 * ids.length := by
    intro ids hids
    induction ids with
    | nil => exact Nat.le_refl _
    | cons id ids ih =>
      have hid : byteLength (integerText id.toInt) ≤ 8 := by
        obtain ⟨hlow, hhigh⟩ := hids id List.mem_cons_self
        rw [Int32.le_iff_toInt_le] at hlow hhigh
        have hlow : 1 ≤ id.toInt := hlow
        have hhigh : id.toInt ≤ 99999999 := hhigh
        rw [byteLength_integerText]
        cases hn : id.toInt with
        | ofNat n =>
          rw [hn, Int.ofNat_eq_natCast] at hhigh
          exact Decimal.length_naturalText_le (by decide) (by omega)
        | negSucc n => omega
      cases ids with
      | nil =>
        rw [writeIds]
        simp only [List.length_singleton]
        omega
      | cons id' ids =>
        have hrest := ih fun x hx => hids x (List.mem_cons_of_mem id hx)
        have hcomma : ','.utf8Size = 1 := by decide
        rw [writeIds_cons_cons, byteLength_append, byteLength_cons, hcomma]
        simp only [List.length_cons] at hrest ⊢
        omega
  have hall := hwrite ids hids
  have hmax : maxBytes = 64 := rfl
  unfold Fits
  omega

/-- An empty list of ids fits as well. -/
theorem fits_nil : Fits 4 [] := fits_album (Nat.zero_le _) (by simp)

end ButtonData

end OrderDesk
