import OrderDesk.Answer
import OrderDesk.Conversation.Calculator
import OrderDesk.Conversation.Ordering
import OrderDesk.Proofs.Decimal.Unsigned
import OrderDesk.Proofs.Pattern.Matcher
import OrderDesk.Proofs.Text.Blank
import OrderDesk.Proofs.Text.Split

/-!
# What typed answers are accepted

A phone number is described by a pattern and by what is done with a text that fits it.  The pattern
is anchored at both ends, so it says of the whole text what it is made of (`accepts_phoneNode`), and
the one thing that may stand before the number goes.  What remains is a number again.  The pattern
takes the digits of every script (`phoneNumber?_form`).

A full name is three words with one space between neighbours (`fullName?_form`).  Trimming knows every
blank, but only spaces part words: any other blank inside a name belongs to a word.

A price is a number from 1 to `maxPriceYuan` in any of its spellings (`price?_form`).  A spelling can
have any number of digits, and reading it never leaves 64 bits: what does not fit is no price.
-/

namespace OrderDesk.Answer

open Pattern (CharSet Node matches_char_iff matches_repeated_char_iff)

/-! ## Phone numbers -/

/-- The pattern of a phone number. -/
def phoneText : String := "^\\+?7\\d\x7b10\x7d$"

/-- What the pattern of a phone number says. -/
def phoneNode : Node :=
  .both (.both (.both (.both (.place .textStart) (.repeated (.char (.single '+')) 0 (some 1)))
    (.char (.single '7'))) (.repeated (.char .digit) 10 (some 10))) (.place .textEnd)

theorem ofText?_phoneText : Pattern.ofText? phoneText = some ⟨phoneText, phoneNode⟩ := by
  have hread : Pattern.group? (2 * phoneText.length + 2) 0 .start [] [] [] phoneText.toList =
      some (phoneNode, [], []) := rfl
  have hdigits : CharSet.digit.ranges.length ≤ 100 :=
    (CharSet.length_ofRanges_le _).trans (by decide)
  have hweight : phoneNode.weight ≤ Pattern.maxWeight := by
    simp only [phoneNode, Node.weight, Pattern.maxWeight, CharSet.single, List.length_singleton]
    omega
  rw [Pattern.ofText?, hread]
  exact if_pos hweight

theorem mem_digit {c : Char} : CharSet.digit.mem c ↔ Text.isDigit c := by
  rw [CharSet.mem, CharSet.digit, CharSet.contains_ofRanges, Text.isDigit, Text.inRanges]
  simp [CharSet.InRange]

/-- The pattern is anchored, so a match is the whole text: at most one plus sign and a number. -/
theorem accepts_phoneNode {s : String} :
    phoneNode.accepts s ↔
      ∃ plus digits, s.toList = plus ++ '7' :: digits ∧ plus.length ≤ 1 ∧ (∀ c ∈ plus, c = '+') ∧
        digits.length = 10 ∧ ∀ c ∈ digits, Text.isDigit c := by
  rw [Node.accepts_iff]
  generalize s.toList = l
  constructor
  · rintro ⟨i, -, j, k₃, ⟨k₂, ⟨k₁, ⟨k, ⟨hstart, rfl⟩, hsign⟩, hseven⟩, hdigits⟩, hend, rfl⟩
    obtain rfl : i = 0 := eq_of_beq hstart
    obtain rfl : k₃ = l.length := eq_of_beq hend
    obtain ⟨plus, -, hplus, hsign, hdrop, -⟩ := matches_repeated_char_iff.1 hsign
    obtain ⟨c, hc, hdrop', -⟩ := matches_char_iff.1 hseven
    obtain rfl : c = '7' := CharSet.mem_single.1 hc
    obtain ⟨digits, hleast, hmost, hdigits, hdrop'', -⟩ := matches_repeated_char_iff.1 hdigits
    rw [List.drop_length, List.append_nil] at hdrop''
    rw [List.drop_zero, hdrop', hdrop''] at hdrop
    exact ⟨plus, digits, hdrop, hplus 1 rfl, fun c hc => CharSet.mem_single.1 (hsign c hc),
      Nat.le_antisymm (hmost 10 rfl) hleast, fun c hc => mem_digit.1 (hdigits c hc)⟩
  · rintro ⟨plus, digits, rfl, hplus, hsign, hlength, hdigits⟩
    have htail : (plus ++ '7' :: digits).drop (plus.length + 1) = digits := by
      rw [← List.drop_drop, List.drop_left, List.drop_one, List.tail_cons]
    have hstart : (Node.place .textStart).Matches (plus ++ '7' :: digits).toArray 0 0 := ⟨rfl, rfl⟩
    have hplus : ((Node.char (.single '+')).repeated 0 (some 1)).Matches
        (plus ++ '7' :: digits).toArray 0 plus.length :=
      matches_repeated_char_iff.2 ⟨plus, Nat.zero_le _, by simpa using hplus,
        fun c hc => CharSet.mem_single.2 (hsign c hc), by simp, by simp⟩
    have hseven : (Node.char (.single '7')).Matches
        (plus ++ '7' :: digits).toArray plus.length (plus.length + 1) :=
      matches_char_iff.2 ⟨'7', CharSet.mem_single.2 rfl, by rw [htail, List.drop_left], rfl⟩
    have hdigits : ((Node.char .digit).repeated 10 (some 10)).Matches
        (plus ++ '7' :: digits).toArray (plus.length + 1) (plus ++ '7' :: digits).length :=
      matches_repeated_char_iff.2 ⟨digits, hlength.ge, by simp [hlength],
        fun c hc => mem_digit.2 (hdigits c hc), by simp [htail], by simp; omega⟩
    have hend : (Node.place .textEnd).Matches (plus ++ '7' :: digits).toArray
        (plus ++ '7' :: digits).length (plus ++ '7' :: digits).length := ⟨beq_self_eq_true _, rfl⟩
    exact ⟨0, Nat.zero_le _, _, _, ⟨_, ⟨_, ⟨_, hstart, hplus⟩, hseven⟩, hdigits⟩, hend⟩

/-! ## The form of a phone number -/

/-- The digit 7 and ten more digits. -/
def PhoneNumber (isDigit : Char → Bool) (n : String) : Prop :=
  ∃ digits, n.toList = '7' :: digits ∧ digits.length = 10 ∧ ∀ c ∈ digits, isDigit c

theorem isPhoneNumber_iff {n : String} :
    isPhoneNumber n.toList ↔ PhoneNumber Text.isDigit n := by
  rw [PhoneNumber]
  generalize n.toList = l
  unfold isPhoneNumber
  split
  · simp
  · rename_i hseven
    simp only [Bool.false_eq_true, false_iff]
    rintro ⟨digits, rfl, -⟩
    exact hseven digits rfl

theorem phoneNumber?_eq_some_iff {s n : String} :
    phoneNumber? s = some n ↔
      PhoneNumber Text.isDigit n ∧ (Text.trim s = n ∨ Text.trim s = "+" ++ n) := by
  have hread : ∀ t, (if isPhoneNumber t then some (String.ofList t) else none) = some n ↔
      isPhoneNumber n.toList ∧ t = n.toList := by
    intro t
    rw [Option.ite_none_right_eq_some, Option.some.injEq, ← String.toList_inj, String.toList_ofList]
    exact and_congr_left fun h => by rw [h]
  rw [phoneNumber?, hread, ← isPhoneNumber_iff, Text.trim, ← String.toList_inj,
    ← String.toList_inj, String.toList_append, String.toList_ofList]
  refine and_congr_right fun hnumber => ?_
  split
  · rename_i t ht
    have hsign : ('+' :: t) ≠ n.toList := fun h => by
      rw [← h] at hnumber
      cases hnumber
    rw [ht, or_iff_right hsign]
    exact ⟨fun h => h ▸ rfl, fun h => (List.cons.inj h).2⟩
  · rename_i hplain
    exact (or_iff_left (hplain n.toList)).symm

theorem PhoneNumber.isDigit {n : String} (h : PhoneNumber Text.isDigit n) :
    ∀ c ∈ n.toList, Text.isDigit c := by
  obtain ⟨digits, hn, -, hdigits⟩ := h
  rw [hn]
  exact List.forall_mem_cons.2 ⟨by decide, hdigits⟩

/-- An accepted number is accepted as it is. -/
theorem phoneNumber?_fixed {s n : String} (h : phoneNumber? s = some n) :
    phoneNumber? n = some n := by
  obtain ⟨hnumber, -⟩ := phoneNumber?_eq_some_iff.1 h
  have htrimmed : Text.trimmed n.toList = n.toList := Text.trimmed_of_forall fun c hc =>
    Text.not_isBlank_of_isDigit (hnumber.isDigit c hc)
  refine phoneNumber?_eq_some_iff.2 ⟨hnumber, .inl ?_⟩
  rw [Text.trim, htrimmed, String.ofList_toList]

/-- A number is what is left of a text that fits the pattern without its plus signs. -/
theorem phoneNumber?_eq_some_iff_accepts {s n : String} :
    phoneNumber? s = some n ↔
      phoneNode.accepts (Text.trim s) ∧
        n = String.ofList ((Text.trim s).toList.dropWhile (· == '+')) := by
  rw [phoneNumber?_eq_some_iff, accepts_phoneNode]
  generalize Text.trim s = t
  constructor
  · rintro ⟨⟨digits, hn, hlength, hdigits⟩, rfl | rfl⟩
    · refine ⟨⟨[], digits, hn, Nat.zero_le _, List.forall_mem_nil _, hlength, hdigits⟩, ?_⟩
      rw [← String.toList_inj, String.toList_ofList, hn]
      rfl
    · rw [String.toList_append, hn]
      refine ⟨⟨['+'], digits, rfl, Nat.le_refl _, by simp, hlength, hdigits⟩, ?_⟩
      rw [← String.toList_inj, String.toList_ofList, hn]
      rfl
  · rintro ⟨⟨plus, digits, ht, hplus, hsign, hlength, hdigits⟩, rfl⟩
    have hrest : t.toList.dropWhile (· == '+') = '7' :: digits := by
      rw [ht, List.dropWhile_append_of_pos fun c hc => beq_iff_eq.2 (hsign c hc)]
      rfl
    rw [hrest]
    refine ⟨⟨digits, String.toList_ofList, hlength, hdigits⟩, ?_⟩
    rw [← String.toList_inj, ← String.toList_inj, String.toList_append, String.toList_ofList, ht]
    match plus, hplus, hsign with
    | [], _, _ => exact .inl rfl
    | [c], _, hsign =>
      obtain rfl := hsign c (List.mem_singleton_self c)
      exact .inr rfl

/-- Eleven digits of ASCII. -/
theorem phoneNumber_isDigit_iff {n : String} :
    PhoneNumber Char.isDigit n ↔ PhoneNumber Text.isDigit n ∧ ∀ c ∈ n.toList, c.toNat < 128 := by
  constructor
  · rintro ⟨digits, hn, hlength, hdigits⟩
    have hascii : ∀ c ∈ digits, Text.isDigit c ∧ c.toNat < 128 := fun c hc =>
      Text.isDigit_and_lt_iff.2 (hdigits c hc)
    refine ⟨⟨digits, hn, hlength, fun c hc => (hascii c hc).1⟩, ?_⟩
    rw [hn]
    exact List.forall_mem_cons.2 ⟨by decide, fun c hc => (hascii c hc).2⟩
  · rintro ⟨⟨digits, hn, hlength, hdigits⟩, hascii⟩
    rw [hn] at hascii
    refine ⟨digits, hn, hlength, fun c hc => ?_⟩
    exact Text.isDigit_and_lt_iff.1 ⟨hdigits c hc, hascii c (List.mem_cons_of_mem _ hc)⟩

/-- A number is accepted alone or behind a plus sign, and then accepted as it is; this is what the
pattern says.  The digits are those of every script: they are the ones of ASCII just where no other
number is accepted. -/
theorem phoneNumber?_form (s : String) :
    (∃ pattern, Pattern.ofText? phoneText = some pattern ∧ ∀ n, phoneNumber? s = some n ↔
      pattern.node.accepts (Text.trim s) ∧
        n = String.ofList ((Text.trim s).toList.dropWhile (· == '+'))) ∧
    (∀ n, phoneNumber? s = some n ↔
      PhoneNumber Text.isDigit n ∧ (Text.trim s = n ∨ Text.trim s = "+" ++ n)) ∧
    (phoneNumber? s).bind phoneNumber? = phoneNumber? s ∧
    ((∀ n, phoneNumber? s = some n ↔
        PhoneNumber Char.isDigit n ∧ (Text.trim s = n ∨ Text.trim s = "+" ++ n)) ↔
      ∀ n ∈ phoneNumber? s, ∀ c ∈ n.toList, c.toNat < 128) := by
  refine ⟨⟨_, ofText?_phoneText, fun n => phoneNumber?_eq_some_iff_accepts⟩,
    fun n => phoneNumber?_eq_some_iff, ?_, ?_⟩
  · cases h : phoneNumber? s with
    | none => rfl
    | some n => exact phoneNumber?_fixed h
  · constructor
    · intro h n hn
      exact (phoneNumber_isDigit_iff.1 ((h n).1 hn).1).2
    · intro h n
      rw [phoneNumber_isDigit_iff, and_right_comm, ← phoneNumber?_eq_some_iff]
      exact ⟨fun hn => ⟨hn, h n hn⟩, fun hn => hn.1⟩

/-- Ten digits of another script after the first one. -/
theorem arabic_phone_number : ¬ ∀ s n, phoneNumber? s = some n ↔
    PhoneNumber Char.isDigit n ∧ (Text.trim s = n ∨ Text.trim s = "+" ++ n) := by
  intro h
  have haccepted : phoneNumber? "7٠١٢٣٤٥٦٧٨٩" = some "7٠١٢٣٤٥٦٧٨٩" := by decide_cbv
  obtain ⟨hnumber, -⟩ := (h _ _).1 haccepted
  have hascii := (phoneNumber_isDigit_iff.1 hnumber).2 '٠' (by decide_cbv)
  exact absurd hascii (by decide)

/-! ## Full names -/

/-- A text is made of words with one space between neighbours. -/
def Words (words : List (List Char)) (t : String) : Prop :=
  t.toList = [' '].intercalate words ∧ ∀ w ∈ words, w ≠ [] ∧ ' ' ∉ w

theorem words_iff {words : List (List Char)} {t : String} (hne : words ≠ []) :
    Words words t ↔ Text.splitOn ' ' t.toList = words ∧ ∀ w ∈ words, w ≠ [] := by
  rw [Words, Text.splitOn_eq_iff hne, and_assoc]
  exact and_congr_right fun _ => by grind

theorem words_three_iff {t : String} :
    (∃ words, words.length = 3 ∧ Words words t) ↔
      (Text.splitOn ' ' t.toList).length = 3 ∧ ∀ w ∈ Text.splitOn ' ' t.toList, w ≠ [] := by
  constructor
  · rintro ⟨words, hlength, hwords⟩
    obtain ⟨rfl, hfilled⟩ := (words_iff (List.ne_nil_of_length_eq_add_one hlength)).1 hwords
    exact ⟨hlength, hfilled⟩
  · rintro ⟨hlength, hfilled⟩
    exact ⟨_, hlength, (words_iff (List.ne_nil_of_length_eq_add_one hlength)).2 ⟨rfl, hfilled⟩⟩

theorem fullName?_eq_some_iff {s t : String} :
    fullName? s = some t ↔ t = Text.trim s ∧ ∃ words, words.length = 3 ∧ Words words t := by
  have ht : (Text.trim s).toList = Text.trimmed s.toList := String.toList_ofList
  have hfilled : ∀ words : List (List Char),
      words.all (!·.isEmpty) ↔ ∀ w ∈ words, w ≠ [] := fun words => by simp
  rw [fullName?, Option.ite_none_right_eq_some, Option.some.injEq, hfilled, ← ht, ← words_three_iff,
    String.ofList_toList, and_comm, eq_comm]
  exact and_congr_right fun h => by rw [h]

/-- A text of another number of words is no full name. -/
theorem fullName?_eq_none {s : String} {words : List (List Char)} (h : Words words (Text.trim s))
    (hlength : words.length ≠ 3) : fullName? s = none := by
  rw [Option.eq_none_iff_forall_ne_some]
  intro t ht
  obtain ⟨rfl, words', hlength', hwords'⟩ := fullName?_eq_some_iff.1 ht
  obtain ⟨hsplit, -⟩ := (words_iff (List.ne_nil_of_length_eq_add_one hlength')).1 hwords'
  by_cases hne : words = []
  · -- a text without words is empty, and is cut into one empty piece
    subst hne
    rw [h.1] at hsplit
    cases hsplit
    cases hlength'
  · obtain ⟨hsplit', -⟩ := (words_iff hne).1 h
    exact hlength (by rw [← hsplit', hsplit, hlength'])

/-- A full name is the text without the blanks around it, made of three words with one space between
neighbours; a text that is made of another number of words is none. -/
theorem fullName?_form (s : String) :
    (∀ t, fullName? s = some t ↔
      t = Text.trim s ∧ ∃ words, words.length = 3 ∧ Words words t) ∧
    ∀ words, Words words (Text.trim s) → words.length ≠ 3 → fullName? s = none :=
  ⟨fun _ => fullName?_eq_some_iff, fun _ => fullName?_eq_none⟩

/-- A word more or less is too much or too little. -/
theorem ivanov_full_name :
    fullName? "  Иванов Иван Иванович " = some "Иванов Иван Иванович" ∧
      fullName? "Иванов Иван" = none ∧ fullName? "Иванов Иван Иванович Младший" = none := by
  have hsurname : Words ["Иванов".toList, "Иван".toList] (Text.trim "Иванов Иван") :=
    (words_iff (by simp)).2 ⟨by decide_cbv, by simp⟩
  have hyounger : Words ["Иванов".toList, "Иван".toList, "Иванович".toList, "Младший".toList]
      (Text.trim "Иванов Иван Иванович Младший") := (words_iff (by simp)).2 ⟨by decide_cbv, by simp⟩
  refine ⟨((fullName?_form _).1 _).2
      ⟨by decide_cbv, ["Иванов".toList, "Иван".toList, "Иванович".toList], rfl, ?_⟩,
    (fullName?_form _).2 _ hsurname (by decide), (fullName?_form _).2 _ hyounger (by decide)⟩
  exact (words_iff (by simp)).2 ⟨by decide_cbv, by simp⟩

/-- Four words of which two have a tab between them. -/
theorem tab_in_name : ¬ ∀ s t, fullName? s = some t ↔
    t = Text.trim s ∧ ∃ words, words.length = 3 ∧ Words words t ∧
      ∀ w ∈ words, ∀ c ∈ w, ¬ Text.isBlank c := by
  intro h
  have haccepted : fullName? "Иванов Иван\tИван Иванович" = some "Иванов Иван\tИван Иванович" := by
    decide_cbv
  obtain ⟨-, words, hlength, hwords, hblanks⟩ := (h _ _).1 haccepted
  obtain ⟨rfl, -⟩ := (words_iff (List.ne_nil_of_length_eq_add_one hlength)).1 hwords
  exact hblanks "Иван\tИван".toList (by decide_cbv) '\t' (by decide_cbv) (by decide)

/-! ## Prices -/

/-- A text without the blanks around it spells a number. -/
def Spells (s : String) (k : Nat) : Prop :=
  ∃ t, Text.Trims s.toList t ∧ Decimal.Unsigned t k

theorem spells_iff {s : String} {k : Nat} :
    Spells s k ↔ Decimal.Unsigned (Text.trimmed s.toList) k := by
  constructor
  · rintro ⟨t, ht, hk⟩
    rwa [ht.trimmed_eq]
  · intro h
    exact ⟨_, Text.trims_trimmed _, h⟩

theorem price?_eq_some_iff {s : String} {n : UInt64} :
    price? s = some n ↔ Spells s n.toNat ∧ 1 ≤ n.toNat ∧ n.toNat ≤ maxPriceYuan := by
  rw [spells_iff, ← Decimal.uint64?_eq_some_iff, price?]
  constructor
  · intro h
    split at h
    · rename_i m hm
      obtain ⟨hrange, hmn⟩ := Option.ite_none_right_eq_some.1 h
      obtain rfl : m = n := Option.some.inj hmn
      exact ⟨hm, hrange⟩
    · cases h
  · rintro ⟨hn, hrange⟩
    rw [hn]
    exact if_pos hrange

/-- Amounts in range fit 64 bits, so a text that spells one is a price. -/
theorem price?_eq_none_iff {s : String} :
    price? s = none ↔ ¬ ∃ k, Spells s k ∧ 1 ≤ k ∧ k ≤ maxPriceYuan := by
  constructor
  · rintro hnone ⟨k, hk, hleast, hmost⟩
    have hfit : (UInt64.ofNat k).toNat = k := by
      refine UInt64.toNat_ofNat_of_lt' (Nat.lt_of_le_of_lt hmost ?_)
      decide
    have hsome : price? s = some (UInt64.ofNat k) := by
      refine price?_eq_some_iff.2 ?_
      rw [hfit]
      exact ⟨hk, hleast, hmost⟩
    rw [hnone] at hsome
    cases hsome
  · intro h
    rw [Option.eq_none_iff_forall_ne_some]
    intro n hn
    exact h ⟨n.toNat, price?_eq_some_iff.1 hn⟩

/-- A price is the amount that the text spells, and the only texts without one are those that spell
no amount in range.  The digits may be gone through one by one in 64 bits.  Where a price is asked
for, any other text is met with the same phrase. -/
theorem price?_form (s : String) :
    (∀ n, price? s = some n ↔ Spells s n.toNat ∧ 1 ≤ n.toNat ∧ n.toNat ≤ maxPriceYuan) ∧
    (price? s = none ↔ ¬ ∃ k, Spells s k ∧ 1 ≤ k ∧ k ≤ maxPriceYuan) ∧
    price? s = (Decimal.read? (Text.trimmed s.toList)).filter
      (fun n => 1 ≤ n.toNat ∧ n.toNat ≤ maxPriceYuan) ∧
    ((¬ ∃ k, Spells s k ∧ 1 ≤ k ∧ k ≤ maxPriceYuan) → ∀ (desk : Desk) chat c,
      desk.handlePrice chat c s = desk.send chat "price-invalid" ∧
        desk.calculatorAmount chat c s = desk.send chat "price-invalid") := by
  refine ⟨fun n => price?_eq_some_iff, price?_eq_none_iff, ?_, fun h desk chat c => ?_⟩
  · rw [price?, ← Decimal.uint64?_eq_read?]
    cases Decimal.uint64? (Text.trimmed s.toList) with
    | none => rfl
    | some n => simp [Option.filter]
  · have hnone : price? s = none := price?_eq_none_iff.2 h
    constructor
    · rw [Desk.handlePrice, hnone]
    · rw [Desk.calculatorAmount, hnone]

/-- Zeros and a plus sign in front do not count; one more than 2^64 is not taken for 1. -/
theorem padded_price :
    price? " +00000000000000000000001250\t" = some 1250 ∧
      price? "18446744073709551617" = none ∧
      ∀ (desk : Desk) chat c, desk.handlePrice chat c "18446744073709551617" =
        desk.send chat "price-invalid" := by
  have hspelled : Spells " +00000000000000000000001250\t" 1250 :=
    spells_iff.2 (Decimal.unsigned?_eq_some_iff.1 (by decide_cbv))
  have hbeyond : ¬ ∃ k, Spells "18446744073709551617" k ∧ 1 ≤ k ∧ k ≤ maxPriceYuan := by
    rintro ⟨k, hk, -, hmost⟩
    have hread : Decimal.unsigned? (Text.trimmed "18446744073709551617".toList) =
        some 18446744073709551617 := by decide_cbv
    rw [Decimal.unsigned?_eq_some_iff.2 (spells_iff.1 hk)] at hread
    obtain rfl := Option.some.inj hread
    exact absurd hmost (by decide)
  obtain ⟨haccepted, -⟩ := price?_form " +00000000000000000000001250\t"
  obtain ⟨-, hrefused, -, hphrase⟩ := price?_form "18446744073709551617"
  exact ⟨(haccepted 1250).2 ⟨hspelled, by decide, by decide⟩, hrefused.2 hbeyond,
    fun desk chat c => (hphrase hbeyond desk chat c).1⟩

end OrderDesk.Answer
