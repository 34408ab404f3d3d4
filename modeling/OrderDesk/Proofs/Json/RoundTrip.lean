import OrderDesk.Json.Reader
import OrderDesk.Json.Writer
import OrderDesk.Proofs.Decimal.Integer
import OrderDesk.Proofs.Uuid

/-!
# JSON is read as it was written

`Plain` values are those that a text can stand for exactly: numerals are whole and texts hold no
half of a surrogate pair.  Reading undoes writing for all of them (`ofText?_text`).

Each part of the reader is shown to stop where the corresponding part of the writer did: a
character of a text at the next one (`pieces?_writeChar`), a text at its quote (`text?_write`), a
numeral before anything that can follow a value (`numeral?_integerText`).  For values the induction
is on `Plain`, and its invariant is that as much fuel as the value has characters is enough.
-/

namespace OrderDesk.Json

/-! ## Texts -/

theorem fourDigits?_hexadecimal {n : Nat} (h : n < 16 ^ 4) (s : List Char) :
    fourDigits? (Uuid.hexadecimal 4 n ++ s) = some (n, s) := by
  have hread := Uuid.readHexadecimal?_hexadecimal 4 n
  rw [Nat.mod_eq_of_lt h] at hread
  have hlength := Uuid.length_hexadecimal 4 n
  match hdigits : Uuid.hexadecimal 4 n, hlength with
  | [a, b, c, d], _ =>
    rw [hdigits] at hread
    simp [fourDigits?, hread]

/-- A written character is read as itself. -/
theorem pieces?_writeChar (c : Char) (fuel : Nat) (s : List Char) :
    pieces? (fuel + 1) (writeChar c ++ s) =
      (pieces? fuel s).map fun (ps, rest) => (.char c :: ps, rest) := by
  unfold writeChar
  split
  case h_8 hquote hbackslash _ _ _ _ _ =>
    split
    · -- a control character, which is far below the surrogates
      rename_i hcontrol
      have hdigits := fourDigits?_hexadecimal (n := c.toNat) (by omega) s
      have hplain : ¬ (0xd800 ≤ c.toNat ∧ c.toNat < 0xe000) := by omega
      simp only [List.cons_append, List.nil_append, pieces?, hdigits, Option.bind_eq_bind,
        Option.bind_some, if_neg hplain, Char.ofNat_toNat]
    · rename_i hprintable
      simp only [List.singleton_append]
      rw [pieces?, if_neg hprintable]
      · exact hquote
      · exact hbackslash
  all_goals rfl

theorem pieces?_write (cs : List Char) (rest : List Char) {fuel : Nat} (h : cs.length < fuel) :
    pieces? fuel (cs.flatMap writeChar ++ '"' :: rest) = some (cs.map .char, rest) := by
  induction cs generalizing fuel with
  | nil =>
    obtain ⟨fuel, rfl⟩ := Nat.exists_eq_succ_of_ne_zero (Nat.ne_of_gt h)
    rfl
  | cons c cs ih =>
    obtain ⟨fuel, rfl⟩ := Nat.exists_eq_succ_of_ne_zero (Nat.ne_of_gt (Nat.zero_lt_of_lt h))
    rw [List.flatMap_cons, List.append_assoc, pieces?_writeChar, ih (Nat.lt_of_succ_lt_succ h)]
    rfl

theorem joinHalves?_chars (cs : List Char) : joinHalves? (cs.map .char) = some cs := by
  induction cs with
  | nil => rfl
  | cons c cs ih => rw [List.map_cons, joinHalves?, ih, Option.map_some]

theorem length_writeChar_pos (c : Char) : 0 < (writeChar c).length := by
  unfold writeChar
  split
  case h_8 => split <;> simp
  all_goals decide

/-- A text is read up to its closing quote. -/
theorem text?_write (s : String) (rest : List Char) :
    text? (s.toList.flatMap writeChar ++ '"' :: rest) = some (some s, rest) := by
  have hlength : s.toList.length ≤ (s.toList.flatMap writeChar).length := by
    induction s.toList with
    | nil => exact Nat.le_refl _
    | cons c cs ih =>
      have := length_writeChar_pos c
      simp only [List.flatMap_cons, List.length_append, List.length_cons]
      omega
  rw [text?, pieces?_write _ _ (by simp only [List.length_append, List.length_cons]; omega)]
  simp [joinHalves?_chars]

/-! ## Numerals -/

/-- What can stand after a value: nothing, a comma or a closing bracket. -/
def Follows (rest : List Char) : Prop := ∀ c ∈ rest.head?, c = ',' ∨ c = ']' ∨ c = '\x7d'

theorem follows_nil : Follows [] := by simp [Follows]

theorem follows_comma (s : List Char) : Follows (',' :: s) := by simp [Follows]

theorem follows_bracket (s : List Char) : Follows (']' :: s) := by simp [Follows]

theorem follows_brace (s : List Char) : Follows ('\x7d' :: s) := by simp [Follows]

section Numerals

variable {rest : List Char}

theorem Follows.cases (h : Follows rest) :
    rest = [] ∨ ∃ c s, rest = c :: s ∧ (c = ',' ∨ c = ']' ∨ c = '\x7d') := by
  cases rest with
  | nil => exact .inl rfl
  | cons c s => exact .inr ⟨c, s, rfl, h c rfl⟩

/-- Nothing that follows a value belongs to a numeral. -/
theorem Follows.pointPart? (h : Follows rest) : pointPart? rest = some ([], rest) := by
  rcases h.cases with rfl | ⟨c, s, rfl, rfl | rfl | rfl⟩ <;> rfl

theorem Follows.exponentPart? (h : Follows rest) : exponentPart? rest = some ([], rest) := by
  rcases h.cases with rfl | ⟨c, s, rfl, rfl | rfl | rfl⟩ <;> rfl

theorem Follows.digits (h : Follows rest) : digits rest = ([], rest) := by
  rcases h.cases with rfl | ⟨c, s, rfl, rfl | rfl | rfl⟩ <;> rfl

theorem isSome_digit? {c : Char} (hc : c.isDigit) : (Decimal.digit? c).isSome := by
  rw [Decimal.digit?_eq_some_iff.2 ⟨hc, rfl⟩]
  rfl

theorem digits_append {s : List Char} (hs : ∀ c ∈ s, c.isDigit) (h : Follows rest) :
    digits (s ++ rest) = (s, rest) := by
  have hrest := h.digits
  simp only [Json.digits, Prod.mk.injEq] at hrest ⊢
  have hall : ∀ c ∈ s, (Decimal.digit? c).isSome := fun c hc => isSome_digit? (hs c hc)
  rw [List.takeWhile_append_of_pos hall, List.dropWhile_append_of_pos hall, hrest.1, hrest.2]
  exact ⟨List.append_nil s, rfl⟩

theorem wholePart?_naturalText (n : Nat) (h : Follows rest) :
    wholePart? (Decimal.naturalText n ++ rest) = some (Decimal.naturalText n, rest) := by
  have hdigits := Decimal.digits_naturalText n
  cases hn : Decimal.naturalText n with
  | nil => exact absurd hn hdigits.1
  | cons c s =>
    by_cases hc : c = '0'
    · subst hc
      obtain rfl := Decimal.naturalText_zero hn
      rcases h.cases with rfl | ⟨c, s, rfl, rfl | rfl | rfl⟩ <;> rfl
    · rw [hn] at hdigits
      have hfound := digits_append hdigits.2 h
      rw [List.cons_append] at hfound ⊢
      unfold wholePart?
      split
      · rename_i hzero
        exact absurd (List.cons.inj hzero).1 hc
      · rw [hfound]

/-- A numeral is read up to where the next token can begin. -/
theorem numeral?_integerText (n : Int) (h : Follows rest) :
    numeral? (Decimal.integerText n ++ rest) = some (.integer n, rest) := by
  have hvalue : ∀ k, Decimal.valueOf ((Decimal.naturalText k).filterMap Decimal.digit?) = k :=
    fun k => (Decimal.valueOf_filterMap (Decimal.digits_naturalText k).2).trans
      (Decimal.ofDigitChars_naturalText k)
  cases n with
  | ofNat k =>
    have hwhole := wholePart?_naturalText k h
    obtain ⟨hne, hdigits⟩ := Decimal.digits_naturalText k
    obtain ⟨c, s, hk⟩ := List.exists_cons_of_ne_nil hne
    have hunsigned : c ≠ '-' := by
      rintro rfl
      exact absurd (hdigits '-' (hk ▸ List.mem_cons_self)) (by decide)
    have hcs := hvalue k
    rw [hk] at hwhole hcs
    rw [List.cons_append] at hwhole
    simp only [Decimal.integerText, hk, List.cons_append]
    simp [numeral?, hunsigned, hwhole, h.pointPart?, h.exponentPart?, hcs]
  | negSucc k =>
    simp [Decimal.integerText, numeral?, wholePart?_naturalText _ h, h.pointPart?, h.exponentPart?,
      hvalue]
    omega

end Numerals

/-! ## Values -/

/-- Values that have a text of their own: every numeral is whole, and every text is one. -/
inductive Value.Plain : Value → Prop where
  | null : Plain .null
  | bool (b : Bool) : Plain (.bool b)
  | integer (n : Int) : Plain (.integer n)
  | string (s : String) : Plain (.string s)
  | array {items : List Value} (h : ∀ v ∈ items, Plain v) : Plain (.array items)
  | object {fields : List (String × Value)} (h : ∀ f ∈ fields, Plain f.2) : Plain (.object fields)

theorem skipSpace_cons {c : Char} (hc : isSpace c = false) (s : List Char) :
    skipSpace (c :: s) = c :: s := by
  rw [skipSpace, List.dropWhile_cons_of_neg (by simp [hc])]

/-- A numeral is none of the other values. -/
theorem value?_numeral {c : Char} (hc : c = '-' ∨ c.isDigit) (fuel : Nat) (s : List Char) :
    value? (fuel + 1) (c :: s) = numeral? (c :: s) := by
  have hne : ∀ d ∈ ['"', '[', '\x7b', 'n', 't', 'f'], c ≠ d := by
    rintro d hd rfl
    simp only [List.mem_cons, List.not_mem_nil, or_false] at hd
    rcases hd with rfl | rfl | rfl | rfl | rfl | rfl <;> exact absurd hc (by decide)
  simp only [List.forall_mem_cons] at hne
  simp [value?, hne]

theorem integerText_cons (n : Int) :
    ∃ c s, Decimal.integerText n = c :: s ∧ (c = '-' ∨ c.isDigit) := by
  cases n with
  | ofNat k =>
    obtain ⟨hne, hdigits⟩ := Decimal.digits_naturalText k
    obtain ⟨c, s, hk⟩ := List.exists_cons_of_ne_nil hne
    exact ⟨c, s, hk, .inr (hdigits c (hk ▸ List.mem_cons_self))⟩
  | negSucc k => exact ⟨'-', _, rfl, .inl rfl⟩

theorem isSpace_eq_false {c : Char} (hc : c = '-' ∨ c.isDigit) : isSpace c = false := by
  rw [Bool.eq_false_iff]
  intro hspace
  simp only [isSpace, Bool.or_eq_true, beq_iff_eq] at hspace
  rcases hspace with ((rfl | rfl) | rfl) | rfl <;> exact absurd hc (by decide)

/-- A value begins with no blank and with no closing bracket. -/
theorem Value.Plain.write_cons {v : Value} (h : v.Plain) :
    ∃ c s, v.write = c :: s ∧ isSpace c = false ∧ c ≠ ']' := by
  cases h with
  | null => exact ⟨'n', _, rfl, by decide, by decide⟩
  | bool b => cases b <;> exact ⟨_, _, rfl, by decide, by decide⟩
  | integer n =>
    obtain ⟨c, s, hn, hc⟩ := integerText_cons n
    refine ⟨c, s, hn, isSpace_eq_false hc, ?_⟩
    rintro rfl
    exact absurd hc (by decide)
  | string s => exact ⟨'"', _, rfl, by decide, by decide⟩
  | array h => exact ⟨'[', _, rfl, by decide, by decide⟩
  | object h => exact ⟨'\x7b', _, rfl, by decide, by decide⟩

/-- A value is read up to what follows it. -/
def Value.ReadsBack (v : Value) : Prop :=
  ∀ (fuel : Nat) (rest : List Char), v.write.length ≤ fuel → Follows rest →
    value? fuel (v.write ++ rest) = some (v, rest)

theorem objectOf_some (fields : List (String × Value)) :
    objectOf (fields.map fun f => (some f.1, f.2)) = .object fields := by
  have hkeys : (fields.map fun f => (some f.1, f.2)).mapM
      (fun f : Option String × Value => f.1.map (·, f.2)) = some fields := by
    induction fields with
    | nil => rfl
    | cons f fields ih => simp [List.mapM_cons, ih]
  simp only [objectOf, hkeys]

theorem Value.Plain.skipSpace_write {v : Value} (h : v.Plain) (rest : List Char) :
    skipSpace (v.write ++ rest) = v.write ++ rest := by
  obtain ⟨c, s, hv, hspace, -⟩ := h.write_cons
  rw [hv]
  exact skipSpace_cons hspace _

/-- A list of items begins as its first item does. -/
theorem writeItems_cons (v : Value) (vs : List Value) :
    ∃ s, writeItems (v :: vs) = v.write ++ s := by
  cases vs with
  | nil => exact ⟨[], (List.append_nil _).symm⟩
  | cons w ws => exact ⟨',' :: writeItems (w :: ws), by rw [writeItems]; simp⟩

theorem skipSpace_writeItems {v : Value} (h : v.Plain) (vs : List Value) (rest : List Char) :
    skipSpace (writeItems (v :: vs) ++ rest) = writeItems (v :: vs) ++ rest := by
  obtain ⟨s, hs⟩ := writeItems_cons v vs
  rw [hs, List.append_assoc, h.skipSpace_write]

theorem items?_write {items : List Value} (hne : items ≠ [])
    (h : ∀ v ∈ items, v.Plain ∧ v.ReadsBack) {fuel : Nat}
    (hfuel : (writeItems items).length < fuel) (rest : List Char) :
    items? fuel (writeItems items ++ ']' :: rest) = some (items, rest) := by
  induction items generalizing fuel with
  | nil => exact absurd rfl hne
  | cons v vs ih =>
    obtain ⟨fuel, rfl⟩ := Nat.exists_eq_succ_of_ne_zero (Nat.ne_of_gt (Nat.zero_lt_of_lt hfuel))
    obtain ⟨hv, hvs⟩ := List.forall_mem_cons.1 h
    cases vs with
    | nil =>
      have hread := hv.2 fuel (']' :: rest) (Nat.le_of_lt_succ hfuel) (follows_bracket _)
      have hclose : skipSpace (']' :: rest) = ']' :: rest := rfl
      simp only [writeItems, items?, hread, hclose, Option.bind_eq_bind, Option.bind_some]
    | cons w ws =>
      have hw : w.Plain := (List.forall_mem_cons.1 hvs).1.1
      simp only [writeItems, List.length_append, List.length_cons] at hfuel
      have hread := hv.2 fuel (',' :: (writeItems (w :: ws) ++ ']' :: rest)) (by omega)
        (follows_comma _)
      have hcomma : ∀ s, skipSpace (',' :: s) = ',' :: s := fun _ => rfl
      have hrest : items? fuel (writeItems (w :: ws) ++ ']' :: rest) = some (w :: ws, rest) :=
        ih (List.cons_ne_nil _ _) hvs (by omega)
      simp only [writeItems, List.append_assoc, List.cons_append]
      simp only [items?, hread, hcomma, skipSpace_writeItems hw, hrest, Option.bind_eq_bind,
        Option.bind_some, Option.map_some]

/-- One field is read, be it the last one or not. -/
theorem fields?_field (key : String) {v : Value} (hplain : v.Plain) (hback : v.ReadsBack)
    {fuel : Nat} (hfuel : v.write.length ≤ fuel) (s : List Char) :
    fields? (fuel + 1) (writeString key ++ ':' :: (v.write ++ '\x7d' :: s)) =
        some ([(some key, v)], s) ∧
      fields? (fuel + 1) (writeString key ++ ':' :: (v.write ++ ',' :: s)) =
        (fields? fuel (skipSpace s)).map fun (fs, s) => ((some key, v) :: fs, s) := by
  have hcolon : ∀ s, skipSpace (':' :: s) = ':' :: s := fun _ => rfl
  have hbrace : skipSpace ('\x7d' :: s) = '\x7d' :: s := rfl
  have hcomma : skipSpace (',' :: s) = ',' :: s := rfl
  constructor
  · simp only [writeString, List.append_assoc, List.cons_append, List.nil_append, fields?,
      text?_write, hcolon, hplain.skipSpace_write, hback fuel _ hfuel (follows_brace s), hbrace,
      Option.bind_eq_bind, Option.bind_some]
  · simp only [writeString, List.append_assoc, List.cons_append, List.nil_append, fields?,
      text?_write, hcolon, hplain.skipSpace_write, hback fuel _ hfuel (follows_comma s), hcomma,
      Option.bind_eq_bind, Option.bind_some]

/-- A list of fields begins with the quote of a key. -/
theorem writeFields_cons (f : String × Value) (fs : List (String × Value)) :
    ∃ s, writeFields (f :: fs) = '"' :: s := by
  cases fs <;> exact ⟨_, rfl⟩

theorem fields?_write {fields : List (String × Value)} (hne : fields ≠ [])
    (h : ∀ f ∈ fields, f.2.Plain ∧ f.2.ReadsBack) {fuel : Nat}
    (hfuel : (writeFields fields).length < fuel) (rest : List Char) :
    fields? fuel (writeFields fields ++ '\x7d' :: rest) =
      some (fields.map fun f => (some f.1, f.2), rest) := by
  induction fields generalizing fuel with
  | nil => exact absurd rfl hne
  | cons field fields ih =>
    obtain ⟨key, v⟩ := field
    obtain ⟨fuel, rfl⟩ := Nat.exists_eq_succ_of_ne_zero (Nat.ne_of_gt (Nat.zero_lt_of_lt hfuel))
    obtain ⟨⟨hplain, hback⟩, hvs⟩ := List.forall_mem_cons.1 h
    cases fields with
    | nil =>
      simp only [writeFields, List.length_append, List.length_cons] at hfuel
      have hlength : v.write.length ≤ fuel := by omega
      simp only [writeFields, List.append_assoc, List.cons_append]
      exact (fields?_field key hplain hback hlength rest).1
    | cons field' fields =>
      simp only [writeFields, List.length_append, List.length_cons] at hfuel
      have hlength : v.write.length ≤ fuel := by omega
      have hrest : fields? fuel (writeFields (field' :: fields) ++ '\x7d' :: rest) =
          some ((field' :: fields).map fun f => (some f.1, f.2), rest) :=
        ih (List.cons_ne_nil _ _) hvs (by omega)
      have hquote : skipSpace (writeFields (field' :: fields) ++ '\x7d' :: rest) =
          writeFields (field' :: fields) ++ '\x7d' :: rest := by
        obtain ⟨t, ht⟩ := writeFields_cons field' fields
        rw [ht]
        rfl
      simp only [writeFields, List.append_assoc, List.cons_append]
      rw [(fields?_field key hplain hback hlength _).2, hquote, hrest]
      rfl

/-- Some fuel is always left for the first token. -/
theorem Value.Plain.readsBack_of_succ {v : Value} (h : v.Plain)
    (hread : ∀ (fuel : Nat) (rest : List Char), v.write.length ≤ fuel + 1 → Follows rest →
      value? (fuel + 1) (v.write ++ rest) = some (v, rest)) : v.ReadsBack := by
  intro fuel rest hfuel hrest
  obtain ⟨c, s, hv, -⟩ := h.write_cons
  cases fuel with
  | zero => simp [hv] at hfuel
  | succ fuel => exact hread fuel rest hfuel hrest

/-- Reading undoes writing. -/
theorem Value.Plain.readsBack {v : Value} (h : v.Plain) : v.ReadsBack := by
  induction h with
  | null => exact Plain.null.readsBack_of_succ fun _ _ _ _ => rfl
  | bool b => exact (Plain.bool b).readsBack_of_succ fun _ _ _ _ => by cases b <;> rfl
  | integer n =>
    refine (Plain.integer n).readsBack_of_succ fun fuel rest _ hrest => ?_
    obtain ⟨c, s, hn, hc⟩ := integerText_cons n
    have hnumeral := numeral?_integerText n hrest
    rw [Value.write]
    rw [hn, List.cons_append] at hnumeral ⊢
    rw [value?_numeral hc, hnumeral]
  | string s =>
    refine (Plain.string s).readsBack_of_succ fun fuel rest _ _ => ?_
    simp only [Value.write, writeString, List.cons_append, List.append_assoc, List.nil_append,
      value?, text?_write, Option.map_some]
  | @array items hitems ih =>
    refine (Plain.array hitems).readsBack_of_succ fun fuel rest hfuel _ => ?_
    cases items with
    | nil => rfl
    | cons v vs =>
      simp only [Value.write, List.length_append, List.length_cons] at hfuel
      have hlength : (writeItems (v :: vs)).length < fuel := by omega
      have hread := items?_write (List.cons_ne_nil v vs) (fun w hw => ⟨hitems w hw, ih w hw⟩)
        hlength rest
      -- the list begins as its first item does, which is neither a blank nor the end
      obtain ⟨c, s, hv, hspace, hbracket⟩ := (hitems v List.mem_cons_self).write_cons
      obtain ⟨t, ht⟩ := writeItems_cons v vs
      rw [hv, List.cons_append] at ht
      rw [ht, List.cons_append] at hread
      simp only [Value.write, List.cons_append, List.append_assoc, List.nil_append, ht] at hread ⊢
      simp [value?, skipSpace_cons hspace, hbracket, hread]
  | @object fields hfields ih =>
    refine (Plain.object hfields).readsBack_of_succ fun fuel rest hfuel _ => ?_
    cases fields with
    | nil => rfl
    | cons f fs =>
      simp only [Value.write, List.length_append, List.length_cons] at hfuel
      have hlength : (writeFields (f :: fs)).length < fuel := by omega
      have hread := fields?_write (List.cons_ne_nil f fs) (fun g hg => ⟨hfields g hg, ih g hg⟩)
        hlength rest
      obtain ⟨t, ht⟩ := writeFields_cons f fs
      have hquote : skipSpace ('"' :: t ++ '\x7d' :: rest) = '"' :: t ++ '\x7d' :: rest := rfl
      simp only [Value.write, List.cons_append, List.append_assoc, List.nil_append, ht]
        at hread hquote ⊢
      simp [value?, hquote, hread, -List.map_cons, objectOf_some]

/-- A whole text is read as the value it was written for. -/
theorem ofText?_text {v : Value} (h : v.Plain) : ofText? v.text = some v := by
  have hread := h.readsBack (v.write.length + 1) [] (Nat.le_succ _) follows_nil
  have hspace := h.skipSpace_write []
  rw [List.append_nil] at hread hspace
  rw [ofText?, Value.text, String.toList_ofList, ofList?, hspace, hread]
  rfl

end OrderDesk.Json
