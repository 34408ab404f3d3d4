import Mathlib.Data.List.Nodup
import OrderDesk.Proofs.Json.RoundTrip
import OrderDesk.Record.Records

/-!
# Records are read as they were written

A `Codec` is a way to write things of one kind as JSON values together with a way to read them back.
There is one for every kind of record that is kept as JSON, put together from those for its fields.
Since a written value has a text of its own, the text of a record is read as that record, and no two
records of a kind share a text (`Codec.kept`); `records_kept` says so of all of them.
-/

namespace OrderDesk.Record

open Json (Value)

/-- Things of one kind are written as values that are read as them again, and never as `null`. -/
structure Codec {α : Type} (write : α → Value) (read : Value → Option α) : Prop where
  plain : ∀ a, (write a).Plain
  present : ∀ a, write a ≠ .null
  read_write : ∀ a, read (write a) = some a

/-- Texts of one kind of record are read as the records they were written for, and tell them
apart. -/
structure Kept {α : Type} (write : α → Value) (read : Value → Option α) : Prop where
  read_text : ∀ a, (Json.ofText? (write a).text).bind read = some a
  text_injective : ∀ a b, (write a).text = (write b).text → a = b

namespace Codec

variable {α : Type} {write : α → Value} {read : Value → Option α}

theorem kept (h : Codec write read) : Kept write read where
  read_text a := by rw [Json.ofText?_text (h.plain a), Option.bind_some, h.read_write]
  text_injective a b hab := by
    have hvalue : some (write a) = some (write b) := by
      rw [← Json.ofText?_text (h.plain a), hab, Json.ofText?_text (h.plain b)]
    have hread := h.read_write a
    rw [Option.some.inj hvalue, h.read_write] at hread
    exact (Option.some.inj hread).symm

/-! ## Fields -/

theorem required (h : Codec write read) (a : α) :
    Record.required read (some (write a)) = some a := h.read_write a

theorem optional (h : Codec write read) (a : Option α) :
    Record.optional read (some (.ofOption write a)) = some a := by
  cases a with
  | none => rfl
  | some a =>
    have hread := h.read_write a
    have hpresent := h.present a
    rw [Value.ofOption]
    unfold Record.optional
    split
    · contradiction
    · rename_i hnull
      exact absurd (Option.some.inj hnull) hpresent
    · rename_i v hv
      obtain rfl := Option.some.inj hv
      rw [hread, Option.map_some]

theorem plain_ofOption (h : Codec write read) (a : Option α) : (Value.ofOption write a).Plain := by
  cases a with
  | none => exact .null
  | some a => exact h.plain a

theorem list (h : Codec write read) :
    Codec (fun as => .array (as.map write)) (readList? read) where
  plain as := .array fun v hv => by
    obtain ⟨a, -, rfl⟩ := List.mem_map.1 hv
    exact h.plain a
  present _ := Value.noConfusion
  read_write as := by
    show (as.map write).mapM read = some as
    induction as with
    | nil => rfl
    | cons a as ih => simp [List.mapM_cons, h.read_write, ih]

end Codec

theorem lookup_of_mem {β : Type} {fields : List (String × β)} (h : (fields.map (·.1)).Nodup)
    {f : String × β} (hf : f ∈ fields) : fields.lookup f.1 = some f.2 := by
  induction fields with
  | nil => cases hf
  | cons g fields ih =>
    obtain ⟨hg, hfields⟩ := List.nodup_cons.1 h
    rcases List.mem_cons.1 hf with rfl | hf
    · exact List.lookup_cons_self
    · have hne : f.1 ≠ g.1 := fun hfg => hg (List.mem_map.2 ⟨f, hf, hfg⟩)
      rw [List.lookup_cons, beq_eq_false_iff_ne.2 hne]
      exact ih hfields hf

/-- The declared fields of an object that holds them in their order. -/
theorem fields?_object {names : List String} {fields : List (String × Value)} (hnames : names.Nodup)
    (h : fields.map (·.1) = names) :
    fields? names (.object fields) = some (fields.map fun f => some f.2) := by
  subst h
  have hunrepeated : unrepeated (fields.map (·.1)) fields := by
    refine List.all_eq_true.2 fun name _ => decide_eq_true ?_
    have hcount := List.nodup_iff_count_le_one.1 hnames name
    rwa [List.count, List.countP_map] at hcount
  rw [fields?, if_pos hunrepeated, List.map_map]
  exact congrArg some (List.map_congr_left fun f hf => lookup_of_mem hnames hf)

/-! ## Simple values -/

theorem string_codec : Codec Value.string readString? where
  plain := .string
  present _ := Value.noConfusion
  read_write _ := rfl

theorem strings_codec : Codec writeStrings (readList? readString?) := string_codec.list

/-- Names that are read as what they are the names of. -/
theorem name_codec {α : Type} (name : α → String) (ofName? : String → Option α)
    (h : ∀ a, ofName? (name a) = some a) :
    Codec (fun a => .string (name a)) (readName? ofName?) where
  plain a := .string (name a)
  present _ := Value.noConfusion
  read_write a := h a

theorem readNat?_writeNat {bound n : Nat} (h : n < bound) :
    readNat? bound (writeNat n) = some n := by
  simp [readNat?, writeNat, h]

theorem uint64_codec : Codec (fun n : UInt64 => writeNat n.toNat) readUInt64? where
  plain n := .integer n.toNat
  present _ := Value.noConfusion
  read_write n := by
    rw [readUInt64?, readNat?_writeNat n.toNat_lt, Option.map_some, UInt64.ofNat_toNat]

theorem amount_codec : Codec amountRecord readUInt64? := uint64_codec

theorem uint32_codec : Codec (fun n : UInt32 => writeNat n.toNat) readUInt32? where
  plain n := .integer n.toNat
  present _ := Value.noConfusion
  read_write n := by
    rw [readUInt32?, readNat?_writeNat n.toNat_lt, Option.map_some, UInt32.ofNat_toNat]

theorem int64_codec : Codec (fun n : Int64 => .integer n.toInt) readInt64? where
  plain n := .integer n.toInt
  present _ := Value.noConfusion
  read_write n := by
    have hfit : Decimal.fitInt64? n.toInt = some n := by
      rw [Decimal.fitInt64?, if_pos ⟨n.le_toInt, n.toInt_lt⟩, Int64.ofInt_toInt]
    exact hfit

theorem uuid_codec : Codec Uuid.toRecord Uuid.ofRecord? where
  plain u := .string u.text
  present _ := Value.noConfusion
  read_write u := by
    rw [Uuid.ofRecord?, Uuid.toRecord, Value.string?, Option.bind_some, Uuid.ofText?_text]

theorem step_codec : Codec Step.toRecord Step.ofRecord? where
  plain s := .integer s.code
  present _ := Value.noConfusion
  read_write s := by cases s <;> rfl

theorem orderType_codec : Codec OrderType.toRecord OrderType.ofRecord? :=
  name_codec OrderType.name OrderType.ofName? fun t => by cases t <;> decide

theorem location_codec : Codec Location.toRecord Location.ofRecord? :=
  name_codec Location.name Location.ofName? fun l => by cases l <;> decide

theorem category_codec : Codec Category.toRecord Category.ofRecord? :=
  name_codec Category.name Category.ofName? fun c => by cases c <;> decide

theorem button_codec : Codec PriceButton.toRecord PriceButton.ofRecord? :=
  name_codec PriceButton.name PriceButton.ofName? fun b => by cases b <;> decide

/-! ## Records -/

theorem terms_codec : Codec Terms.toRecord Terms.ofRecord? where
  plain t := .object (by
    simp [orderType_codec.plain_ofOption, location_codec.plain_ofOption,
      category_codec.plain_ofOption])
  present _ := Value.noConfusion
  read_write t := by
    rw [Terms.ofRecord?, Terms.toRecord, fields?_object (by decide) (by rfl)]
    simp [orderType_codec.optional, location_codec.optional, category_codec.optional]

theorem position_codec : Codec Position.toRecord Position.ofRecord? where
  plain p := .object (by
    simp [uuid_codec.plain, string_codec.plain, button_codec.plain, category_codec.plain_ofOption,
      amount_codec.plain])
  present _ := Value.noConfusion
  read_write p := by
    rw [Position.ofRecord?, Position.toRecord, fields?_object (by decide) (by rfl)]
    simp [uuid_codec.required, string_codec.required, button_codec.required,
      category_codec.optional, amount_codec.required]

theorem draft_codec : Codec Draft.toRecord Draft.ofRecord? where
  plain d := .object (by
    simp [uuid_codec.plain, string_codec.plain_ofOption, button_codec.plain_ofOption,
      category_codec.plain_ofOption, amount_codec.plain_ofOption])
  present _ := Value.noConfusion
  read_write d := by
    rw [Draft.ofRecord?, Draft.toRecord, fields?_object (by decide) (by rfl)]
    simp [uuid_codec.required, string_codec.optional, button_codec.optional,
      category_codec.optional, amount_codec.optional]

/-- A cart is no more than the list of its lines. -/
theorem cart_codec : Codec Cart.toRecord Cart.ofRecord? where
  plain c := position_codec.list.plain c.lines
  present c := position_codec.list.present c.lines
  read_write c := by
    rw [Cart.ofRecord?, Cart.toRecord, position_codec.list.read_write c.lines, Option.map_some]

theorem buyer_codec : Codec Buyer.toRecord Buyer.ofRecord? where
  plain b := .object (by
    simp [int64_codec.plain, string_codec.plain, string_codec.plain_ofOption])
  present _ := Value.noConfusion
  read_write b := by
    rw [Buyer.ofRecord?, Buyer.toRecord, fields?_object (by decide) (by rfl)]
    simp [int64_codec.required, string_codec.required, string_codec.optional]

theorem item_codec : Codec Catalog.Item.toRecord Catalog.Item.ofRecord? where
  plain item := .object (by
    simp [uuid_codec.plain, strings_codec.plain, string_codec.plain, uint32_codec.plain,
      amount_codec.plain])
  present _ := Value.noConfusion
  read_write item := by
    rw [Catalog.Item.ofRecord?, Catalog.Item.toRecord, fields?_object (by decide) (by rfl)]
    simp [uuid_codec.required, strings_codec.required, string_codec.required,
      uint32_codec.required, amount_codec.required]

theorem customer_codec : Codec Customer.toRecord Customer.ofRecord? where
  plain c := .object (by
    simp [int64_codec.plain, string_codec.plain, string_codec.plain_ofOption, step_codec.plain,
      cart_codec.plain, terms_codec.plain, uint64_codec.plain, draft_codec.plain_ofOption])
  present _ := Value.noConfusion
  read_write c := by
    rw [Customer.ofRecord?, Customer.toRecord, fields?_object (by decide) (by rfl)]
    simp [int64_codec.required, string_codec.required, string_codec.optional, step_codec.required,
      cart_codec.required, terms_codec.required, uint64_codec.required, draft_codec.optional]

/-- Delivery terms, drafts, carts, buyers, items and customers are read from their texts as they
were written, and no two of a kind have the same text. -/
theorem records_kept :
    Kept Terms.toRecord Terms.ofRecord? ∧
    Kept Draft.toRecord Draft.ofRecord? ∧
    Kept Cart.toRecord Cart.ofRecord? ∧
    Kept Buyer.toRecord Buyer.ofRecord? ∧
    Kept Catalog.Item.toRecord Catalog.Item.ofRecord? ∧
    Kept Customer.toRecord Customer.ofRecord? :=
  ⟨terms_codec.kept, draft_codec.kept, cart_codec.kept, buyer_codec.kept, item_codec.kept,
    customer_codec.kept⟩

end OrderDesk.Record
