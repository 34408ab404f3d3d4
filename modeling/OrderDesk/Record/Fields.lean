import OrderDesk.Json.Reader
import OrderDesk.Json.Writer

/-!
# Fields of records

A record is an object, or an array of its fields in their order.  In an object the order is free and
unknown fields are passed over, but no known field may occur twice.  An optional field may be
missing from an object; `null` stands for no value.
-/

namespace OrderDesk.Record

open Json (Value)

/-- No declared name occurs twice. -/
def unrepeated (names : List String) (fields : List (String × Value)) : Bool :=
  names.all fun name => fields.countP (·.1 == name) ≤ 1

/-- The values of the declared fields, in order, nothing for a missing one. -/
def fields? (names : List String) : Value → Option (List (Option Value))
  | .object fields => if unrepeated names fields then some (names.map fun name => fields.lookup name) else none
  | .array items => if items.length = names.length then some (items.map some) else none
  | _ => none

/-- The same for a record every field of which may be missing, also from the end of an array. -/
def partial? (names : List String) : Value → Option (List (Option Value))
  | .object fields => if unrepeated names fields then some (names.map fun name => fields.lookup name) else none
  | .array items =>
    if items.length ≤ names.length then some ((List.range names.length).map fun i => items[i]?) else none
  | _ => none

/-- A field that must be there. -/
def required {α : Type} (read : Value → Option α) (field : Option Value) : Option α := field.bind read

/-- A field that may be missing or `null`. -/
def optional {α : Type} (read : Value → Option α) : Option Value → Option (Option α)
  | none => some none
  | some .null => some none
  | some v => (read v).map some

/-- A field with a value of its own when it is missing. -/
def withDefault {α : Type} (read : Value → Option α) (default : α) : Option Value → Option α
  | none => some default
  | some v => read v

/-- A field that tells whether something is set by being there. -/
def assigned {α : Type} (read : Value → Option α) : Option Value → Option (Option α)
  | none => some none
  | some v => (read v).map some

/-! ## Simple values -/

/-- A text. -/
def readString? (v : Value) : Option String := v.string?

/-- A truth value. -/
def readBool? (v : Value) : Option Bool := v.bool?

/-- A natural number below a bound. -/
def readNat? (bound : Nat) : Value → Option Nat
  | .integer n => if 0 ≤ n ∧ n < bound then some n.toNat else none
  | _ => none

/-- A 64-bit number without sign. -/
def readUInt64? (v : Value) : Option UInt64 := (readNat? UInt64.size v).map UInt64.ofNat

/-- A 32-bit number without sign. -/
def readUInt32? (v : Value) : Option UInt32 := (readNat? UInt32.size v).map UInt32.ofNat

/-- A 64-bit number with sign. -/
def readInt64? (v : Value) : Option Int64 := v.integer?.bind Decimal.fitInt64?

/-- A 32-bit number with sign. -/
def readInt32? (v : Value) : Option Int32 := v.integer?.bind Decimal.fitInt32?

/-- A list. -/
def readList? {α : Type} (read : Value → Option α) : Value → Option (List α)
  | .array items => items.mapM read
  | _ => none

/-- A name out of a fixed set, alone or as the only field of an object with the value `null`. -/
def readName? {α : Type} (ofName? : String → Option α) : Value → Option α
  | .string name => ofName? name
  | .object [(name, .null)] => ofName? name
  | _ => none

/-- A natural number. -/
def writeNat (n : Nat) : Value := .integer n

/-- A list of texts. -/
def writeStrings (texts : List String) : Value := .array (texts.map .string)

end OrderDesk.Record
