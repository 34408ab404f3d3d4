/-!
# Whole numbers in decimal

Reading accepts an optional sign and at least one ASCII digit, leading zeros included; nothing may
stand before or after.  Writing gives the shortest such text, without a plus sign.
-/

namespace OrderDesk.Decimal

/-- The value of an ASCII digit. -/
def digit? (c : Char) : Option Nat :=
  if '0' ≤ c ∧ c ≤ '9' then some (c.toNat - '0'.toNat) else none

/-- The number that a list of digit values stands for. -/
def valueOf (digits : List Nat) : Nat := digits.foldl (fun n d => 10 * n + d) 0

/-- One or more digits. -/
def natural? : List Char → Option Nat
  | [] => none
  | s => (s.mapM digit?).map valueOf

/-- A natural number that may carry a plus sign. -/
def unsigned? : List Char → Option Nat
  | '+' :: s => natural? s
  | s => natural? s

/-- A whole number that may carry either sign. -/
def integer? : List Char → Option Int
  | '-' :: s => (natural? s).map fun n => -(n : Int)
  | '+' :: s => (natural? s).map Int.ofNat
  | s => (natural? s).map Int.ofNat

/-- A number that fits 32 bits with sign. -/
def fitInt32? (n : Int) : Option Int32 :=
  if -0x80000000 ≤ n ∧ n < 0x80000000 then some (Int32.ofInt n) else none

/-- A number that fits 64 bits with sign. -/
def fitInt64? (n : Int) : Option Int64 :=
  if -0x8000000000000000 ≤ n ∧ n < 0x8000000000000000 then some (Int64.ofInt n) else none

/-- A number that fits 64 bits without sign. -/
def fitUInt64? (n : Nat) : Option UInt64 :=
  if n < UInt64.size then some (UInt64.ofNat n) else none

/-- A number that fits 32 bits without sign. -/
def fitUInt32? (n : Nat) : Option UInt32 :=
  if n < UInt32.size then some (UInt32.ofNat n) else none

/-- Reads a 32-bit number with sign. -/
def int32? (s : List Char) : Option Int32 := (integer? s).bind fitInt32?

/-- Reads a 64-bit number without sign. -/
def uint64? (s : List Char) : Option UInt64 := (unsigned? s).bind fitUInt64?

/-- The digits of a natural number. -/
def naturalText (n : Nat) : List Char := Nat.toDigits 10 n

/-- The text of a whole number. -/
def integerText : Int → List Char
  | .ofNat n => naturalText n
  | .negSucc n => '-' :: naturalText (n + 1)

/-- The text of a natural number as a string. -/
def ofNat (n : Nat) : String := String.ofList (naturalText n)

/-- The text of a whole number as a string. -/
def ofInt (n : Int) : String := String.ofList (integerText n)

/-- Digits filled up with zeros in front to at least the given width. -/
def padded (width n : Nat) : List Char :=
  let digits := naturalText n
  List.replicate (width - digits.length) '0' ++ digits

end OrderDesk.Decimal
