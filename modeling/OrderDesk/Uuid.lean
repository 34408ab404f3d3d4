import OrderDesk.Text.Basic

/-!
# Universally unique identifiers

An identifier is 128 bits.  It is written as 32 lower-case hexadecimal digits in groups of 8, 4, 4,
4 and 12 with hyphens between.  Reading takes digits of either case and four forms: that one, the
same in braces, the same after `urn:uuid:`, and the 32 digits alone.
-/

namespace OrderDesk

/-- An identifier of 128 bits. -/
structure Uuid where
  /-- The bits, the first digit's four on top. -/
  bits : BitVec 128
  deriving DecidableEq, Repr

namespace Uuid

/-- The identifier without a set bit, which stands for nothing. -/
def nil : Uuid := ⟨0⟩

instance : Inhabited Uuid := ⟨nil⟩

/-- The identifier with the given number. -/
def ofNat (n : Nat) : Uuid := ⟨BitVec.ofNat 128 n⟩

/-- The identifier is `nil`. -/
def isNil (u : Uuid) : Bool := u == nil

/-- The version: the first digit of the third group. -/
def version (u : Uuid) : Nat := (u.bits.toNat >>> 76) % 16

/-- Drawn at random: identifiers of version 4 are. -/
def isRandom (u : Uuid) : Bool := u.version == 4

/-! ## Text -/

/-- One hexadecimal digit. -/
def hexDigit (n : Nat) : Char := Nat.digitChar (n % 16)

/-- The value of a hexadecimal digit of either case. -/
def hexValue? (c : Char) : Option Nat :=
  if '0' ≤ c ∧ c ≤ '9' then some (c.toNat - '0'.toNat)
  else if 'a' ≤ c ∧ c ≤ 'f' then some (c.toNat - 'a'.toNat + 10)
  else if 'A' ≤ c ∧ c ≤ 'F' then some (c.toNat - 'A'.toNat + 10)
  else none

/-- The last `width` hexadecimal digits of a number. -/
def hexadecimal : Nat → Nat → List Char
  | 0, _ => []
  | width + 1, n => hexadecimal width (n / 16) ++ [hexDigit n]

/-- The number that hexadecimal digits stand for. -/
def readHexadecimal? (s : List Char) : Option Nat :=
  (s.mapM hexValue?).map fun digits => digits.foldl (fun n d => 16 * n + d) 0

/-- The five groups with hyphens between. -/
def hyphenated (u : Uuid) : List Char :=
  let digits := hexadecimal 32 u.bits.toNat
  digits.take 8 ++ '-' :: ((digits.drop 8).take 4 ++ '-' :: ((digits.drop 12).take 4 ++
    '-' :: ((digits.drop 16).take 4 ++ '-' :: digits.drop 20)))

/-- The text of an identifier. -/
def text (u : Uuid) : String := String.ofList u.hyphenated

/-- Reads 32 digits. -/
def ofDigits? (s : List Char) : Option Uuid :=
  if s.length = 32 then (readHexadecimal? s).map ofNat else none

/-- Reads the five groups with hyphens between. -/
def ofGroups? (s : List Char) : Option Uuid :=
  match Text.splitOn '-' s with
  | [a, b, c, d, e] =>
    if a.length = 8 ∧ b.length = 4 ∧ c.length = 4 ∧ d.length = 4 ∧ e.length = 12 then
      ofDigits? (a ++ b ++ c ++ d ++ e)
    else none
  | _ => none

/-- Reads an identifier in any of its four forms. -/
def ofList? (s : List Char) : Option Uuid :=
  match s with
  | '\x7b' :: rest => if rest.getLast? = some '\x7d' then ofGroups? rest.dropLast else none
  | 'u' :: 'r' :: 'n' :: ':' :: 'u' :: 'u' :: 'i' :: 'd' :: ':' :: rest => ofGroups? rest
  | _ => if s.length = 32 then ofDigits? s else ofGroups? s

/-- Reads an identifier. -/
def ofText? (s : String) : Option Uuid := ofList? s.toList

end Uuid

end OrderDesk
