import OrderDesk.Uuid

/-!
# Percent encoding

A character that may not stand in a part of an address is written as the bytes of its UTF-8 form,
each a percent sign and two upper-case hexadecimal digits.  Which characters those are depends on
the part.  Controls and everything outside ASCII are always among them, and the percent sign never
is, so text that is encoded already stays as it is.
-/

namespace OrderDesk.Url

/-! ## Characters that are encoded -/

/-- Characters encoded everywhere. -/
def isControl (c : Char) : Bool := c < ' ' || '~' < c

/-- Characters encoded in a fragment. -/
def inFragment (c : Char) : Bool := isControl c || c ∈ [' ', '"', '<', '>', '\x60']

/-- Characters encoded in a path. -/
def inPath (c : Char) : Bool := inFragment c || c ∈ ['#', '?', '\x7b', '\x7d']

/-- Characters encoded in a user name and a password. -/
def inCredentials (c : Char) : Bool :=
  inPath c || c ∈ ['/', ':', ';', '=', '@', '[', '\\', ']', '^', '|']

/-- Characters encoded in a query. -/
def inQuery (c : Char) : Bool := isControl c || c ∈ [' ', '"', '#', '<', '>']

/-- Characters encoded in a query of an address with a special scheme. -/
def inSpecialQuery (c : Char) : Bool := inQuery c || c == '\''

/-! ## Writing -/

/-- A byte as a percent sign and two digits. -/
def encodeByte (b : UInt8) : List Char := '%' :: (Uuid.hexadecimal 2 b.toNat).map Char.toUpper

/-- Encodes the characters of a text for which that is to be done. -/
def encode (special : Char → Bool) (s : List Char) : List Char :=
  s.flatMap fun c => if special c then (String.utf8EncodeChar c).flatMap encodeByte else [c]

/-! ## Reading -/

/-- The value of a hexadecimal digit given as a byte. -/
def hexByte? (b : UInt8) : Option Nat := Uuid.hexValue? (Char.ofNat b.toNat)

/-- Replaces every percent sign with two digits by the byte they stand for. -/
def decodeBytes : List UInt8 → List UInt8
  | 37 :: a :: b :: s =>
    match hexByte? a, hexByte? b with
    | some x, some y => UInt8.ofNat (16 * x + y) :: decodeBytes s
    | _, _ => 37 :: decodeBytes (a :: b :: s)
  | b :: s => b :: decodeBytes s
  | [] => []

/-- The text that an encoded text stands for, if its bytes are UTF-8. -/
def decode? (s : List Char) : Option (List Char) :=
  (String.fromUTF8? ⟨(decodeBytes (s.flatMap String.utf8EncodeChar)).toArray⟩).map String.toList

end OrderDesk.Url
