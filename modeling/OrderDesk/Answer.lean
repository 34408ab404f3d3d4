import OrderDesk.Decimal.Integer
import OrderDesk.Pattern.Matcher
import OrderDesk.Pattern.Reader
import OrderDesk.Text.Basic

/-!
# Typed answers

What the desk accepts when it asks for free text.  Blanks around an answer never count.
-/

namespace OrderDesk.Answer

/-- The longest size, in characters. -/
def maxSizeLength : Nat := 32

/-- The longest address, in characters. -/
def maxAddressLength : Nat := 255

/-- The greatest shop price. -/
def maxPriceYuan : Nat := 10000000

/-- A text of 1 to `limit` characters. -/
def bounded? (limit : Nat) (s : String) : Option String :=
  let t := Text.trim s
  if t.isEmpty || limit < t.length then none else some t

/-- A size; `#` stands for none. -/
def size? (s : String) : Option String := bounded? maxSizeLength s

/-- A delivery address. -/
def address? (s : String) : Option String := bounded? maxAddressLength s

/-- A whole amount in yuan from 1 to the greatest. -/
def price? (s : String) : Option UInt64 :=
  match Decimal.uint64? (Text.trimmed s.toList) with
  | some n => if 1 ≤ n.toNat ∧ n.toNat ≤ maxPriceYuan then some n else none
  | none => none

/-- A link that fits the pattern. -/
def link? (pattern : Pattern) (s : String) : Option String :=
  let t := Text.trim s
  if pattern.node.accepts t then some t else none

/-- A full name: three words with one blank between neighbours. -/
def fullName? (s : String) : Option String :=
  let t := Text.trimmed s.toList
  let words := Text.splitOn ' ' t
  if words.length = 3 ∧ words.all (!·.isEmpty) then some (String.ofList t) else none

/-- Eleven digits, the first of them 7. -/
def isPhoneNumber : List Char → Bool
  | '7' :: digits => digits.length == 10 && digits.all Text.isDigit
  | _ => false

/-- A phone number, given with or without a plus sign and returned without. -/
def phoneNumber? (s : String) : Option String :=
  let t := match Text.trimmed s.toList with
    | '+' :: t => t
    | t => t
  if isPhoneNumber t then some (String.ofList t) else none

end OrderDesk.Answer
