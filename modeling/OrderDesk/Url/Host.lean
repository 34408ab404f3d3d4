import OrderDesk.Url.Domain
import OrderDesk.Url.Percent

/-!
# Hosts

A host is a domain name, an address of 4 bytes, or an address of 8 groups of 16 bits in brackets.  A
name whose last label is a number is taken for an address of 4 bytes; its numbers may be decimal,
octal after a zero and hexadecimal after `0x`, and the last one fills all bytes that are left.
-/

namespace OrderDesk.Url

/-- A host. -/
inductive Host where
  /-- A name; an empty one stands for no host. -/
  | name (s : List Char)
  /-- An address of 4 bytes, as a number. -/
  | v4 (n : Nat)
  /-- An address of 8 groups. -/
  | v6 (groups : List Nat)
  deriving DecidableEq, Repr

namespace Host

/-! ## Addresses of 4 bytes -/

/-- A digit of the given base. -/
def digitOf? (base : Nat) (c : Char) : Option Nat := (Uuid.hexValue? c).filter (· < base)

/-- The number that digits of a base stand for; no digits are 0. -/
def numberOf? (base : Nat) (s : List Char) : Option Nat :=
  (s.mapM (digitOf? base)).map fun digits => digits.foldl (fun n d => base * n + d) 0

/-- A number in one of the three bases. -/
def number? : List Char → Option Nat
  | [] => none
  | '0' :: 'x' :: s => numberOf? 16 s
  | '0' :: 'X' :: s => numberOf? 16 s
  | ['0'] => some 0
  | '0' :: s => numberOf? 8 s
  | s => numberOf? 10 s

/-- The labels of a name, without an empty one at the end. -/
def labels (s : List Char) : List (List Char) :=
  match (Text.splitOn '.' s).reverse with
  | [] :: rest => rest.reverse
  | all => all.reverse

/-- The last label is a number. -/
def endsInNumber (s : List Char) : Bool :=
  match (labels s).getLast? with
  | some last => (!last.isEmpty && last.all fun c => (Decimal.digit? c).isSome) || (number? last).isSome
  | none => false

/-- An address out of its numbers. -/
def v4OfNumbers? (numbers : List Nat) : Option Nat := do
  let last ← numbers.getLast?
  let bytes := numbers.dropLast
  guard (bytes.length ≤ 3 ∧ bytes.all (· ≤ 255) ∧ last < Nat.pow 256 (4 - bytes.length))
  return bytes.foldr (fun b n => n / 256 + b * 0x1000000) 0 + last

/-- Reads an address. -/
def v4? (s : List Char) : Option Nat := (labels s).mapM number? >>= v4OfNumbers?

/-- The text of an address: four decimal numbers with points between. -/
def v4Text (n : Nat) : List Char :=
  Domain.joinLabels ([n / 0x1000000, n / 0x10000 % 256, n / 256 % 256, n % 256].map Decimal.naturalText)

/-! ## Addresses of 8 groups -/

/-- A group: one to four hexadecimal digits. -/
def group? (s : List Char) : Option Nat :=
  if s.isEmpty || 4 < s.length then none else numberOf? 16 s

/-- A decimal byte without zeros in front. -/
def byte? (s : List Char) : Option Nat := do
  let n ← numberOf? 10 s
  guard (!s.isEmpty ∧ n ≤ 255 ∧ (s.length = 1 ∨ s.head? ≠ some '0'))
  return n

/-- The groups of one side of the gap; on the right side the last two may be written as 4 bytes. -/
def side? (isRight : Bool) (s : List Char) : Option (List Nat) :=
  if s.isEmpty then some []
  else
    let parts := Text.splitOn ':' s
    match parts.getLast?.map (Text.splitOn '.'), isRight with
    | some [a, b, c, d], true => do
      let groups ← parts.dropLast.mapM group?
      let (a, b, c, d) := (← byte? a, ← byte? b, ← byte? c, ← byte? d)
      return groups ++ [256 * a + b, 256 * c + d]
    | _, _ => parts.mapM group?

/-- The text before and behind the first pair of colons. -/
def gap? : List Char → Option (List Char × List Char)
  | ':' :: ':' :: s => some ([], s)
  | c :: s => (gap? s).map fun (before, behind) => (c :: before, behind)
  | [] => none

/-- Reads an address; a pair of colons stands for as many groups of zeros as are missing, at least
one. -/
def v6? (s : List Char) : Option (List Nat) :=
  match gap? s with
  | some (before, behind) => do
    let left ← side? false before
    let right ← side? true behind
    guard (left.length + right.length ≤ 7)
    return left ++ List.replicate (8 - left.length - right.length) 0 ++ right
  | none => (if s.isEmpty then none else side? true s).filter (·.length = 8)

/-- Groups with colons between. -/
def groupsText : List Nat → List Char
  | [] => []
  | [g] => Nat.toDigits 16 g
  | g :: gs => Nat.toDigits 16 g ++ ':' :: groupsText gs

/-- The number of zeros at the front. -/
def zeros (groups : List Nat) : Nat := (groups.takeWhile (· == 0)).length

/-- Where the longest run of zeros begins, of several the first, and its length. -/
def longestZeros (groups : List Nat) : Nat × Nat :=
  (List.range groups.length).foldl
    (fun best i => if best.2 < zeros (groups.drop i) then (i, zeros (groups.drop i)) else best) (0, 0)

/-- The text of an address: its longest run of two or more zeros is a pair of colons. -/
def v6Text (groups : List Nat) : List Char :=
  let (start, length) := longestZeros groups
  if length < 2 then groupsText groups
  else groupsText (groups.take start) ++ ':' :: ':' :: groupsText (groups.drop (start + length))

/-! ## Hosts -/

/-- The host in brackets, if there are any. -/
def bracketed? (s : List Char) : Option (Option Host) :=
  match s with
  | '[' :: rest =>
    match rest.reverse with
    | ']' :: inner => some ((v6? inner.reverse).map v6)
    | _ => some none
  | _ => none

/-- Reads the host of an address with a special scheme. -/
def ofSpecial? (s : List Char) : Option Host :=
  match bracketed? s with
  | some host => host
  | none => do
    let domain ← decode? s >>= Domain.toAscii?
    guard (!domain.isEmpty)
    if endsInNumber domain then (v4? domain).map v4 else return name domain

/-- Characters that a host of an address with any other scheme cannot have. -/
def isForbidden (c : Char) : Bool :=
  c ∈ ['\x00', '\t', '\n', '\r', ' ', '#', '/', ':', '<', '>', '?', '@', '[', '\\', ']', '^', '|']

/-- Reads the host of an address with any other scheme. -/
def ofPlain? (s : List Char) : Option Host :=
  match bracketed? s with
  | some host => host
  | none => if s.any isForbidden then none else some (name (encode isControl s))

/-- The text of a host. -/
def text : Host → List Char
  | name s => s
  | v4 n => v4Text n
  | v6 groups => '[' :: (v6Text groups ++ [']'])

end Host

end OrderDesk.Url
