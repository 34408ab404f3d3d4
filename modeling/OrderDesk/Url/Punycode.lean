import OrderDesk.Decimal.Integer

/-!
# Labels outside ASCII

A label of a host name is written in ASCII by Punycode: its ASCII characters, a hyphen if there are
any, and then where and in which order the others go in.  Each step of that is a number: how many
(character, place) pairs lie between it and the step before.  Numbers are written with digits of
base 36, the lowest first, and end with the first digit below a threshold that adapts to the numbers
seen so far.

`encode` writes a label and `decode?` reads one, both without the `xn--` in front.
-/

namespace OrderDesk.Url.Punycode

/-! ## Digits and thresholds -/

/-- A digit: the letters are 0 to 25, the decimal digits 26 to 35. -/
def digitChar (d : Nat) : Char := if d < 26 then Char.ofNat (0x61 + d) else Char.ofNat (0x16 + d)

/-- The value of a digit; letters of either case are taken. -/
def digitValue? (c : Char) : Option Nat :=
  if 'a' ≤ c ∧ c ≤ 'z' then some (c.toNat - 0x61)
  else if 'A' ≤ c ∧ c ≤ 'Z' then some (c.toNat - 0x41)
  else (Decimal.digit? c).map (· + 26)

/-- The threshold of a position, 36 for the first digit and 36 more for each one after it. -/
def threshold (position bias : Nat) : Nat := min 26 (max 1 (position - bias))

theorem threshold_pos (position bias : Nat) : 1 ≤ threshold position bias := by
  unfold threshold
  omega

/-- Divides by 35 until the quotient is at most 455; 36 for each division, and the quotient. -/
def shrink (delta : Nat) : Nat × Nat :=
  if 455 < delta then
    let (k, delta) := shrink (delta / 35)
    (k + 36, delta)
  else (0, delta)
termination_by delta
decreasing_by omega

/-- The bias after a number; `points` characters are in place then. -/
def adapt (delta points : Nat) (isFirst : Bool) : Nat :=
  let delta := if isFirst then delta / 700 else delta / 2
  let (k, delta) := shrink (delta + delta / points)
  k + 36 * delta / (delta + 38)

/-! ## Writing -/

/-- The digits of a number. -/
def digits (bias position n : Nat) : List Char :=
  let t := threshold position bias
  if n < t then [digitChar n]
  else digitChar (t + (n - t) % (36 - t)) :: digits bias (position + 36) ((n - t) / (36 - t))
termination_by n
decreasing_by
  have h := threshold_pos position bias
  have := Nat.div_le_self (n - threshold position bias) (36 - threshold position bias)
  omega

/-- What is known while a label is written. -/
structure Writing where
  /-- Digits so far. -/
  output : List Char
  /-- Pairs since the last step. -/
  delta : Nat
  bias : Nat
  /-- Characters in place. -/
  placed : Nat

/-- Passes a character of the label while those with code `point` are put in. -/
def Writing.pass (point basics : Nat) (w : Writing) (c : Char) : Writing :=
  if c.toNat < point then { w with delta := w.delta + 1 }
  else if c.toNat = point then
    { output := w.output ++ digits w.bias 36 w.delta, delta := 0
      bias := adapt w.delta (w.placed + 1) (w.placed == basics), placed := w.placed + 1 }
  else w

/-- Puts in the characters of the given codes, which ascend from `start`. -/
def Writing.putIn (label : List Char) (basics : Nat) : Nat → List Nat → Writing → Writing
  | _, [], w => w
  | start, point :: points, w =>
    let w := { w with delta := w.delta + (point - start) * (w.placed + 1) }
    let w := label.foldl (Writing.pass point basics) w
    Writing.putIn label basics (point + 1) points { w with delta := w.delta + 1 }

/-- Puts a number into an ascending list without repetitions. -/
def insertOnce (n : Nat) : List Nat → List Nat
  | [] => [n]
  | m :: ms => if n < m then n :: m :: ms else if n = m then m :: ms else m :: insertOnce n ms

/-- Writes a label. -/
def encode (label : List Char) : List Char :=
  let basic := label.filter fun c => c.toNat < 0x80
  let points := (label.filter fun c => 0x80 ≤ c.toNat).foldr (fun c points => insertOnce c.toNat points) []
  let w := Writing.putIn label basic.length 0x80 points ⟨[], 0, 72, basic.length⟩
  (if basic.isEmpty then [] else basic ++ ['-']) ++ w.output

/-! ## Reading -/

/-- What is known while a label is read. -/
structure Reading where
  /-- Characters in place. -/
  output : List Char
  /-- Code of the last character put in. -/
  point : Nat
  /-- Place of the next character, or the sum so far inside a number. -/
  place : Nat
  /-- Place before the number that is being read. -/
  start : Nat
  bias : Nat
  /-- Weight of the next digit. -/
  weight : Nat
  /-- Position of the next digit, 36 for the first one of a number. -/
  position : Nat

/-- Reads a digit.  No label is so long that its numbers need more than 32 bits. -/
def Reading.next (r : Reading) (c : Char) : Option Reading := do
  let d ← digitValue? c
  let place := r.place + d * r.weight
  guard (place < UInt32.size)
  let t := threshold r.position r.bias
  if t ≤ d then return { r with place, weight := r.weight * (36 - t), position := r.position + 36 }
  else
    let size := r.output.length + 1
    let point := r.point + place / size
    guard (point.isValidChar)
    let at' := place % size
    return { output := r.output.take at' ++ Char.ofNat point :: r.output.drop at'
             point, place := at' + 1, start := at' + 1
             bias := adapt (place - r.start) size (r.start == 0), weight := 1, position := 36 }

/-- Reads a label. -/
def decode? (s : List Char) : Option (List Char) := do
  let behind := s.reverse.takeWhile (· != '-')
  let basic := s.take (s.length - behind.length - 1)
  let r ← behind.reverse.foldlM Reading.next ⟨basic, 0x80, 0, 0, 72, 1, 36⟩
  if r.position = 36 then some r.output else none

end OrderDesk.Url.Punycode
