import OrderDesk.Decimal.Binary
import OrderDesk.Decimal.Integer

/-!
# Doubles as decimal text

`shortest` writes the fewest digits that read back as the same double, in positional notation
whatever the size; of several such digit strings it takes the one nearest to the exact value, and
the larger one when two are equally near.  `fixed` writes a given number of places, where an exact
half goes to the even neighbour.
-/

namespace OrderDesk.Decimal

/-- The numbers around `m · 2 ^ q` that read back as it, in units of `2 ^ (q - 2)`: from `low` to
`high`, ends included when `m` is even.  The gap below a power of two is half as wide. -/
structure Neighbourhood where
  /-- Lower end. -/
  low : Nat
  /-- The number itself. -/
  mid : Nat
  /-- Upper end. -/
  high : Nat
  /-- Both ends belong to it. -/
  closed : Bool
  /-- Exponent of the unit. -/
  unit : Int
  deriving Repr

/-- The neighbourhood of a finite double. -/
def neighbourhood (m : Nat) (q : Int) : Neighbourhood :=
  { low := if m = Binary.hiddenBit ∧ q ≠ -1074 then 4 * m - 1 else 4 * m - 2
    mid := 4 * m
    high := 4 * m + 2
    closed := m % 2 == 0
    unit := q - 2 }

/-- The number of decimal digits before the point of `n / d`, when that is at least one. -/
def wholeDigits (n d : Nat) : Nat := (naturalText (n / d)).length

/-- How many zeros follow the point of `n / d < 1` before its first digit. -/
def leadingZeros (n d : Nat) : Nat → Nat
  | 0 => 0
  | fuel + 1 => if d ≤ 10 * n then 0 else leadingZeros (10 * n) d fuel + 1

/-- The position `e` of the first digit: the number lies in `[10 ^ (e - 1), 10 ^ e)`. -/
def magnitude (n d : Nat) : Int :=
  if d ≤ n then (wholeDigits n d : Int) else -(leadingZeros n d 400 : Int)

/-- `num · 10 ^ (-x)` against whole multiples: numerator and denominator scaled by a power of ten.
-/
def scaled (n d : Nat) (x : Int) : Nat × Nat :=
  match x with
  | .ofNat k => (n, d * Nat.pow 10 k)
  | .negSucc k => (n * Nat.pow 10 (k + 1), d)

/-- A whole multiple `c` of `10 ^ x` lies in the neighbourhood. -/
def Neighbourhood.holds (w : Neighbourhood) (x : Int) (c : Nat) : Bool :=
  let (ln, ld) := Binary.ratio w.low w.unit
  let (hn, hd) := Binary.ratio w.high w.unit
  let (ln, ld) := scaled ln ld x
  let (hn, hd) := scaled hn hd x
  if w.closed then ln ≤ c * ld && c * hd ≤ hn else ln < c * ld && c * hd < hn

/-- The nearer of the two multiples of `10 ^ x` around the number that lie in the neighbourhood. -/
def Neighbourhood.candidate? (w : Neighbourhood) (x : Int) : Option Nat :=
  let (n, d) := Binary.ratio w.mid w.unit
  let (n, d) := scaled n d x
  let c := n / d
  let below := w.holds x c
  let above := w.holds x (c + 1)
  if below && above then
    some (if 2 * (n - c * d) < d then c else c + 1)
  else if below then some c
  else if above then some (c + 1)
  else none

/-- Tries grids of more and more digits, `k` of them next; `fuel` grids are left. -/
def Neighbourhood.search (w : Neighbourhood) (e : Int) (k : Nat) : Nat → Nat × Int
  | 0 => (0, 0)
  | fuel + 1 =>
    let x := e - k
    match w.candidate? x with
    | some c => (c, x)
    | none => w.search e (k + 1) fuel

/-- `c · 10 ^ x` in positional notation. -/
def positional (c : Nat) (x : Int) : List Char :=
  match x with
  | .ofNat k => naturalText (c * Nat.pow 10 k)
  | .negSucc k =>
    let places := k + 1
    let digits := padded (places + 1) c
    let whole := digits.take (digits.length - places)
    let fraction := (digits.drop (digits.length - places)).reverse.dropWhile (· == '0') |>.reverse
    if fraction.isEmpty then whole else whole ++ '.' :: fraction

/-- The digits of a finite double without its sign. -/
def shortestFinite (m : Nat) (q : Int) : List Char :=
  if m = 0 then ['0'] else
    let (n, d) := Binary.ratio m q
    let (c, x) := (neighbourhood m q).search (magnitude n d) 1 20
    positional c x

/-- The shortest text of a double. -/
def shortest (x : Float) : String :=
  match Binary.ofFloat x with
  | .nan => "NaN"
  | .infinite negative => if negative then "-inf" else "inf"
  | .finite negative m q =>
    String.ofList (if negative then '-' :: shortestFinite m q else shortestFinite m q)

/-- `n / d` rounded to a whole number, an exact half to the even neighbour. -/
def roundHalfEven (n d : Nat) : Nat :=
  let c := n / d
  let twice := 2 * (n % d)
  if twice < d then c else if d < twice then c + 1 else c + c % 2

/-- A double with exactly `places` digits after the point (at least one). -/
def fixed (places : Nat) (x : Float) : String :=
  match Binary.ofFloat x with
  | .nan => "NaN"
  | .infinite negative => if negative then "-inf" else "inf"
  | .finite negative m q =>
    let (n, d) := Binary.ratio m q
    let digits := padded (places + 1) (roundHalfEven (n * Nat.pow 10 places) d)
    let text := digits.take (digits.length - places) ++ '.' :: digits.drop (digits.length - places)
    String.ofList (if negative then '-' :: text else text)

end OrderDesk.Decimal
