import OrderDesk.Decimal.Integer

/-!
# Reading doubles

The accepted texts are `inf`, `infinity` and `nan` in any case, and decimal numbers: digits with an
optional point among, before or after them and an optional exponent.  Each may carry a sign.  The
result is the nearest double, the even one of two.
-/

namespace OrderDesk.Decimal

/-- Splits the digits off the front of a text. -/
def spanDigits (s : List Char) : List Nat × List Char :=
  ((s.takeWhile (digit? · |>.isSome)).filterMap digit?, s.dropWhile (digit? · |>.isSome))

/-- The exponent part: nothing, or `e` with a whole number of at least one digit. -/
def exponent? : List Char → Option Int
  | [] => some 0
  | c :: s => if c = 'e' ∨ c = 'E' then integer? s else none

/-- The double nearest to `m · 10 ^ e`.  Beyond the range of doubles the power of ten is not
computed. -/
def nearest (m : Nat) (e : Int) : Float :=
  let digits : Int := (naturalText m).length
  if m = 0 ∨ digits + e < -400 then 0.0
  else if 400 < digits + e then 1.0 / 0.0
  else match e with
    | .ofNat k => Float.ofScientific m false k
    | .negSucc k => Float.ofScientific m true (k + 1)

/-- A decimal number without its sign. -/
def decimal? (s : List Char) : Option Float :=
  let (whole, rest) := spanDigits s
  let (fraction, rest) := match rest with
    | '.' :: rest => spanDigits rest
    | rest => ([], rest)
  if whole.isEmpty && fraction.isEmpty then none
  else (exponent? rest).map fun e =>
    nearest (valueOf (whole ++ fraction)) (e - fraction.length)

/-- A double without its sign. -/
def magnitude? (s : List Char) : Option Float :=
  let lower := s.map Char.toLower
  if lower = ['i', 'n', 'f'] ∨ lower = ['i', 'n', 'f', 'i', 'n', 'i', 't', 'y'] then some (1.0 / 0.0)
  else if lower = ['n', 'a', 'n'] then some (0.0 / 0.0)
  else decimal? s

/-- Reads a double. -/
def float? (s : String) : Option Float :=
  match s.toList with
  | '-' :: s => (magnitude? s).map fun x => -x
  | '+' :: s => magnitude? s
  | s => magnitude? s

end OrderDesk.Decimal
