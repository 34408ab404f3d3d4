/-!
# Binary floating point numbers, taken apart

A finite double is `± m · 2 ^ q` with `m` a natural number.  Everything the library prints or rounds
is computed from this form in exact integer arithmetic.
-/

namespace OrderDesk.Decimal

/-- A double by what it stands for. -/
inductive Binary where
  /-- Not a number. -/
  | nan
  | infinite (negative : Bool)
  /-- The number `± m · 2 ^ q`. -/
  | finite (negative : Bool) (m : Nat) (q : Int)
  deriving Repr, DecidableEq

namespace Binary

/-- The weight of the leading bit, which is not written: fractions have 52 bits. -/
def hiddenBit : Nat := 0x10000000000000

/-- Takes the sign bit, the eleven exponent bits and the fraction apart. -/
def ofBits (bits : Nat) : Binary :=
  let negative : Bool := (bits >>> 63) % 2 == 1
  let exponent : Nat := (bits >>> 52) % 0x800
  let fraction : Nat := bits % hiddenBit
  if exponent = 0x7ff then
    if fraction = 0 then .infinite negative else .nan
  else if exponent = 0 then .finite negative fraction (-1074)
  else .finite negative (hiddenBit + fraction) ((exponent : Int) - 1075)

/-- What a double stands for. -/
def ofFloat (x : Float) : Binary := ofBits x.toBits.toNat

/-- Numerator and denominator of `m · 2 ^ q`. -/
def ratio (m : Nat) (q : Int) : Nat × Nat :=
  match q with
  | .ofNat k => (m <<< k, 1)
  | .negSucc k => (m, 1 <<< (k + 1))

/-- The least whole number that is not below the given one; nothing for infinities and NaN. -/
def ceiling? : Binary → Option Int
  | .finite negative m q =>
    let (n, d) := ratio m q
    some (if negative then -((n / d : Nat) : Int) else (((n + d - 1) / d : Nat) : Int))
  | _ => none

end Binary

/-- Rounds a double up to a whole number; infinities and NaN stay. -/
def roundUp (x : Float) : Float :=
  match (Binary.ofFloat x).ceiling? with
  | some n => Float.ofInt n
  | none => x

end OrderDesk.Decimal
