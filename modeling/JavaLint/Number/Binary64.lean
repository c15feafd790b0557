/-!
# Binary floating-point numbers

The 64-bit format of IEEE 754, by its bit pattern. Decimal numbers are rounded
to it exactly, to the nearest number and on a tie to the one with an even
significand.

## Main definitions

- `Binary64` — a number of the format
- `Binary64.significand`, `Binary64.exponent` — the parts of a finite number
- `Binary64.ofDecimal` — the number nearest to a decimal one
-/

namespace JavaLint

/-- A number of the 64-bit format, by its bits. -/
structure Binary64 where
  bits : UInt64
  deriving DecidableEq, Repr, Inhabited

namespace Binary64

/-- The bits without the sign. -/
def magnitude (x : Binary64) : Nat :=
  x.bits.toNat % Nat.pow 2 63

/-- Is the sign bit set? -/
def isNegative (x : Binary64) : Bool :=
  Nat.pow 2 63 ≤ x.bits.toNat

/-- The number with the given sign and magnitude bits. -/
def ofMagnitude (negative : Bool) (magnitude : Nat) : Binary64 :=
  ⟨((if negative then Nat.pow 2 63 else 0) + magnitude).toUInt64⟩

/-- The magnitude bits of infinity. -/
def infinityBits : Nat := 0x7FF * Nat.pow 2 52

/-- Infinity with the given sign. -/
def infinity (negative : Bool) : Binary64 :=
  ofMagnitude negative infinityBits

/-- A quiet NaN with the given sign. -/
def nan (negative : Bool) : Binary64 :=
  ofMagnitude negative (infinityBits + Nat.pow 2 51)

/-- Neither finite nor infinite. -/
def isNaN (x : Binary64) : Bool :=
  infinityBits < x.magnitude

/-- One of the two infinities. -/
def isInfinite (x : Binary64) : Bool :=
  x.magnitude == infinityBits

/-- The integer whose product with a power of two is the magnitude of a finite number. -/
def significand (x : Binary64) : Nat :=
  if x.magnitude < Nat.pow 2 52 then x.magnitude else Nat.pow 2 52 + x.magnitude % Nat.pow 2 52

/-- The exponent of that power of two. -/
def exponent (x : Binary64) : Int :=
  if x.magnitude < Nat.pow 2 52 then -1074 else (x.magnitude / Nat.pow 2 52 : Nat) - 1075

/-- The quotient of two numbers rounded to the nearest integer, on a tie to the even one. -/
def roundDiv (num den : Nat) : Nat :=
  let q := num / den
  let r := num % den
  if 2 * r < den then q
  else if den < 2 * r then q + 1
  else if q % 2 == 0 then q else q + 1

/-- `num / den` divided by two to the power `q`, as a quotient of integers. -/
def scaled (num den : Nat) (q : Int) : Nat × Nat :=
  if 0 ≤ q then (num, den * Nat.pow 2 q.toNat) else (num * Nat.pow 2 (-q).toNat, den)

/-- The exponent of the last place of the number nearest to `num / den`. -/
def placeOf (num den : Nat) : Int :=
  let guess : Int := (num.log2 : Int) - den.log2 - 52
  let (n, d) := scaled num den guess
  max (if n < d * Nat.pow 2 52 then guess - 1 else guess) (-1074)

/-- The magnitude bits of the number nearest to `num / den`; from infinity on
    they may exceed those of infinity. -/
def nearestMagnitude (num den : Nat) : Nat :=
  let q := placeOf num den
  let (n, d) := scaled num den q
  (q + 1074).toNat * Nat.pow 2 52 + roundDiv n d

/-- The number nearest to `digits * 10 ^ exponent`, with the given sign. -/
def ofDecimal (negative : Bool) (digits : Nat) (exponent : Int) : Binary64 :=
  let size : Int := (Nat.toDigits 10 digits).length + exponent
  if digits = 0 || size < -340 then ofMagnitude negative 0
  else if 340 < size then infinity negative
  else
    let num := digits * Nat.pow 10 exponent.toNat
    let den := Nat.pow 10 (-exponent).toNat
    ofMagnitude negative (min (nearestMagnitude num den) infinityBits)

end Binary64

end JavaLint
