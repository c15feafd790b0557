import JavaLint.Number.Binary64
/-!
# The shortest text of a number

A finite number is written with the fewest digits that read back as the same
number, and with the digits nearest to it among those.

## Main definitions

- `Binary64.shortest` — the digits and the exponent of the shortest decimal
- `Layout` — how digits and an exponent are laid out as text
- `Binary64.text` — the text of a number
-/

namespace JavaLint

namespace Binary64

/-- The end points of the interval of reals that round to a finite number, times
    `4 / 2 ^ q` where `q` is the exponent, and the number itself in the middle. -/
def interval (x : Binary64) : Nat × Nat × Nat :=
  let m := x.significand
  let narrow := m == Nat.pow 2 52 && -1074 < x.exponent
  (if narrow then 4 * m - 1 else 4 * m - 2, 4 * m, 4 * m + 2)

/-- Is `n * 10 ^ p` in the interval of numbers that round to `x`? The end
    points belong to it if the significand is even. -/
def contains (x : Binary64) (n : Nat) (p : Int) : Bool :=
  let (lo, _, hi) := x.interval
  let q := x.exponent - 2
  let left := n * Nat.pow 10 p.toNat * Nat.pow 2 (-q).toNat
  let unit := Nat.pow 2 q.toNat * Nat.pow 10 (-p).toNat
  if x.significand % 2 == 0 then lo * unit ≤ left && left ≤ hi * unit
  else lo * unit < left && left < hi * unit

/-- The magnitude of `x` divided by `10 ^ p`, as a quotient of integers. -/
def quotient (x : Binary64) (p : Int) : Nat × Nat :=
  let q := x.exponent
  (x.significand * Nat.pow 2 q.toNat * Nat.pow 10 (-p).toNat, Nat.pow 2 (-q).toNat * Nat.pow 10 p.toNat)

/-- The integer `n` for which `n * 10 ^ p` rounds to `x`, if there is one: the
    nearer of the two around `x`, and of two equally near ones the larger. -/
def onGrid? (x : Binary64) (p : Int) : Option Nat :=
  let (num, den) := x.quotient p
  let below := num / den
  let above := below + 1
  match x.contains below p, x.contains above p with
  | true, true => some (if 2 * (num % den) < den then below else above)
  | true, false => some below
  | false, true => some above
  | false, false => none

/-- The number of decimal digits before the point, or minus the number of zeros after it. -/
def decimalSize (x : Binary64) : Int :=
  let (num, den) := x.quotient 0
  if den ≤ num then (Nat.toDigits 10 (num / den)).length
  else 1 - ((Nat.toDigits 10 (den / num)).length : Int)

/-- The first hit on grids of `count`, `count - 1`, … more digits, and its grid. -/
def search (x : Binary64) (p : Int) : Nat → Nat × Int
  | 0 => (0, p)
  | count + 1 => match x.onGrid? p with
    | some n => (n, p)
    | none => search x (p - 1) count

/-- The digits and the exponent of the shortest decimal that reads back as a
    finite number other than zero. -/
def shortest (x : Binary64) : Nat × Int :=
  search x x.decimalSize 20

end Binary64

/-- How the digits of a decimal number are laid out. -/
structure Layout where
  /-- Positional notation starts with this number of digits before the point, … -/
  positionalFrom : Int
  /-- … and ends with this number of digits. -/
  positionalTo : Int

namespace Layout

/-- A row of zeros. -/
def zeros (n : Int) : List Char :=
  List.replicate n.toNat '0'

/-- The digits `ds` with `size` of them before the point, in positional notation;
    there is at least one digit on either side. -/
def positional (ds : List Char) (size : Int) : List Char :=
  if size ≤ 0 then '0' :: '.' :: zeros (-size) ++ ds
  else
    let whole := ds.take size.toNat ++ zeros (size - ds.length)
    let fraction := ds.drop size.toNat
    whole ++ '.' :: (if fraction.isEmpty then ['0'] else fraction)

/-- The digits `ds` with `size` of them before the point, in scientific notation. -/
def scientific (ds : List Char) (size : Int) : List Char :=
  let exponent := 'e' :: (toString (size - 1)).toList
  match ds with
  | [] => exponent
  | [d] => d :: exponent
  | d :: rest => d :: '.' :: rest ++ exponent

/-- A row of digits without the zeros at its end. -/
def dropZeros (ds : List Char) : List Char :=
  (ds.reverse.dropWhile (· == '0')).reverse

/-- The text of `digits * 10 ^ exponent`. -/
def text (layout : Layout) (digits : Nat) (exponent : Int) : List Char :=
  let all := Nat.toDigits 10 digits
  let size : Int := all.length + exponent
  let ds := dropZeros all
  if layout.positionalFrom ≤ size && size ≤ layout.positionalTo then positional ds size
  else scientific ds size

end Layout

namespace Binary64

/-- Numbers from `0.0001` up to, but not including, `10 ^ 16` are written in positional notation. -/
def layout : Layout := ⟨-3, 16⟩

/-- The text of a number; it always holds a point, an exponent or a name. -/
def text (x : Binary64) : String :=
  if x.isNaN then "NaN"
  else
    let body :=
      if x.isInfinite then ['i', 'n', 'f']
      else if x.magnitude = 0 then ['0', '.', '0']
      else
        let (digits, exponent) := x.shortest
        layout.text digits exponent
    String.ofList (if x.isNegative then '-' :: body else body)

end Binary64

end JavaLint
