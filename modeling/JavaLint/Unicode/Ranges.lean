import JavaLint.Text.Digits
import JavaLint.Text.Split
/-!
# Sets of code points

A set of code points is given by ascending ranges. The tables of the Unicode
properties are written as texts: ranges in hexadecimal, separated by blanks.

## Main definitions

- `Unicode.Ranges` — a set of code points
- `Unicode.Ranges.ofText` — the set that a table text describes
- `Unicode.Ranges.contains`, `union`, `complement` — operations on sets
-/

namespace JavaLint.Unicode

/-- The greatest code point. -/
def maxCodePoint : Nat := 0x10FFFF

/-- A set of code points: ranges with both ends included, in ascending order
    and apart from each other. -/
structure Ranges where
  pairs : List (Nat × Nat)
  deriving DecidableEq, Repr, Inhabited

/-- The value of a hexadecimal number. -/
def hexValue (s : String) : Nat :=
  Text.digitsValue 16 s.toList

namespace Ranges

/-- The range that an entry such as `41-5A` or `AA` describes. -/
def entry (s : String) : Nat × Nat :=
  match s.splitOn "-" with
  | [lo, hi] => (hexValue lo, hexValue hi)
  | _ => (hexValue s, hexValue s)

/-- The set that a table text describes. -/
def ofText (s : String) : Ranges :=
  ⟨(Text.words s).map entry⟩

/-- All code points. -/
def all : Ranges := ⟨[(0, maxCodePoint)]⟩

/-- The code points below 128. -/
def ascii : Ranges := ⟨[(0, 127)]⟩

/-- Membership in ascending ranges. -/
def mem (n : Nat) : List (Nat × Nat) → Bool
  | [] => false
  | (lo, hi) :: rest => if n < lo then false else n ≤ hi || mem n rest

/-- Does the set contain code point `n`? -/
def contains (r : Ranges) (n : Nat) : Bool :=
  mem n r.pairs

/-- Ranges in ascending order of their starts, joined where they touch or
    overlap; the first one is `lo` to `hi`. -/
def joined (lo hi : Nat) : List (Nat × Nat) → List (Nat × Nat)
  | [] => [(lo, hi)]
  | (lo', hi') :: rest =>
    if lo' ≤ hi + 1 then joined lo (max hi hi') rest else (lo, hi) :: joined lo' hi' rest

/-- The code points in some of the sets. -/
def union (sets : List Ranges) : Ranges :=
  match (sets.flatMap (·.pairs)).mergeSort fun a b => a.1 ≤ b.1 with
  | [] => ⟨[]⟩
  | (lo, hi) :: rest => ⟨joined lo hi rest⟩

/-- The code points from `start` on that are in none of the ranges. -/
def gaps (start : Nat) : List (Nat × Nat) → List (Nat × Nat)
  | [] => if start ≤ maxCodePoint then [(start, maxCodePoint)] else []
  | (lo, hi) :: rest =>
    if start < lo then (start, lo - 1) :: gaps (hi + 1) rest else gaps (hi + 1) rest

/-- The code points outside a set. -/
def complement (r : Ranges) : Ranges :=
  ⟨gaps 0 r.pairs⟩

end Ranges

end JavaLint.Unicode
