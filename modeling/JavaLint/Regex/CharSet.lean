import JavaLint.Unicode.CaseFolding
import JavaLint.Unicode.Category
import JavaLint.Unicode.Property
import JavaLint.Unicode.Script
/-!
# Sets of characters

The character classes of regular expressions, as expressions over ranges.

## Main definitions

- `CharSet` — a set of characters
- `CharSet.mem` — membership
- `CharSet.digits`, `CharSet.blanks`, `CharSet.wordChars` — the classes `\d`, `\s` and `\w`
-/

namespace JavaLint

open Unicode (Ranges)

/-- A set of characters. -/
inductive CharSet where
  | empty
  /-- The characters from `lo` to `hi`, both included. -/
  | range (lo hi : Nat)
  | ranges (r : Ranges)
  | union (a b : CharSet)
  | inter (a b : CharSet)
  | diff (a b : CharSet)
  | symmDiff (a b : CharSet)
  | compl (a : CharSet)
  /-- All characters that are the same as a member up to case. -/
  | folded (a : CharSet)
  /-- All ASCII letters that are the same as a member up to case, and the members. -/
  | foldedAscii (a : CharSet)
  deriving DecidableEq, Repr, Inhabited

namespace CharSet

/-- The code points that are the same as `n` up to the case of an ASCII letter. -/
def asciiVariants (n : Nat) : List Nat :=
  if (Char.ofNat n).isUpper && n < 128 then [n, n + 32]
  else if (Char.ofNat n).isLower && n < 128 then [n, n - 32]
  else [n]

/-- Is the character with code point `n` in the set? -/
def mem : CharSet → Nat → Bool
  | .empty, _ => false
  | .range lo hi, n => lo ≤ n && n ≤ hi
  | .ranges r, n => r.contains n
  | .union a b, n => a.mem n || b.mem n
  | .inter a b, n => a.mem n && b.mem n
  | .diff a b, n => a.mem n && !b.mem n
  | .symmDiff a b, n => a.mem n != b.mem n
  | .compl a, n => !a.mem n
  | .folded a, n => (Unicode.caseVariants n).any a.mem
  | .foldedAscii a, n => (asciiVariants n).any a.mem

/-- The single character `c`. -/
def single (c : Char) : CharSet := .range c.toNat c.toNat

/-- The union of a list of sets. -/
def unions : List CharSet → CharSet
  | [] => .empty
  | [a] => a
  | a :: rest => .union a (unions rest)

/-- All characters. -/
def all : CharSet := .range 0 Unicode.maxCodePoint

/-- The decimal digits of all scripts. -/
def digits : CharSet := .ranges Unicode.categoryNd

/-- The characters with the property `White_Space`. -/
def blanks : CharSet :=
  unions [.range 0x9 0xD, .range 0x20 0x20, .range 0x85 0x85, .range 0xA0 0xA0,
    .range 0x1680 0x1680, .range 0x2000 0x200A, .range 0x2028 0x2029, .range 0x202F 0x202F,
    .range 0x205F 0x205F, .range 0x3000 0x3000]

/-- The code points of words: letters, marks, decimal digits, connecting
    punctuation and joiners. -/
def wordRanges : Ranges :=
  .union [Unicode.alphabetic, Unicode.categoryMn, Unicode.categoryMc, Unicode.categoryMe,
    Unicode.categoryNd, Unicode.categoryPc, ⟨[(0x200C, 0x200D)]⟩]

/-- The characters of words. -/
def wordChars : CharSet := .ranges wordRanges

/-- The ASCII digits. -/
def asciiDigits : CharSet := .range '0'.toNat '9'.toNat

/-- The ASCII blanks. -/
def asciiBlanks : CharSet := .union (.range 0x9 0xD) (.range 0x20 0x20)

/-- The ASCII letters, digits and the underscore. -/
def asciiWordChars : CharSet :=
  unions [asciiDigits, .range 'A'.toNat 'Z'.toNat, .single '_', .range 'a'.toNat 'z'.toNat]

/-- How many ranges it takes to write the set down, roughly. -/
def weight : CharSet → Nat
  | .empty => 0
  | .range _ _ => 1
  | .ranges r => r.pairs.length
  | .union a b | .symmDiff a b => a.weight + b.weight
  | .inter a b | .diff a b => max a.weight b.weight
  | .compl a => a.weight + 1
  | .folded a | .foldedAscii a => 2 * a.weight

end CharSet

end JavaLint
