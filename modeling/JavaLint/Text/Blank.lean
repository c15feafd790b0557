/-!
# Blank characters and letter case

Names in configuration files and on the command line are compared after
their surrounding blanks are dropped and without regard to ASCII case.

## Main definitions

- `Text.isBlank` — the characters with the Unicode property `White_Space`
- `Text.trim` — a text without its leading and trailing blanks
- `Text.lowerAscii` — a text with the letters `A` to `Z` in lower case
-/

namespace JavaLint.Text

/-- The characters with the Unicode property `White_Space`. -/
def isBlank (c : Char) : Bool :=
  let n := c.toNat
  (0x9 ≤ n && n ≤ 0xD) || n == 0x20 || n == 0x85 || n == 0xA0 || n == 0x1680 ||
    (0x2000 ≤ n && n ≤ 0x200A) || n == 0x2028 || n == 0x2029 || n == 0x202F ||
    n == 0x205F || n == 0x3000

/-- Every blank of core's narrower class is a blank here. -/
theorem isBlank_of_isWhitespace {c : Char} (h : c.isWhitespace = true) : isBlank c = true := by
  simp only [Char.isWhitespace, Bool.or_eq_true, decide_eq_true_eq] at h
  rcases h with ((rfl | rfl) | rfl) | rfl <;> decide

/-- The characters left after the leading and trailing ones in `drop` are removed. -/
def stripChars (drop : Char → Bool) (cs : List Char) : List Char :=
  ((cs.dropWhile drop).reverse.dropWhile drop).reverse

/-- A text that neither starts nor ends with a character to be removed stays as it is. -/
theorem stripChars_eq_self {drop : Char → Bool} {cs : List Char}
    (hfirst : ∀ c, cs.head? = some c → drop c = false)
    (hlast : ∀ c, cs.getLast? = some c → drop c = false) :
    stripChars drop cs = cs := by
  have hkeep : ∀ l : List Char, (∀ c, l.head? = some c → drop c = false) → l.dropWhile drop = l := by
    intro l hl
    cases l with
    | nil => rfl
    | cons c l => rw [List.dropWhile_cons_of_neg (by rw [hl c rfl]; decide)]
  unfold stripChars
  rw [hkeep cs hfirst, hkeep cs.reverse (by rw [List.head?_reverse]; exact hlast),
    List.reverse_reverse]

/-- The text without its leading and trailing blanks. -/
def trim (s : String) : String :=
  String.ofList (stripChars isBlank s.toList)

/-- The text with the letters `A` to `Z` in lower case; all other characters stay. -/
def lowerAscii (s : String) : String :=
  String.ofList (s.toList.map Char.toLower)

/-- Equality of texts up to the case of ASCII letters. -/
def sameIgnoringCase (a b : String) : Bool :=
  lowerAscii a == lowerAscii b

end JavaLint.Text
