import JavaLint.Files.Path
/-!
# Glob patterns

The patterns that leave files out of a run. `?` stands for one character, `*`
for any text, `[…]` for one character of a set, and `**` as a whole step of a
path for any number of steps. A slash is a character like any other, so `*`
and `?` may stand for it.

## Main definitions

- `Glob` — patterns
- `Glob.parse?` — the pattern that a text writes
- `Glob.accepts` — does a whole path match a pattern?

## Design notes

Matching carries along the set of all ends of the path that are still to be
matched, the longest one first, so no backtracking is involved.
-/

namespace JavaLint

namespace Glob

/-- The characters from `lo` to `hi`. -/
structure CharRange where
  lo : Char
  hi : Char
  deriving DecidableEq, Repr

/-- The parts of a pattern. -/
inductive Part where
  /-- A character that stands for itself. -/
  | literal (c : Char)
  /-- One character. -/
  | anyChar
  /-- Any text. -/
  | anyText
  /-- Any number of whole steps, each with the slash that ends it; or the rest of the path. -/
  | anySteps
  /-- One character of a set. -/
  | oneOf (ranges : List CharRange)
  /-- One character that is not in a set. -/
  | noneOf (ranges : List CharRange)
  deriving DecidableEq, Repr

end Glob

/-- A pattern for whole paths. -/
structure Glob where
  parts : List Glob.Part
  deriving DecidableEq, Repr

namespace Glob

/-- The ranges that the text between brackets writes. -/
def ranges : List Char → List CharRange
  | lo :: '-' :: hi :: rest => ⟨lo, hi⟩ :: ranges rest
  | c :: rest => ⟨c, c⟩ :: ranges rest
  | [] => []

/-- The text up to the next `]`, and what follows that. -/
def untilBracket? (cs : List Char) : Option (List Char × List Char) :=
  match cs.dropWhile (· != ']') with
  | [] => none
  | _ :: rest => some (cs.takeWhile (· != ']'), rest)

/-- The set after an opening bracket, and what follows it. The first character
    of a set is a member even if it is a closing bracket. -/
def set? : List Char → Option (Part × List Char)
  | '!' :: first :: rest =>
    (untilBracket? rest).map fun (more, rest) => (.noneOf (ranges (first :: more)), rest)
  | '!' :: [] => none
  | first :: rest =>
    (untilBracket? rest).map fun (more, rest) => (.oneOf (ranges (first :: more)), rest)
  | [] => none

/-- What follows a set is shorter than the text after its bracket. -/
theorem length_of_untilBracket? {cs more rest : List Char}
    (h : untilBracket? cs = some (more, rest)) : rest.length < cs.length := by
  simp only [untilBracket?] at h
  split at h
  · cases h
  · next c tail heq =>
    obtain ⟨rfl, rfl⟩ : cs.takeWhile (· != ']') = more ∧ tail = rest := by simpa using h
    have : (cs.dropWhile (· != ']')).length ≤ cs.length := (List.dropWhile_sublist _).length_le
    rw [heq] at this
    simp only [List.length_cons] at this
    omega

/-- A set takes at least one character. -/
theorem length_of_set? {cs rest : List Char} {part : Part} (h : set? cs = some (part, rest)) :
    rest.length < cs.length := by
  unfold set? at h
  split at h
  · next first tail =>
    obtain ⟨⟨more, r⟩, hu, he⟩ := Option.map_eq_some_iff.1 h
    obtain rfl : r = rest := (Prod.mk.inj he).2
    have := length_of_untilBracket? hu
    simp only [List.length_cons]
    omega
  · cases h
  · next first tail _ _ =>
    obtain ⟨⟨more, r⟩, hu, he⟩ := Option.map_eq_some_iff.1 h
    obtain rfl : r = rest := (Prod.mk.inj he).2
    have := length_of_untilBracket? hu
    simp only [List.length_cons]
    omega
  · cases h

/-- The parts of a pattern. `atStep` says that a step of the path starts here.
    Two stars in a row must make up a whole step, and more are refused. -/
def parts? (atStep : Bool) : List Char → Option (List Part)
  | [] => some []
  | '*' :: '*' :: '*' :: _ => none
  | '*' :: '*' :: '/' :: rest => if atStep then (parts? true rest).map (.anySteps :: ·) else none
  | ['*', '*'] => if atStep then some [.anySteps] else none
  | '*' :: '*' :: _ => none
  | '*' :: rest => (parts? false rest).map (.anyText :: ·)
  | '?' :: rest => (parts? false rest).map (.anyChar :: ·)
  | '[' :: rest =>
    match h : set? rest with
    | some (part, rest') =>
      have := length_of_set? h
      (parts? false rest').map (part :: ·)
    | none => none
  | c :: rest => (parts? (c == '/') rest).map (.literal c :: ·)
termination_by cs => cs.length

/-- The pattern that a text writes. -/
def parse? (text : String) : Option Glob :=
  (parts? true text.toList).map (⟨·⟩)

/-- Is a character in one of the ranges? -/
def inRanges (ranges : List CharRange) (c : Char) : Bool :=
  ranges.any fun r => r.lo ≤ c && c ≤ r.hi

/-- A text and all its ends, the longest one first. -/
def tails : List Char → List (List Char)
  | [] => [[]]
  | c :: cs => (c :: cs) :: tails cs

/-- The ends of a text that follow a slash, the longest one first. -/
def tailsAfterSlash : List Char → List (List Char)
  | [] => []
  | c :: cs => if c = '/' then cs :: tailsAfterSlash cs else tailsAfterSlash cs

/-- What is left of a text after one character that passes a test. -/
def dropOne? (test : Char → Bool) : List Char → Option (List Char)
  | [] => none
  | c :: cs => if test c then some cs else none

/-- What is left of the texts `todo`, all ends of the first of them, after a part. -/
def Part.step (todo : List (List Char)) : Part → List (List Char)
  | .literal c => todo.filterMap (dropOne? (· == c))
  | .anyChar => todo.filterMap (dropOne? fun _ => true)
  | .oneOf ranges => todo.filterMap (dropOne? (inRanges ranges))
  | .noneOf ranges => todo.filterMap (dropOne? (!inRanges ranges ·))
  | .anyText => (todo.head?.map tails).getD []
  | .anySteps => match todo with
    | [] => []
    | longest :: _ => todo ++ tailsAfterSlash longest ++ [[]]

/-- Does the whole of a path match the pattern? -/
def accepts (g : Glob) (path : String) : Bool :=
  (g.parts.foldl Part.step [path.toList]).contains []

end Glob

end JavaLint
