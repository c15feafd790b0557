import JavaLint.Regex.CharSet
/-!
# Regular expressions

A regular expression describes parts of a text. Its matcher computes, from a
set of positions where a match may start, the set of positions where it may
end; no backtracking is involved.

## Main definitions

- `Look` — conditions on a position, such as the start of a line
- `Regex` — regular expressions
- `Regex.ends` — the positions where matches end
- `Regex.isMatch` — does some part of a text match?

## Design notes

Sets of positions are ascending lists. A repetition adds the positions that
one more round reaches until no new one appears, so it takes at most one
round per position of the text.
-/

namespace JavaLint

/-- A condition on a position of a text. The word conditions say whether a
    word is made of ASCII characters only. -/
inductive Look where
  | textStart
  | textEnd
  | lineStart
  | lineEnd
  | lineStartCrlf
  | lineEndCrlf
  | wordBoundary (ascii : Bool)
  | notWordBoundary (ascii : Bool)
  | wordStart (ascii : Bool)
  | wordEnd (ascii : Bool)
  | wordStartHalf (ascii : Bool)
  | wordEndHalf (ascii : Bool)
  deriving DecidableEq, Repr, Inhabited

namespace Look

/-- Is this the code point of a word character? -/
def isWord (ascii : Bool) (c : Char) : Bool :=
  if ascii || c.toNat < 128 then CharSet.asciiWordChars.mem c.toNat
  else CharSet.wordChars.mem c.toNat

/-- The character before position `i`. -/
def before? (text : Array Char) (i : Nat) : Option Char :=
  if i = 0 then none else text[i - 1]?

/-- Does a word character stand before position `i`? -/
def wordBefore (ascii : Bool) (text : Array Char) (i : Nat) : Bool :=
  (before? text i).any (isWord ascii)

/-- Does a word character stand at position `i`? -/
def wordAt (ascii : Bool) (text : Array Char) (i : Nat) : Bool :=
  text[i]?.any (isWord ascii)

/-- Does the condition hold at position `i`? -/
def holds (text : Array Char) (i : Nat) : Look → Bool
  | .textStart => i == 0
  | .textEnd => i == text.size
  | .lineStart => i == 0 || before? text i == some '\n'
  | .lineEnd => i == text.size || text[i]? == some '\n'
  | .lineStartCrlf =>
    i == 0 || before? text i == some '\n' ||
      (before? text i == some '\r' && text[i]? != some '\n')
  | .lineEndCrlf =>
    i == text.size || text[i]? == some '\r' ||
      (text[i]? == some '\n' && before? text i != some '\r')
  | .wordBoundary ascii => wordBefore ascii text i != wordAt ascii text i
  | .notWordBoundary ascii => wordBefore ascii text i == wordAt ascii text i
  | .wordStart ascii => !wordBefore ascii text i && wordAt ascii text i
  | .wordEnd ascii => wordBefore ascii text i && !wordAt ascii text i
  | .wordStartHalf ascii => !wordBefore ascii text i
  | .wordEndHalf ascii => !wordAt ascii text i

end Look

/-- Regular expressions. -/
inductive Regex where
  /-- The empty text. -/
  | empty
  /-- One character of a set. -/
  | chars (set : CharSet)
  /-- The empty text, where a condition holds. -/
  | look (condition : Look)
  | concat (a b : Regex)
  | alt (a b : Regex)
  /-- At least `min` and at most `max` times, or any number of times from `min` on. -/
  | repetition (r : Regex) (min : Nat) (max : Option Nat)
  deriving DecidableEq, Repr, Inhabited

/-- Ascending lists of positions in a text. -/
abbrev Positions := List Nat

namespace Positions

/-- The positions in one of two sets. -/
def union : Positions → Positions → Positions
  | [], q => q
  | p, [] => p
  | i :: p, j :: q =>
    if i < j then i :: union p (j :: q)
    else if j < i then j :: union (i :: p) q
    else i :: union p q
termination_by p q => p.length + q.length

/-- The positions of the first set that are not in the second one. -/
def without : Positions → Positions → Positions
  | [], _ => []
  | p, [] => p
  | i :: p, j :: q =>
    if i < j then i :: without p (j :: q)
    else if j < i then without (i :: p) q
    else without p q
termination_by p q => p.length + q.length

/-- What `count` rounds of `step` reach. A round that changes nothing is the last one. -/
def rounds (step : Positions → Positions) : Nat → Positions → Positions
  | 0, p => p
  | count + 1, p =>
    let next := step p
    if next = p then p else rounds step count next

/-- What at most `count` rounds of `step` reach from `fresh`, together with `seen`. -/
def closure (step : Positions → Positions) : Nat → Positions → Positions → Positions
  | 0, _, seen => seen
  | count + 1, fresh, seen =>
    match without (step fresh) seen with
    | [] => seen
    | new => closure step count new (union seen new)

end Positions

namespace Regex

/-- The positions where a match of the expression ends that starts at one of
    the positions `start`. -/
def ends (text : Array Char) : Regex → Positions → Positions
  | .empty, start => start
  | .chars set, start =>
    start.filterMap fun i => if text[i]?.any (set.mem ·.toNat) then some (i + 1) else none
  | .look condition, start => start.filter (condition.holds text ·)
  | .concat a b, start => b.ends text (a.ends text start)
  | .alt a b, start => Positions.union (a.ends text start) (b.ends text start)
  | .repetition r min max, start =>
    let least := Positions.rounds (r.ends text) min start
    let more := match max with
      | some max => max - min
      | none => text.size + 1
    Positions.closure (r.ends text) more least least

/-- Does the expression match some part of the text? -/
def isMatch (r : Regex) (text : String) : Bool :=
  let chars := text.toList.toArray
  !(r.ends chars (List.range (chars.size + 1))).isEmpty

/-- The concatenation of a list of expressions. -/
def concats : List Regex → Regex
  | [] => .empty
  | [r] => r
  | r :: rest => .concat r (concats rest)

/-- The alternation of a list of expressions. -/
def alts : List Regex → Regex
  | [] => .empty
  | [r] => r
  | r :: rest => .alt r (alts rest)

/-- The bytes that a compiled form of the expression takes, roughly. -/
def compiledSize : Regex → Nat
  | .empty => 32
  | .chars set => if set.weight ≤ 1 then 32 else 60 * set.weight
  | .look _ => 32
  | .concat a b => a.compiledSize + b.compiledSize
  | .alt a b => 40 + a.compiledSize + b.compiledSize
  | .repetition r min (some max) => max * r.compiledSize + (max - min) * 40
  | .repetition r min none => Nat.max min 1 * r.compiledSize + 40

/-- Expressions whose compiled form is larger than this are refused. -/
def sizeLimit : Nat := 10485760

end Regex

end JavaLint
