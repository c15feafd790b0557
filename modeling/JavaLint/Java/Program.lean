import JavaLint.Java.Grammar.Declarations
/-!
# Programs

Every text has a concrete syntax tree. Where it does not follow the grammar,
the cheapest change that makes it do so is a flaw of the tree: a closing brace
or semicolon that is missing, or a lexeme or short expression too many. If
there is no such change, missing marks are put in one after the other, and if
that does not help either, all that follows the last whole declaration or
statement is one flaw.

## Main definitions

- `Java.Program.read?` — the tree of lexemes that follow the grammar
- `Java.Program.repair?` — the cheapest change
- `Java.Program.ofText` — the concrete syntax tree of a text
-/

namespace JavaLint.Java.Program

/-- The lexemes of a program under repair, and where the last lexeme or comment ends. -/
structure Draft where
  lexemes : Array Lexeme
  gap : Nat

/-- The match of the grammar with the lexemes of a draft. -/
def attempt (d : Draft) : Peg.Outcome :=
  Peg.run grammar d.lexemes (256 * (d.lexemes.size + 2)) Phrase.program 0 0

/-- The tree above the nodes of a program. -/
def tree (d : Draft) (nodes : List Cst) : Cst :=
  Peg.above d.lexemes 0 .program nodes

/-- The tree of lexemes that follow the grammar to their end, or else the
    furthest position at which a lexeme was not the one looked for. -/
def read (d : Draft) : Except Nat Cst :=
  let outcome := attempt d
  match outcome.found with
  | none => .error outcome.furthest
  | some (nodes, next) =>
    let (strays, next) := Peg.strays d.lexemes (d.lexemes.size - next) next
    if next = d.lexemes.size then .ok (tree d (nodes ++ strays)) else .error outcome.furthest

/-- The tree of lexemes that follow the grammar. -/
def read? (d : Draft) : Option Cst :=
  (read d).toOption

/-- The draft with a missing mark put in before position `i`. -/
def insert (d : Draft) (i : Nat) (text : String) : Draft :=
  let place := (d.lexemes[i]?.map (·.gap)).getD d.gap
  { d with lexemes := d.lexemes.take i ++ #[⟨.missing, text, place, place, place⟩] ++
      d.lexemes.drop i }

/-- The lexemes from position `i` up to `j` as a single stray one. -/
def strayFrom? (d : Draft) (i j : Nat) : Option Lexeme :=
  match d.lexemes[i]?, d.lexemes[j - 1]? with
  | some first, some last => some { first with kind := .stray, stop := last.stop }
  | _, _ => none

/-- The draft with the lexemes from position `i` up to `j` counted as too many. -/
def discard (d : Draft) (i j : Nat) : Draft :=
  match strayFrom? d i j with
  | some stray => { d with lexemes := d.lexemes.take i ++ #[stray] ++ d.lexemes.drop j }
  | none => d

/-- What a missing mark costs. -/
def insertionCost : Nat := 610

/-- What text of the given number of bytes costs that is too much. -/
def discardCost (bytes : Nat) : Nat :=
  600 + bytes

/-- The most lexemes that are discarded in place of a missing mark. -/
def discardLimit : Nat := insertionCost - discardCost 0

/-- Do the lexemes from position `i` up to `j` form one expression? -/
def isExpression (d : Draft) (i j : Nat) : Bool :=
  let lexemes := d.lexemes.extract i j
  match (Peg.run grammar lexemes (256 * (lexemes.size + 2)) Phrase.expression 0 0).found with
  | some (_, next) => next == lexemes.size
  | none => false

/-- The draft with the lexemes from position `i` up to `j` discarded, and what
    that costs. They must be a single lexeme or a single expression. -/
def discarded? (d : Draft) (i j : Nat) : Option (Nat × Draft) :=
  match d.lexemes[i]?, d.lexemes[j - 1]? with
  | some first, some last =>
    let cost := discardCost (last.stop - first.start)
    if i + 1 = j || (cost < insertionCost && isExpression d i j) then some (cost, discard d i j)
    else none
  | _, _ => none

/-- The changes where position `i` is the furthest one reached, the cheapest
    first: the lexeme there or what stands before it is too much, or a mark is
    missing. -/
def changes (d : Draft) (i : Nat) : List Draft :=
  let before := (List.range (min i discardLimit)).filterMap fun n => discarded? d (i - 1 - n) i
  let insertions := ["\x7d", ";"].map fun text => (insertionCost, insert d i text)
  (((discarded? d i (i + 1)).toList ++ before ++ insertions).mergeSort fun a b => a.1 ≤ b.1).map (·.2)

/-- The tree after the cheapest change that makes the rest follow the grammar. -/
def repair? (d : Draft) (i : Nat) : Option Cst :=
  (changes d i).findSome? read?

/-- The tree after missing marks are put in, at most `count` of them, each where
    the text goes wrong and so that the grammar takes it. -/
def complete? : Nat → Draft → Option Cst
  | 0, _ => none
  | count + 1, d => match read d with
    | .ok c => some c
    | .error i => ["\x7d", ";"].findSome? fun text =>
      let next := insert d i text
      match read next with
      | .ok c => some c
      | .error j => if i < j then complete? count next else none

/-- The most marks that are put in. -/
def insertionLimit : Nat := 8

/-- The tree of the part of a text that follows the grammar, with the rest as a flaw. -/
def broken (d : Draft) : Cst :=
  let (nodes, next) := ((attempt d).found).getD ([], 0)
  let flaw := (strayFrom? d next d.lexemes.size).map fun l => Cst.leaf .error l.start l.stop
  tree d (nodes ++ flaw.toList)

/-- The concrete syntax tree of a text. -/
def ofText (text : List Char) : Cst :=
  let lexed := lex text
  let d : Draft := ⟨lexed.lexemes.toArray, lexed.gap⟩
  match read d with
  | .ok c => c
  | .error i => ((repair? d i).or (complete? insertionLimit d)).getD (broken d)

end JavaLint.Java.Program
