import JavaLint.Java.Cst
import JavaLint.Java.Lexeme
/-!
# Parsing expressions

A grammar is a table of parsing expressions, one for each rule. An expression
matches lexemes from a position on and yields the nodes that it groups them
into. Of several alternatives the first one that matches counts.

## Main definitions

- `Java.Peg` — parsing expressions over a type of rules
- `Java.Peg.run` — the match of an expression at a position

## Design notes

The matcher keeps the furthest position at which a lexeme was not the one it
looked for; that is where a text that does not follow the grammar goes wrong.
Conditions on what follows do not count for it. Every expression that repeats
takes at least one lexeme in each round, so a bound proportional to the number
of lexemes is never reached.
-/

namespace JavaLint.Java

/-- Parsing expressions. -/
inductive Peg (Rule : Type) where
  /-- The word or mark with the given text. -/
  | token (text : String)
  /-- Any word but the listed ones, as a name. -/
  | name (except : List String)
  /-- A lexeme of the given kind. -/
  | lexeme (kind : LexemeKind)
  /-- Nothing, where no blank stands before the next lexeme. -/
  | adjacent
  /-- Nothing. -/
  | empty
  | seq (first second : Peg Rule)
  | alt (first second : Peg Rule)
  /-- Any number of times. -/
  | star (p : Peg Rule)
  /-- Nothing, where `p` matches. -/
  | ahead (p : Peg Rule)
  /-- Nothing, where `p` does not match. -/
  | notAhead (p : Peg Rule)
  | rule (r : Rule)
  /-- A node of the given kind above what `p` yields. -/
  | node (kind : CstKind) (p : Peg Rule)
  /-- What `p` yields, with a role for its first node. -/
  | labelled (label : Role) (p : Peg Rule)
  /-- `base`, then any number of `step` and `wrap`. After each `wrap`, a node of
      the given kind stands above all that came before. -/
  | chain (base step : Peg Rule) (kind : CstKind) (wrap : Peg Rule)
  deriving Inhabited

namespace Peg

variable {Rule : Type}

/-- A list of expressions one after the other. -/
def all : List (Peg Rule) → Peg Rule
  | [] => .empty
  | [p] => p
  | p :: rest => .seq p (all rest)

/-- The first of a list of alternatives that matches. -/
def any : List (Peg Rule) → Peg Rule
  | [] => .notAhead .empty
  | [p] => p
  | p :: rest => .alt p (any rest)

/-- An expression that may be missing. -/
def opt (p : Peg Rule) : Peg Rule :=
  .alt p .empty

/-- At least once. -/
def plus (p : Peg Rule) : Peg Rule :=
  .seq p (.star p)

/-- One of the given words and marks. -/
def tokens (texts : List String) : Peg Rule :=
  any (texts.map .token)

/-- At least one `p`, with `separator` between each two. -/
def sepBy1 (separator : String) (p : Peg Rule) : Peg Rule :=
  .seq p (.star (.seq (.token separator) p))

/-- Any number of `p`, with `separator` between each two. -/
def sepBy (separator : String) (p : Peg Rule) : Peg Rule :=
  opt (sepBy1 separator p)

/-- Marks without blanks between them. -/
def glued : List String → Peg Rule
  | [] => .empty
  | [t] => .token t
  | t :: rest => .seq (.token t) (.seq .adjacent (glued rest))

/-- What matching an expression comes to: the nodes of the match and the
    position after it, if there is a match, and the furthest position so far at
    which a lexeme was not the one looked for. -/
structure Outcome where
  found : Option (List Cst × Nat)
  furthest : Nat

namespace Outcome

/-- A match. -/
def ok (nodes : List Cst) (next furthest : Nat) : Outcome :=
  ⟨some (nodes, next), furthest⟩

/-- No match. -/
def fail (furthest : Nat) : Outcome :=
  ⟨none, furthest⟩

/-- The outcome with the nodes of a match changed. -/
def mapNodes (f : List Cst → List Cst) (o : Outcome) : Outcome :=
  ⟨o.found.map fun (nodes, next) => (f nodes, next), o.furthest⟩

end Outcome

/-- The kind of the node of a lexeme that is looked for by its text. -/
def tokenKind (text : String) : CstKind :=
  if text = "this" then .thisWord else .token text

/-- The node of a lexeme. -/
def lexemeNode (kind : CstKind) (l : Lexeme) : Cst :=
  .node kind none (l.kind == .missing) l.start l.stop []

/-- The nodes of the strays from position `i` on, of which there are at most
    `fuel`, and the position after them. -/
def strays (ts : Array Lexeme) : Nat → Nat → List Cst × Nat
  | 0, i => ([], i)
  | fuel + 1, i => match ts[i]? with
    | some l =>
      if l.kind = .stray then
        let (nodes, next) := strays ts fuel (i + 1)
        (.leaf .error l.start l.stop :: nodes, next)
      else ([], i)
    | none => ([], i)

/-- Takes the lexeme at position `i`, if it passes the test. Strays before it
    are taken along. -/
def take (ts : Array Lexeme) (test : Lexeme → Option CstKind) (i furthest : Nat) : Outcome :=
  let (skipped, j) := strays ts (ts.size - i) i
  match ts[j]? with
  | some l => match test l with
    | some kind => .ok (skipped ++ [lexemeNode kind l]) (j + 1) furthest
    | none => .fail (max furthest j)
  | none => .fail (max furthest j)

/-- Does the lexeme at position `i` start where the one before it ends? -/
def isAdjacent (ts : Array Lexeme) (i : Nat) : Bool :=
  match ts[i - 1]?, ts[i]? with
  | some a, some b => 0 < i && a.stop == b.start
  | _, _ => false

/-- A node above a list of nodes; above none, it stands at the start of the
    lexeme at position `i`. -/
def above (ts : Array Lexeme) (i : Nat) (kind : CstKind) (nodes : List Cst) : Cst :=
  match nodes, nodes.getLast? with
  | first :: _, some last => .node kind none false first.start last.stop nodes
  | _, _ =>
    let place := (ts[i]?.map (·.start)).getD 0
    .node kind none false place place []

/-- The nodes with a role for the first one. -/
def withRole (role : Role) : List Cst → List Cst
  | [] => []
  | c :: rest => c.withRole role :: rest

mutual

/-- The match of an expression at position `i`; `furthest` is the furthest
    position so far at which a lexeme was not the one looked for. -/
def run (grammar : Rule → Peg Rule) (ts : Array Lexeme) :
    Nat → Peg Rule → (i furthest : Nat) → Outcome
  | 0, _, _, furthest => .fail furthest
  | fuel + 1, p, i, furthest =>
    match p with
    | .token text =>
      take ts (fun l =>
        if (l.kind == .word || l.kind == .mark || l.kind == .missing) && l.text == text then
          some (tokenKind text)
        else none) i furthest
    | .name except =>
      take ts (fun l =>
        if l.kind == .word && !except.contains l.text then some .identifier else none) i furthest
    | .lexeme kind =>
      take ts (fun l => if l.kind == kind then some .phrase else none) i furthest
    | .adjacent => if isAdjacent ts i then .ok [] i furthest else .fail furthest
    | .empty => .ok [] i furthest
    | .seq a b => match run grammar ts fuel a i furthest with
      | ⟨none, furthest⟩ => .fail furthest
      | ⟨some (nodes, next), furthest⟩ =>
        (run grammar ts fuel b next furthest).mapNodes (nodes ++ ·)
    | .alt a b => match run grammar ts fuel a i furthest with
      | ⟨none, furthest⟩ => run grammar ts fuel b i furthest
      | found => found
    | .star a => match run grammar ts fuel a i furthest with
      | ⟨none, furthest⟩ => .ok [] i furthest
      | ⟨some (nodes, next), furthest⟩ =>
        if next ≤ i then .ok nodes next furthest
        else (run grammar ts fuel (.star a) next furthest).mapNodes (nodes ++ ·)
    | .ahead a => match (run grammar ts fuel a i furthest).found with
      | some _ => .ok [] i furthest
      | none => .fail furthest
    | .notAhead a => match (run grammar ts fuel a i furthest).found with
      | some _ => .fail furthest
      | none => .ok [] i furthest
    | .rule r => run grammar ts fuel (grammar r) i furthest
    | .node kind a => (run grammar ts fuel a i furthest).mapNodes fun nodes =>
      [above ts i kind nodes]
    | .labelled label a => (run grammar ts fuel a i furthest).mapNodes (withRole label)
    | .chain base step kind wrap => match run grammar ts fuel base i furthest with
      | ⟨none, furthest⟩ => .fail furthest
      | ⟨some (nodes, next), furthest⟩ =>
        runChain grammar ts fuel step kind wrap nodes next furthest

/-- The match of the steps of a chain at position `i` after the given nodes. -/
def runChain (grammar : Rule → Peg Rule) (ts : Array Lexeme) :
    Nat → (step : Peg Rule) → CstKind → (wrap : Peg Rule) → List Cst → (i furthest : Nat) →
      Outcome
  | 0, _, _, _, nodes, i, furthest => .ok nodes i furthest
  | fuel + 1, step, kind, wrap, nodes, i, furthest =>
    match run grammar ts fuel wrap i furthest with
    | ⟨some (more, next), furthest⟩ =>
      runChain grammar ts fuel step kind wrap [above ts i kind (nodes ++ more)] next furthest
    | ⟨none, furthest⟩ => match run grammar ts fuel step i furthest with
      | ⟨some (more, next), furthest⟩ =>
        if next ≤ i then .ok (nodes ++ more) next furthest
        else runChain grammar ts fuel step kind wrap (nodes ++ more) next furthest
      | ⟨none, furthest⟩ => .ok nodes i furthest

end

end Peg

end JavaLint.Java
