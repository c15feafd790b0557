import JavaLint.Check
/-!
# Sets of checks

The checks of a run look at a tree together: its nodes are visited in
depth-first order, and each node is handed to the checks that want its token,
in the order of their registration. The checks are found in a table that is
filled once, when the set is built.

## Main definitions

- `Dispatch` — the table from tokens to the indices of the checks that want them
- `CheckSet.ofRegistrations` — the set of the given checks
- `CheckSet.inspect` — the violations of a source unit, ordered by line and column
-/

namespace JavaLint

/-- For each token that some check wants, the indices of those checks. -/
structure Dispatch where
  entries : List (Token × List Nat) := []
  deriving Repr

namespace Dispatch

/-- The entries with `index` added to those of `token`. -/
def addEntry (token : Token) (index : Nat) : List (Token × List Nat) → List (Token × List Nat)
  | [] => [(token, [index])]
  | (t, indices) :: rest =>
    if t = token then (t, indices ++ [index]) :: rest
    else (t, indices) :: addEntry token index rest

/-- The table with check `index` added for each of `tokens`. -/
def add (d : Dispatch) (index : Nat) (tokens : List Token) : Dispatch :=
  ⟨tokens.foldl (fun entries token => addEntry token index entries) d.entries⟩

/-- The indices of the checks that want `token`, if there are any. -/
def get? (d : Dispatch) (token : Token) : Option (List Nat) :=
  d.entries.lookup token

end Dispatch

/-- Checks that look at trees together. -/
structure CheckSet where
  checks : Array Check := #[]
  dispatch : Dispatch := {}

namespace CheckSet

/-- The set with one more check. -/
def add (s : CheckSet) (r : Registration) : Except CheckSetError CheckSet :=
  match r.wanted with
  | .error e => .error e
  | .ok tokens => .ok ⟨s.checks.push r.check, s.dispatch.add s.checks.size tokens⟩

/-- The set of a list of registrations; the first one that asks for an
    unacceptable token is an error. -/
def ofRegistrations (rs : List Registration) : Except CheckSetError CheckSet :=
  rs.foldlM add {}

/-- Does some check want nodes with this token? -/
def isWanted (s : CheckSet) (token : Token) : Bool :=
  (s.dispatch.get? token).isSome

/-- The violations that the checks find at one node, in registration order. -/
def atNode (s : CheckSet) (u : SourceUnit) (id : NodeId) : List Violation :=
  match u.tree.get? id with
  | none => []
  | some node => ((s.dispatch.get? node.kind.token).getD []).filterMap fun index =>
    s.checks[index]?.bind (·.evaluate u id)

/-- The violations of a source unit by line and column. Those at one place
    keep the order of the traversal. -/
def inspect (s : CheckSet) (u : SourceUnit) : List Violation :=
  (u.tree.preorder.flatMap (s.atNode u)).mergeSort fun a b => (a.comparePosition b).isLE

end CheckSet

end JavaLint
