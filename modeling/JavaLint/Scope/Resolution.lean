import JavaLint.Tree
/-!
# Resolved scopes

The resolved scope of a declaration is the least visible scope along the types
around it: a public method of a package-private class cannot be reached from
outside the package. Whatever stands inside an anonymous class is `anonInner`.

## Main definitions

- `Tree.nearestMember?` — the nearest member at or above a node
- `Tree.declaredScope` — the scope that a member has by its own modifiers and place
- `Tree.resolvedScope` — the scope that counts for checks
-/

namespace JavaLint.Tree

/-- The kind of a node. -/
def kind? (t : Tree) (id : NodeId) : Option NodeKind :=
  (t.get? id).map (·.kind)

/-- The nearest member on the chain of a node, its parent, and so on. -/
def nearestMember? (t : Tree) (id : NodeId) : Option NodeId :=
  (id :: t.ancestors id).find? fun candidate => (t.kind? candidate).any NodeKind.isMember

/-- The scope of a member without a visibility keyword, by the kind of the node
    directly above it: members of interfaces and annotation types are public,
    constructors of enums are private. -/
def implicitScope (kind : NodeKind) (container : Option NodeKind) : Scope :=
  match container with
  | some (.type .interfaceType) | some (.type .annotationType) => .pub
  | some (.type .enumType) => if kind = .constructor then .priv else .pack
  | _ => .pack

/-- The scope that a member declares: its visibility keyword, or else its implicit scope. -/
def declaredScope (t : Tree) (member : NodeId) : Scope :=
  match t.get? member with
  | none => .priv
  | some node =>
    node.modifiers.visibility.getD
      (implicitScope node.kind ((t.parent? member).bind t.kind?))

/-- The least visible scope that the nodes in `above` impose on what they
    enclose, nearest first. An anonymous class decides at once. -/
def scopeAround (t : Tree) (soFar : Option Scope) : List NodeId → Option Scope
  | [] => soFar
  | id :: above => match t.kind? id with
    | none => some .priv
    | some .anonymousClass => some .anonInner
    | some (.type _) =>
      let scope := t.declaredScope id
      scopeAround t (some (soFar.elim scope (·.leastVisible scope))) above
    | some _ => scopeAround t soFar above

/-- The scope of a declaration as seen from outside. A node without a member
    around it, or one that is not in the tree, is private. -/
def resolvedScope (t : Tree) (id : NodeId) : Scope :=
  match t.nearestMember? id with
  | none => .priv
  | some member =>
    let declared := t.declaredScope member
    (t.scopeAround none (t.ancestors member)).elim declared declared.leastVisible

end JavaLint.Tree
