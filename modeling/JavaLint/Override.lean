import JavaLint.Tree
/-!
# Overriding methods

A method overrides another one if it says so by an annotation. The types
above it are never consulted.

## Main definitions

- `Tree.isOverriding` — is this node a method with an override marker?
- `Tree.nearestMethod?` — the method or constructor that declares a parameter
- `Tree.belongsToOverride` — is this node declared by an overriding method?
-/

namespace JavaLint

/-- The annotation names that mark an overriding method. -/
def overrideNames : List String := ["Override", "java.lang.Override"]

/-- An annotation marks an overriding method by its name; blanks around the name do not matter. -/
def Annotation.isOverrideMarker (a : Annotation) : Bool :=
  overrideNames.contains (Text.trim a.name)

namespace Tree

/-- A method that carries an override marker. -/
def isOverriding (t : Tree) (id : NodeId) : Bool :=
  (t.get? id).any fun node =>
    node.kind == .method && node.modifiers.annotations.any Annotation.isOverrideMarker

/-- The method or constructor directly above a node. -/
def nearestMethod? (t : Tree) (id : NodeId) : Option NodeId :=
  match t.parent? id with
  | none => none
  | some parent =>
    if (t.get? parent).any fun node => node.kind == .method || node.kind == .constructor then
      some parent
    else none

/-- A node directly below an overriding method. -/
def belongsToOverride (t : Tree) (id : NodeId) : Bool :=
  (t.nearestMethod? id).any t.isOverriding

end Tree

end JavaLint
