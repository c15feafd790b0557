import JavaLint.Scope
import JavaLint.Token
/-!
# Syntax trees of declarations

A tree holds the declarations of one source unit: types, anonymous classes,
methods, constructors, fields, lambdas and parameters. Its nodes live in one
array and name each other by index; node 0 is the compilation unit.

## Main definitions

- `NodeKind`, `Modifiers`, `Declaration` — what a node declares
- `Tree.push` — attach a declaration below a node
- `Tree.ancestors`, `Tree.preorder`, `Tree.find?` — queries

## Design notes

A node is attached only below a node that exists, so a parent has a smaller
index than its children. `ancestors` and `preorder` therefore need no more
steps than there are nodes, which is the bound they are given.
-/

namespace JavaLint

/-- The index of a node in its tree. -/
abbrev NodeId := Nat

/-- A place in a source text: line and column, both counted from one. -/
structure Position where
  line : Nat
  column : Nat
  deriving DecidableEq, Repr, Inhabited

/-- A position as `line:column`. -/
def Position.text (p : Position) : String :=
  toString p.line ++ ":" ++ toString p.column

/-- The kinds of named types. -/
inductive TypeKind where
  | classType
  | interfaceType
  | enumType
  | annotationType
  | recordType
  deriving DecidableEq, Repr, Inhabited

/-- The kinds of parameters. `formal` parameters belong to methods and
    constructors, `caught` ones to catch clauses; `receiver` is an explicit `this`. -/
inductive ParamKind where
  | formal
  | caught
  | receiver
  | lambda
  deriving DecidableEq, Repr, Inhabited

/-- What a node declares. -/
inductive NodeKind where
  | compilationUnit
  | type (kind : TypeKind)
  | anonymousClass
  | method
  | constructor
  | field
  | lambda
  | parameter (kind : ParamKind)
  deriving DecidableEq, Repr, Inhabited

namespace NodeKind

/-- The token that checks know a kind by. -/
def token : NodeKind → Token
  | .compilationUnit => .compilationUnit
  | .type .classType => .classDef
  | .type .interfaceType => .interfaceDef
  | .type .enumType => .enumDef
  | .type .annotationType => .annotationDef
  | .type .recordType => .recordDef
  | .anonymousClass => .anonymousClass
  | .method => .methodDef
  | .constructor => .ctorDef
  | .field => .variableDef
  | .lambda => .lambda
  | .parameter _ => .parameterDef

/-- Members are the declarations that have a visibility of their own. -/
def isMember : NodeKind → Bool
  | .type _ | .method | .constructor | .field => true
  | _ => false

/-- The name of a kind in error messages. -/
def name : NodeKind → String
  | .compilationUnit => "CompilationUnit"
  | .type .classType => "Type(Class)"
  | .type .interfaceType => "Type(Interface)"
  | .type .enumType => "Type(Enum)"
  | .type .annotationType => "Type(Annotation)"
  | .type .recordType => "Type(Record)"
  | .anonymousClass => "AnonymousClass"
  | .method => "Method"
  | .constructor => "Constructor"
  | .field => "Field"
  | .lambda => "Lambda"
  | .parameter .formal => "Parameter(Formal)"
  | .parameter .caught => "Parameter(Catch)"
  | .parameter .receiver => "Parameter(Receiver)"
  | .parameter .lambda => "Parameter(Lambda)"

/-- Every kind of node. -/
def all : List NodeKind :=
  [.compilationUnit, .type .classType, .type .interfaceType, .type .enumType, .type .annotationType,
    .type .recordType, .anonymousClass, .method, .constructor, .field, .lambda,
    .parameter .formal, .parameter .caught, .parameter .receiver, .parameter .lambda]

end NodeKind

/-- An annotation: its name as written, and the place of its `@`. -/
structure Annotation where
  name : String
  position : Position
  deriving DecidableEq, Repr, Inhabited

/-- The visibility keyword and the annotations of a declaration. -/
structure Modifiers where
  visibility : Option Scope := none
  annotations : List Annotation := []
  deriving DecidableEq, Repr, Inhabited

/-- A declaration: what a node holds besides its place in the tree. -/
structure Declaration where
  kind : NodeKind
  /-- The declared name. -/
  ident : String
  /-- Where the name stands. -/
  position : Position
  /-- The byte offset of the name. -/
  offset : Nat := 0
  modifiers : Modifiers := {}
  deriving DecidableEq, Repr, Inhabited

/-- A node of a tree: a declaration with its parent and its children in order. -/
structure TreeNode extends Declaration where
  parent : Option NodeId
  children : Array NodeId := #[]
  deriving DecidableEq, Repr, Inhabited

/-- Why a declaration cannot be attached. -/
inductive TreeError where
  | unknownParent (parent : NodeId)
  | nestedCompilationUnit (position : Position)
  | emptyIdentifier (kind : NodeKind) (position : Position)
  deriving DecidableEq, Repr

/-- The text of a tree error. -/
def TreeError.message : TreeError → String
  | .unknownParent parent => "unknown parent node #" ++ toString parent
  | .nestedCompilationUnit position => "compilation unit nested at " ++ position.text
  | .emptyIdentifier kind position =>
    "empty identifier for " ++ kind.name ++ " at " ++ position.text

/-- A syntax tree: its nodes, each known by its index. -/
structure Tree where
  nodes : Array TreeNode
  deriving Repr

namespace Tree

/-- The index of the compilation unit. -/
def root : NodeId := 0

/-- The name of a compilation unit that was given none. -/
def defaultUnit : String := "<unit>"

/-- The tree of an empty compilation unit with the given name. -/
def ofUnit (unit : String) : Tree :=
  let ident := if unit.isEmpty then defaultUnit else unit
  ⟨#[{ kind := .compilationUnit, ident, position := ⟨1, 1⟩, parent := none }]⟩

/-- The number of nodes. -/
def size (t : Tree) : Nat :=
  t.nodes.size

/-- The node with the given index. -/
def get? (t : Tree) (id : NodeId) : Option TreeNode :=
  t.nodes[id]?

/-- Attaches a declaration as the last child of `parent`. The result holds the
    new tree and the index of the new node. -/
def push (t : Tree) (parent : NodeId) (decl : Declaration) : Except TreeError (Tree × NodeId) :=
  if t.size ≤ parent then .error (.unknownParent parent)
  else if decl.kind = .compilationUnit then .error (.nestedCompilationUnit decl.position)
  else if decl.ident.isEmpty then .error (.emptyIdentifier decl.kind decl.position)
  else
    let id := t.size
    let linked := t.nodes.modify parent fun node =>
      { node with children := node.children.push id }
    .ok (⟨linked.push { decl with parent := some parent }⟩, id)

/-- The parent of a node. -/
def parent? (t : Tree) (id : NodeId) : Option NodeId :=
  (t.get? id).bind (·.parent)

/-- The children of a node, in order. -/
def children (t : Tree) (id : NodeId) : List NodeId :=
  match t.get? id with
  | some node => node.children.toList
  | none => []

/-- The first `fuel` strict ancestors of a node, nearest first. -/
def climb (t : Tree) : Nat → NodeId → List NodeId
  | 0, _ => []
  | fuel + 1, id => match t.parent? id with
    | some parent => parent :: climb t fuel parent
    | none => []

/-- The strict ancestors of a node, nearest first. -/
def ancestors (t : Tree) (id : NodeId) : List NodeId :=
  t.climb t.size id

/-- Visits up to `fuel` nodes, depth first, starting with the pending ones. -/
def visit (t : Tree) : Nat → List NodeId → List NodeId
  | 0, _ => []
  | _ + 1, [] => []
  | fuel + 1, id :: pending => id :: visit t fuel (t.children id ++ pending)

/-- All nodes in depth-first order: a node, then the subtrees of its children. -/
def preorder (t : Tree) : List NodeId :=
  t.visit t.size [root]

/-- The first node in depth-first order with the given name. -/
def find? (t : Tree) (ident : String) : Option NodeId :=
  t.preorder.find? fun id => (t.get? id).any (·.ident == ident)

end Tree

end JavaLint
