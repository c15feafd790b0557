/-!
# Concrete syntax trees

A concrete syntax tree holds every lexeme of a text, grouped by the rules of
the grammar. Where the text does not follow the grammar, the tree has flaws.

## Main definitions

- `Java.Cst` — a node of a concrete syntax tree
- `Java.Cst.hasFlaw`, `Java.Cst.firstFlaw?` — the flaws of a tree

## Design notes

Only the groups that declarations are made of have kinds of their own. All
others are phrases: what they stand for makes no difference to declarations.
-/

namespace JavaLint.Java

/-- The kinds of nodes. -/
inductive CstKind where
  | program
  | classDeclaration
  | interfaceDeclaration
  | enumDeclaration
  | annotationDeclaration
  | recordDeclaration
  | methodDeclaration
  | constructorDeclaration
  | compactConstructor
  | fieldDeclaration
  | constantDeclaration
  | objectCreation
  | enumConstant
  | catchClause
  | lambda
  | classBody
  | modifiers
  | formalParameters
  | formalParameter
  | spreadParameter
  | receiverParameter
  | variableDeclarator
  | catchParameter
  | inferredParameters
  | annotationUse
  | identifier
  | thisWord
  /-- Any other group of nodes. -/
  | phrase
  /-- A keyword, operator or separator with the given text. -/
  | token (text : String)
  /-- Text without a place in the grammar. -/
  | error
  deriving DecidableEq, Repr, Inhabited

namespace CstKind

/-- Keywords, operators and separators have no names of their own. -/
def isNamed : CstKind → Bool
  | .token _ => false
  | _ => true

/-- What a node of the kind is called where it is missing. -/
def label : CstKind → String
  | .token text => text
  | .identifier => "identifier"
  | .thisWord => "this"
  | .error => "ERROR"
  | _ => "phrase"

end CstKind

/-- What a node is to the node above it. -/
inductive Role where
  | name
  | parameters
  | declarator
  | body
  | type
  deriving DecidableEq, Repr, Inhabited

/-- A node of a concrete syntax tree with the bytes that it takes. A `missing`
    node is a lexeme that the text lacks. -/
inductive Cst where
  | node (kind : CstKind) (role : Option Role) (missing : Bool) (start stop : Nat)
      (children : List Cst)
  deriving Repr, Inhabited

namespace Cst

/-- The kind of a node. -/
def kind : Cst → CstKind
  | .node kind .. => kind

/-- What a node is to the node above it. -/
def role : Cst → Option Role
  | .node _ role .. => role

/-- Is the node a lexeme that the text lacks? -/
def isMissing : Cst → Bool
  | .node _ _ missing .. => missing

/-- The byte that a node starts at. -/
def start : Cst → Nat
  | .node _ _ _ start .. => start

/-- The byte after the end of a node. -/
def stop : Cst → Nat
  | .node _ _ _ _ stop _ => stop

/-- The nodes directly below a node, in the order of the text. -/
def children : Cst → List Cst
  | .node _ _ _ _ _ children => children

/-- The node with another role. -/
def withRole (role : Role) : Cst → Cst
  | .node kind _ missing start stop children => .node kind (some role) missing start stop children

/-- A lexeme that the text holds. -/
def leaf (kind : CstKind) (start stop : Nat) : Cst :=
  .node kind none false start stop []

/-- The children other than keywords, operators and separators. -/
def namedChildren (c : Cst) : List Cst :=
  c.children.filter (·.kind.isNamed)

/-- The first child with the given role. -/
def child? (c : Cst) (role : Role) : Option Cst :=
  c.children.find? (·.role == some role)

/-- The first child of the given kind. -/
def childOfKind? (c : Cst) (kind : CstKind) : Option Cst :=
  c.children.find? (·.kind == kind)

/-- The node itself is a flaw: text without a place, or a missing lexeme. -/
def isFlaw (c : Cst) : Bool :=
  c.isMissing || c.kind == .error

mutual

/-- The number of nodes of a tree. -/
def size : Cst → Nat
  | .node _ _ _ _ _ children => sizes children + 1

/-- The number of nodes of a list of trees. -/
def sizes : List Cst → Nat
  | [] => 0
  | c :: rest => c.size + sizes rest

end

mutual

/-- A weight that exceeds the weights of all nodes below a node, those two levels
    below counted twice. -/
def weight : Cst → Nat
  | .node _ _ _ _ _ children => 2 * weights children + 1

/-- The weights of a list of trees. -/
def weights : List Cst → Nat
  | [] => 0
  | c :: rest => c.weight + weights rest

end

mutual

/-- Is the node or one below it a flaw? -/
def hasFlaw : Cst → Bool
  | .node kind _ missing _ _ children => missing || kind == .error || haveFlaw children

/-- Is one of the nodes, or one below them, a flaw? -/
def haveFlaw : List Cst → Bool
  | [] => false
  | c :: rest => c.hasFlaw || haveFlaw rest

end

/-- The first flaw in depth-first order, starting with the pending nodes. Nodes
    without a flaw in them are passed over. -/
def searchFlaw : Nat → List Cst → Option Cst
  | 0, _ => none
  | _ + 1, [] => none
  | fuel + 1, c :: pending =>
    if c.isFlaw then some c
    else searchFlaw fuel (c.children.filter hasFlaw ++ pending)

/-- The first flaw of a tree in depth-first order. -/
def firstFlaw? (c : Cst) : Option Cst :=
  searchFlaw c.size [c]

end Cst

end JavaLint.Java
