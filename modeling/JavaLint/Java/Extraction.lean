import JavaLint.Java.Cst
import JavaLint.Text.LineIndex
import JavaLint.Tree
/-!
# From concrete syntax to declarations

The declarations of a concrete syntax tree are attached to a tree one after the
other. A node that declares nothing passes what is below it on to the nearest
declaration above.

## Main definitions

- `Java.Source` — a text with its lines
- `Java.Extraction.step` — the declarations of one node, and the nodes to go on with
- `Java.Extraction.run` — the declarations of all pending nodes
- `Java.Source.declarations` — the tree of declarations of a program

## Design notes

The nodes to go on with are kept in a list together with the declarations they
belong to, so a tree may nest as deeply as it likes. A step goes on with nodes
one or two levels below its own, which weigh less than it does together, so the
weight of the pending nodes bounds the number of steps.
-/

namespace JavaLint.Java

/-- A text with its lines. -/
structure Source where
  chars : List Char
  index : Text.LineIndex

namespace Source

/-- The text with columns for the given tab width. -/
def ofText (text : String) (tabWidth : UInt64) : Source :=
  ⟨text.toList, .ofSource text tabWidth⟩

/-- The line and column of a byte. -/
def position (s : Source) (offset : Nat) : Position :=
  let (line, column) := s.index.position offset
  ⟨line, column.toNat⟩

/-- The text of a node as it is written; a node that starts or ends inside a
    character has none. -/
def rawText (s : Source) (c : Cst) : List Char :=
  (Text.slice? s.chars c.start c.stop).getD []

/-- The text of a node without the blanks around it. -/
def text (s : Source) (c : Cst) : String :=
  String.ofList (Text.stripChars Text.isBlank (s.rawText c))

end Source

/-- A declared name: its text, and where it starts. -/
structure Ident where
  text : String
  position : Position
  offset : Nat

namespace Source

/-- The name that a node writes, or `fallback` if its text is empty. -/
def identOf (s : Source) (c : Cst) (fallback : String) : Ident :=
  let text := s.text c
  ⟨if text.isEmpty then fallback else text, s.position c.start, c.start⟩

/-- The name of a node, if it has one. -/
def name? (s : Source) (c : Cst) : Option Ident :=
  (c.child? .name).bind fun name =>
    let ident := s.identOf name ""
    if ident.text.isEmpty then none else some ident

/-- The modifiers with what one more node among them says. -/
def addModifier (s : Source) (m : Modifiers) (c : Cst) : Modifiers :=
  match c.kind with
  | .token "public" => { m with visibility := some .pub }
  | .token "protected" => { m with visibility := some .prot }
  | .token "private" => { m with visibility := some .priv }
  | .annotationUse => match c.child? .name with
    | some name =>
      let text := s.text name
      if text.isEmpty then m
      else { m with annotations := m.annotations ++ [⟨text, s.position c.start⟩] }
    | none => m
  | _ => m

/-- The modifiers of a declaration. Of several visibilities the last one counts. -/
def modifiers (s : Source) (c : Cst) : Modifiers :=
  match c.childOfKind? .modifiers with
  | some list => list.children.foldl s.addModifier {}
  | none => {}

end Source

/-- The named children of a node other than those of the given kinds. -/
def Cst.namedExcept (c : Cst) (skip : List CstKind) : List Cst :=
  c.namedChildren.filter fun child => !skip.contains child.kind

namespace Extraction

/-- A node to go on with, and the declaration that it belongs to. -/
structure Job where
  cst : Cst
  parent : NodeId

/-- Jobs for a list of nodes of one declaration. -/
def jobs (parent : NodeId) (nodes : List Cst) : List Job :=
  nodes.map fun cst => ⟨cst, parent⟩

/-- The tree after a step, and the nodes to go on with. -/
abbrev Result := Except TreeError (Tree × List Job)

/-- Attaches a declaration with the given name. -/
def attach (t : Tree) (parent : NodeId) (kind : NodeKind) (ident : Ident)
    (modifiers : Modifiers := {}) : Except TreeError (Tree × NodeId) :=
  t.push parent
    { kind, ident := ident.text, position := ident.position, offset := ident.offset, modifiers }

/-- A node that declares nothing. -/
def pass (c : Cst) (parent : NodeId) (t : Tree) (skip : List CstKind := []) : Result :=
  .ok (t, jobs parent (c.namedExcept skip))

/-- The declaration of a parameter, if the node is one. Parameters of the
    other forms than receivers have the given kind. -/
def parameter? (s : Source) (kind : ParamKind) (c : Cst) : Option (NodeKind × Ident × Modifiers) :=
  match c.kind with
  | .formalParameter => (s.name? c).map fun ident => (.parameter kind, ident, s.modifiers c)
  | .spreadParameter =>
    ((c.namedChildren.find? (·.kind == .variableDeclarator)).bind s.name?).map fun ident =>
      (.parameter kind, ident, s.modifiers c)
  | .receiverParameter =>
    let place := (c.childOfKind? .thisWord).getD c
    some (.parameter .receiver, s.identOf place "this", {})
  | _ => none

/-- Attaches the parameters of a list to their owner. -/
def parameters (s : Source) (kind : ParamKind) (owner : NodeId) (list : Cst) (t : Tree) :
    Except TreeError Tree :=
  (list.namedChildren.filterMap (parameter? s kind)).foldlM
    (fun t (kind, ident, modifiers) => Prod.fst <$> attach t owner kind ident modifiers) t

/-- The declaration of a type. The components of a record are no parameters. -/
def typeDeclaration (s : Source) (kind : TypeKind) (c : Cst) (parent : NodeId) (t : Tree) : Result :=
  match s.name? c with
  | none => pass c parent t
  | some ident => do
    let (t, id) ← attach t parent (.type kind) ident (s.modifiers c)
    pass c id t [.modifiers, .formalParameters]

/-- The declaration of a method or constructor; its parameters come first. -/
def callable (s : Source) (kind : NodeKind) (c : Cst) (parent : NodeId) (t : Tree) : Result :=
  match s.name? c with
  | none => pass c parent t
  | some ident => do
    let (t, id) ← attach t parent kind ident (s.modifiers c)
    let t ← match c.child? .parameters with
      | some list => parameters s .formal id list t
      | none => pure t
    pass c id t [.modifiers, .formalParameters]

/-- The declaration of a field, under the name of its first variable. -/
def field (s : Source) (c : Cst) (parent : NodeId) (t : Tree) : Result :=
  match (c.child? .declarator).bind s.name? with
  | none => pass c parent t
  | some ident => do
    let (t, id) ← attach t parent .field ident (s.modifiers c)
    pass c id t [.modifiers]

/-- What is said of an anonymous class whose type has no text. -/
def anonymousName : String := "<anonymous>"

/-- An anonymous class. What stands around its body belongs to the declaration above. -/
def anonymousClass (ident : Ident) (c body : Cst) (parent : NodeId) (t : Tree) : Result := do
  let (t, id) ← attach t parent .anonymousClass ident
  return (t, jobs parent (c.namedExcept [.classBody]) ++ jobs id (body.namedExcept []))

/-- The creation of an object, which declares an anonymous class if it has a body. -/
def objectCreation (s : Source) (c : Cst) (parent : NodeId) (t : Tree) : Result :=
  match c.namedChildren.find? (·.kind == .classBody) with
  | none => pass c parent t
  | some body =>
    anonymousClass (s.identOf ((c.child? .type).getD c) anonymousName) c body parent t

/-- A constant of an enum, which declares an anonymous class if it has a body. -/
def enumConstant (s : Source) (c : Cst) (parent : NodeId) (t : Tree) : Result :=
  match c.child? .body, s.name? c with
  | some body, some ident => anonymousClass ident c body parent t
  | _, _ => pass c parent t

/-- A catch clause with its parameter. -/
def catchClause (s : Source) (c : Cst) (parent : NodeId) (t : Tree) : Result := do
  let caught := (c.namedChildren.find? (·.kind == .catchParameter)).bind fun param =>
    (s.name? param).map fun ident => (ident, s.modifiers param)
  let t ← match caught with
    | some (ident, modifiers) =>
      Prod.fst <$> attach t parent (.parameter .caught) ident modifiers
    | none => pure t
  pass c parent t [.catchParameter]

/-- A parameter of a lambda without a type. -/
def bareParameter (s : Source) (owner : NodeId) (t : Tree) (name : Cst) : Except TreeError Tree :=
  let ident := s.identOf name ""
  if ident.text.isEmpty then .ok t
  else Prod.fst <$> attach t owner (.parameter .lambda) ident

/-- The parameters of a lambda. -/
def lambdaParameters (s : Source) (owner : NodeId) (params : Cst) (t : Tree) :
    Except TreeError Tree :=
  match params.kind with
  | .identifier => bareParameter s owner t params
  | .inferredParameters =>
    (params.namedChildren.filter (·.kind == .identifier)).foldlM (bareParameter s owner) t
  | .formalParameters => parameters s .lambda owner params t
  | _ => .ok t

/-- The name of all lambdas. -/
def lambdaName : String := "->"

/-- A lambda with its parameters. -/
def lambda (s : Source) (c : Cst) (parent : NodeId) (t : Tree) : Result := do
  let (t, id) ← attach t parent .lambda ⟨lambdaName, s.position c.start, c.start⟩
  let t ← match c.child? .parameters with
    | some params => lambdaParameters s id params t
    | none => pure t
  return (t, jobs id (c.child? .body).toList)

/-- The declarations of one node, and the nodes to go on with. -/
def step (s : Source) (c : Cst) (parent : NodeId) (t : Tree) : Result :=
  match c.kind with
  | .classDeclaration => typeDeclaration s .classType c parent t
  | .interfaceDeclaration => typeDeclaration s .interfaceType c parent t
  | .enumDeclaration => typeDeclaration s .enumType c parent t
  | .annotationDeclaration => typeDeclaration s .annotationType c parent t
  | .recordDeclaration => typeDeclaration s .recordType c parent t
  | .methodDeclaration => callable s .method c parent t
  | .constructorDeclaration | .compactConstructor => callable s .constructor c parent t
  | .fieldDeclaration | .constantDeclaration => field s c parent t
  | .objectCreation => objectCreation s c parent t
  | .enumConstant => enumConstant s c parent t
  | .catchClause => catchClause s c parent t
  | .lambda => lambda s c parent t
  | _ => pass c parent t

/-- The declarations of the pending nodes, at most `fuel` of them, the first one first. -/
def run (s : Source) : Nat → List Job → Tree → Except TreeError Tree
  | 0, _, t => .ok t
  | _ + 1, [], t => .ok t
  | fuel + 1, job :: pending, t => do
    let (t, next) ← step s job.cst job.parent t
    run s fuel (next ++ pending) t

end Extraction

/-- The tree of declarations of a program. -/
def Source.declarations (s : Source) (unit : String) (program : Cst) : Except TreeError Tree :=
  Extraction.run s program.weight [⟨program, Tree.root⟩] (Tree.ofUnit unit)

end JavaLint.Java
