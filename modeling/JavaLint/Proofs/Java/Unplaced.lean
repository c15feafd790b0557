import JavaLint.Proofs.Java.Extraction
import JavaLint.Proofs.Text.Search
import JavaLint.Proofs.Tree.Unplaced
/-!
# Extraction without positions

The lines of a text only serve for the positions of its declarations. Texts with
the same characters have the same declarations in all else, whatever the tab
width of their columns is.

## Main definitions

- `Java.Source.unplaced` — a text in which all positions are the same

## Main statements

- `Java.Extraction.follows_step` — a step without positions follows the step
- `Java.Source.unplaced_eq_of_declarations` — the trees of one program in two texts with the
  same characters
-/

namespace JavaLint.Java

/-- A declared name without its position. -/
def Ident.unplaced (i : Ident) : Ident :=
  { i with position := .nowhere }

namespace Source

variable {s : Source} {c : Cst} {m : Modifiers}

/-- The characters of a text without their lines, so that all positions are the same. -/
def unplaced (s : Source) : Source :=
  ⟨s.chars, ⟨[], 0⟩⟩

theorem position_unplaced (s : Source) (offset : Nat) : s.unplaced.position offset = .nowhere := by
  unfold position unplaced
  rw [Text.LineIndex.position_nil]
  rfl

theorem identOf_unplaced (s : Source) (c : Cst) (fallback : String) :
    s.unplaced.identOf c fallback = (s.identOf c fallback).unplaced := by
  unfold identOf
  rw [position_unplaced]
  rfl

theorem name?_unplaced (s : Source) (c : Cst) :
    s.unplaced.name? c = (s.name? c).map Ident.unplaced := by
  unfold name?
  cases c.child? .name with
  | none => rfl
  | some name =>
    rw [Option.bind_some, Option.bind_some, identOf_unplaced]
    dsimp only [Ident.unplaced]
    split <;> rfl

theorem addModifier_unplaced (s : Source) (m : Modifiers) (c : Cst) :
    s.unplaced.addModifier m.unplaced c = (s.addModifier m c).unplaced := by
  unfold addModifier
  split
  · rfl
  · rfl
  · rfl
  · cases c.child? .name with
    | none => rfl
    | some name =>
      have htext : s.unplaced.text name = s.text name := rfl
      dsimp only
      rw [htext, position_unplaced]
      split
      · rfl
      · simp [Modifiers.unplaced, Annotation.unplaced]
  · rfl

theorem modifiers_unplaced (s : Source) (c : Cst) :
    s.unplaced.modifiers c = (s.modifiers c).unplaced := by
  unfold modifiers
  split
  · next list _ =>
    change list.children.foldl s.unplaced.addModifier (Modifiers.unplaced {}) = _
    exact List.foldl_hom Modifiers.unplaced s.addModifier_unplaced
  · rfl

end Source

namespace Extraction

variable {s : Source} {c : Cst} {t : Tree} {parent owner : NodeId} {kind : NodeKind}
  {ident : Ident} {m : Modifiers}

/-- What a step results in, without positions. -/
def Result.unplaced (r : Tree × List Job) : Tree × List Job :=
  (r.1.unplaced, r.2)

theorem follows_attach (t : Tree) (parent : NodeId) (kind : NodeKind) (ident : Ident)
    (m : Modifiers) :
    Except.Follows (fun r => (r.1.unplaced, r.2)) (attach t parent kind ident m)
      (attach t.unplaced parent kind ident.unplaced m.unplaced) := by
  rintro ⟨t', id⟩ h
  exact Tree.push_unplaced h

theorem follows_fst_attach (t : Tree) (parent : NodeId) (kind : NodeKind) (ident : Ident)
    (m : Modifiers) :
    Except.Follows Tree.unplaced (Prod.fst <$> attach t parent kind ident m)
      (Prod.fst <$> attach t.unplaced parent kind ident.unplaced m.unplaced) :=
  (follows_attach t parent kind ident m).map fun _ => rfl

theorem parameter?_unplaced (s : Source) (kind : ParamKind) (c : Cst) :
    parameter? s.unplaced kind c = (parameter? s kind c).map fun p =>
      (p.1, p.2.1.unplaced, p.2.2.unplaced) := by
  unfold parameter?
  split
  · rw [Source.name?_unplaced, Source.modifiers_unplaced, Option.map_map, Option.map_map]
    rfl
  · cases c.namedChildren.find? (·.kind == .variableDeclarator) with
    | none => rfl
    | some declarator =>
      rw [Option.bind_some, Option.bind_some, Source.name?_unplaced, Source.modifiers_unplaced,
        Option.map_map, Option.map_map]
      rfl
  · dsimp only
    rw [Source.identOf_unplaced]
    rfl
  · rfl

theorem follows_parameters (s : Source) (kind : ParamKind) (owner : NodeId) (list : Cst) (t : Tree) :
    Except.Follows Tree.unplaced (parameters s kind owner list t)
      (parameters s.unplaced kind owner list t.unplaced) := by
  have hlist : list.namedChildren.filterMap (parameter? s.unplaced kind) =
      (list.namedChildren.filterMap (parameter? s kind)).map fun p =>
        (p.1, p.2.1.unplaced, p.2.2.unplaced) := by
    rw [List.map_filterMap]
    exact congrArg list.namedChildren.filterMap (funext (parameter?_unplaced s kind))
  unfold parameters
  rw [hlist]
  refine Except.follows_foldlM ?_ _ t
  rintro t ⟨kind, ident, modifiers⟩
  exact follows_fst_attach t owner kind ident modifiers

theorem follows_bareParameter (s : Source) (owner : NodeId) (t : Tree) (name : Cst) :
    Except.Follows Tree.unplaced (bareParameter s owner t name)
      (bareParameter s.unplaced owner t.unplaced name) := by
  unfold bareParameter
  rw [Source.identOf_unplaced]
  dsimp only [Ident.unplaced]
  split
  · exact Except.follows_ok _ t
  · exact follows_fst_attach t owner _ _ _

theorem follows_lambdaParameters (s : Source) (owner : NodeId) (params : Cst) (t : Tree) :
    Except.Follows Tree.unplaced (lambdaParameters s owner params t)
      (lambdaParameters s.unplaced owner params t.unplaced) := by
  unfold lambdaParameters
  split
  · exact follows_bareParameter s owner t params
  · have h := Except.follows_foldlM (g := id) (follows_bareParameter s owner)
      (params.namedChildren.filter (·.kind == .identifier)) t
    rwa [List.map_id] at h
  · exact follows_parameters s .lambda owner params t
  · exact Except.follows_ok _ t

theorem follows_pass (c : Cst) (parent : NodeId) (t : Tree) (skip : List CstKind) :
    Except.Follows Result.unplaced (pass c parent t skip) (pass c parent t.unplaced skip) :=
  Except.follows_ok _ _

theorem follows_typeDeclaration (s : Source) (kind : TypeKind) (c : Cst) (parent : NodeId)
    (t : Tree) :
    Except.Follows Result.unplaced (typeDeclaration s kind c parent t)
      (typeDeclaration s.unplaced kind c parent t.unplaced) := by
  unfold typeDeclaration
  rw [Source.name?_unplaced, Source.modifiers_unplaced]
  cases s.name? c with
  | none => exact follows_pass c parent t []
  | some ident => exact (follows_attach t parent _ ident _).bind fun r => follows_pass c r.2 r.1 _

theorem follows_callable (s : Source) (kind : NodeKind) (c : Cst) (parent : NodeId) (t : Tree) :
    Except.Follows Result.unplaced (callable s kind c parent t)
      (callable s.unplaced kind c parent t.unplaced) := by
  unfold callable
  rw [Source.name?_unplaced, Source.modifiers_unplaced]
  cases s.name? c with
  | none => exact follows_pass c parent t []
  | some ident =>
    refine (follows_attach t parent kind ident _).bind fun r => ?_
    cases c.child? .parameters with
    | none => exact follows_pass c r.2 r.1 _
    | some list =>
      exact (follows_parameters s .formal r.2 list r.1).bind fun t => follows_pass c r.2 t _

theorem follows_field (s : Source) (c : Cst) (parent : NodeId) (t : Tree) :
    Except.Follows Result.unplaced (field s c parent t)
      (field s.unplaced c parent t.unplaced) := by
  have hname : (c.child? .declarator).bind s.unplaced.name? =
      ((c.child? .declarator).bind s.name?).map Ident.unplaced := by
    cases c.child? .declarator with
    | none => rfl
    | some declarator => exact s.name?_unplaced declarator
  unfold field
  rw [hname, Source.modifiers_unplaced]
  cases (c.child? .declarator).bind s.name? with
  | none => exact follows_pass c parent t []
  | some ident => exact (follows_attach t parent _ ident _).bind fun r => follows_pass c r.2 r.1 _

theorem follows_anonymousClass (ident : Ident) (c body : Cst) (parent : NodeId) (t : Tree) :
    Except.Follows Result.unplaced (anonymousClass ident c body parent t)
      (anonymousClass ident.unplaced c body parent t.unplaced) :=
  (follows_attach t parent _ ident _).bind fun _ => Except.follows_ok _ _

theorem follows_objectCreation (s : Source) (c : Cst) (parent : NodeId) (t : Tree) :
    Except.Follows Result.unplaced (objectCreation s c parent t)
      (objectCreation s.unplaced c parent t.unplaced) := by
  unfold objectCreation
  rw [Source.identOf_unplaced]
  cases c.namedChildren.find? (·.kind == .classBody) with
  | none => exact follows_pass c parent t []
  | some body => exact follows_anonymousClass _ c body parent t

theorem follows_enumConstant (s : Source) (c : Cst) (parent : NodeId) (t : Tree) :
    Except.Follows Result.unplaced (enumConstant s c parent t)
      (enumConstant s.unplaced c parent t.unplaced) := by
  unfold enumConstant
  rw [Source.name?_unplaced]
  cases c.child? .body with
  | none => exact follows_pass c parent t []
  | some body =>
    cases s.name? c with
    | none => exact follows_pass c parent t []
    | some ident => exact follows_anonymousClass ident c body parent t

theorem follows_catchClause (s : Source) (c : Cst) (parent : NodeId) (t : Tree) :
    Except.Follows Result.unplaced (catchClause s c parent t)
      (catchClause s.unplaced c parent t.unplaced) := by
  unfold catchClause
  cases c.namedChildren.find? (·.kind == .catchParameter) with
  | none => exact follows_pass c parent t _
  | some param =>
    dsimp only [Option.bind_some]
    rw [Source.name?_unplaced, Source.modifiers_unplaced]
    cases s.name? param with
    | none => exact follows_pass c parent t _
    | some ident =>
      exact (follows_fst_attach t parent _ ident _).bind fun t => follows_pass c parent t _

theorem follows_lambda (s : Source) (c : Cst) (parent : NodeId) (t : Tree) :
    Except.Follows Result.unplaced (lambda s c parent t)
      (lambda s.unplaced c parent t.unplaced) := by
  unfold lambda
  rw [Source.position_unplaced]
  refine (follows_attach t parent .lambda ⟨lambdaName, s.position c.start, c.start⟩ {}).bind
    fun r => ?_
  cases c.child? .parameters with
  | none => exact Except.follows_ok _ _
  | some params =>
    exact (follows_lambdaParameters s r.2 params r.1).bind fun _ => Except.follows_ok _ _

/-- A step without positions does what the step does. -/
theorem follows_step (s : Source) (c : Cst) (parent : NodeId) (t : Tree) :
    Except.Follows Result.unplaced (step s c parent t)
      (step s.unplaced c parent t.unplaced) := by
  unfold step
  split
  · exact follows_typeDeclaration s _ c parent t
  · exact follows_typeDeclaration s _ c parent t
  · exact follows_typeDeclaration s _ c parent t
  · exact follows_typeDeclaration s _ c parent t
  · exact follows_typeDeclaration s _ c parent t
  · exact follows_callable s _ c parent t
  · exact follows_callable s _ c parent t
  · exact follows_callable s _ c parent t
  · exact follows_field s c parent t
  · exact follows_field s c parent t
  · exact follows_objectCreation s c parent t
  · exact follows_enumConstant s c parent t
  · exact follows_catchClause s c parent t
  · exact follows_lambda s c parent t
  · exact follows_pass c parent t []

/-- A run without positions does what the run does. -/
theorem follows_run (s : Source) (fuel : Nat) (pending : List Job) (t : Tree) :
    Except.Follows Tree.unplaced (run s fuel pending t)
      (run s.unplaced fuel pending t.unplaced) := by
  induction fuel generalizing pending t with
  | zero => exact Except.follows_ok _ t
  | succ fuel ih =>
    cases pending with
    | nil => exact Except.follows_ok _ t
    | cons job pending =>
      exact (follows_step s job.cst job.parent t).bind fun r => ih (r.2 ++ pending) r.1

end Extraction

namespace Source

variable {s s' : Source} {unit : String} {program : Cst} {t t' : Tree} {id : NodeId}
  {node : TreeNode}

/-- In texts with the same characters, a program has the same declarations but
    for their positions. -/
theorem unplaced_eq_of_declarations (hchars : s.chars = s'.chars)
    (h : s.declarations unit program = .ok t) (h' : s'.declarations unit program = .ok t') :
    t.unplaced = t'.unplaced := by
  have hsame : s.unplaced = s'.unplaced := congrArg (Source.mk · _) hchars
  have ht := Extraction.follows_run s _ _ _ t h
  rw [hsame, Extraction.follows_run s' _ _ _ t' h'] at ht
  exact (Except.ok.inj ht).symm

/-- A formal parameter stands where its offset says, which is the start of some
    node of the program. -/
theorem exists_start_of_get? (h : s.declarations unit program = .ok t)
    (hnode : t.get? id = some node) (hkind : node.kind = .parameter .formal) :
    ∃ name : Cst, name.Within program ∧ node.offset = name.start ∧
      node.position = s.position node.offset := by
  obtain ⟨param, name, hparam, hname, hwrites⟩ := exists_parameter_of_get? h hnode hkind
  refine ⟨name, hname.within.trans hparam, hwrites.offset_eq, ?_⟩
  rw [hwrites.offset_eq]
  exact hwrites.position_eq

end Source

end JavaLint.Java
