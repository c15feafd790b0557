import JavaLint.Proofs.Java.Address
import JavaLint.Proofs.Tree.Growth
/-!
# What a node yields

A step at a node of the concrete syntax tree attaches declarations and goes on
with nodes below. What these are depends on the node alone. Only where they
belong depends on the tree: its next node becomes the node's own declaration.

## Main definitions

- `Java.Yield` — declarations and nodes to go on with, apart from any tree
- `Java.Yield.run` — what a yield makes of a tree
- `Java.Source.Yields` — the yield of a node, one rule for each production

## Main statements

- `Java.Extraction.exists_yields` — every step runs the yield of its node
-/

namespace JavaLint

/-- The kinds of declarations that parameters of a kind belong to. A parameter that
    is caught belongs to none, but to the declaration around its clause. -/
def ParamKind.Fits (own? : Option NodeKind) : ParamKind → Prop
  | .formal => own? = some .method ∨ own? = some .constructor
  | .receiver => own? = some .method ∨ own? = some .constructor ∨ own? = some .lambda
  | .lambda => own? = some .lambda
  | .caught => own? = none

theorem ParamKind.eq_caught_of_fits_none {k : ParamKind} (h : k.Fits none) : k = .caught := by
  cases k with
  | formal => simp [Fits] at h
  | receiver => simp [Fits] at h
  | lambda => simp [Fits] at h
  | caught => rfl

namespace Java

/-- The declaration of a kind under a name. -/
def Ident.declare (ident : Ident) (kind : NodeKind) (modifiers : Modifiers := {}) : Declaration :=
  { kind, ident := ident.text, position := ident.position, offset := ident.offset, modifiers }

/-- What a step attaches at a node, and the nodes it goes on with, by their
    addresses below the node. -/
structure Yield where
  /-- The declaration of the node itself. -/
  own? : Option Declaration := none
  /-- Parameters, which belong to the own declaration, if there is one. -/
  params : List (Address × Declaration) := []
  /-- Nodes that belong to the declaration around the node. -/
  around : List (Address × Cst) := []
  /-- Nodes that belong to the own declaration. -/
  inside : List (Address × Cst) := []

namespace Yield

variable {y : Yield} {parent first : NodeId}

/-- The node that parameters belong to, if the node around is `parent` and the
    next one is `first`. -/
def owner (y : Yield) (parent first : NodeId) : NodeId :=
  if y.own?.isSome then first else parent

/-- The declarations in the order in which they are attached, with their parents. -/
def entries (y : Yield) (parent first : NodeId) : List (NodeId × Declaration) :=
  (y.own?.map fun decl => (parent, decl)).toList ++
    y.params.map fun p => (y.owner parent first, p.2)

/-- The nodes to go on with in order, with their addresses. -/
def pending (y : Yield) (parent first : NodeId) : List (Address × Extraction.Job) :=
  y.around.map (fun p => (p.1, ⟨p.2, parent⟩)) ++
    y.inside.map fun p => (p.1, ⟨p.2, first⟩)

/-- The tree with the declarations of a yield, and the nodes to go on with. -/
def run (y : Yield) (parent : NodeId) (t : Tree) : Extraction.Result :=
  (fun t' => (t', (y.pending parent t.size).map Prod.snd)) <$> t.pushAll (y.entries parent t.size)

theorem entries_of_own {decl : Declaration} (h : y.own? = some decl) :
    y.entries parent first = (parent, decl) :: y.params.map fun p => (first, p.2) := by
  rw [entries, owner, h]
  rfl

theorem mem_entries {p : NodeId} {decl : Declaration} :
    (p, decl) ∈ y.entries parent first ↔
      (y.own? = some decl ∧ p = parent) ∨
        ((∃ a, (a, decl) ∈ y.params) ∧ p = y.owner parent first) := by
  rw [entries, List.mem_append, Option.mem_toList, Option.map_eq_some_iff, List.mem_map]
  constructor
  · rintro (⟨decl, hown, heq⟩ | ⟨⟨a, decl⟩, hmem, heq⟩)
    · obtain ⟨rfl, rfl⟩ := Prod.mk.inj heq
      exact .inl ⟨hown, rfl⟩
    · obtain ⟨rfl, rfl⟩ := Prod.mk.inj heq
      exact .inr ⟨⟨a, hmem⟩, rfl⟩
  · rintro (⟨hown, rfl⟩ | ⟨⟨a, hmem⟩, rfl⟩)
    · exact .inl ⟨decl, hown, rfl⟩
    · exact .inr ⟨(a, decl), hmem, rfl⟩

theorem mem_pending {a : Address} {job : Extraction.Job} :
    (a, job) ∈ y.pending parent first ↔
      ((a, job.cst) ∈ y.around ∧ job.parent = parent) ∨
        ((a, job.cst) ∈ y.inside ∧ job.parent = first) := by
  obtain ⟨cst, owner⟩ := job
  simp only [pending, List.mem_append, List.mem_map, Prod.exists, Prod.mk.injEq,
    Extraction.Job.mk.injEq]
  constructor
  · rintro (⟨a, d, hmem, rfl, rfl, rfl⟩ | ⟨a, d, hmem, rfl, rfl, rfl⟩)
    · exact .inl ⟨hmem, rfl⟩
    · exact .inr ⟨hmem, rfl⟩
  · rintro (⟨hmem, rfl⟩ | ⟨hmem, rfl⟩)
    · exact .inl ⟨a, cst, hmem, rfl, rfl, rfl⟩
    · exact .inr ⟨a, cst, hmem, rfl, rfl, rfl⟩

end Yield

namespace Cst

/-- The named children other than those of the given kinds, with their addresses. -/
def others (c : Cst) (skip : List CstKind) : List (Address × Cst) :=
  c.childrenWhere fun d => d.kind.isNamed && !skip.contains d.kind

/-- The first child with a role, with its index. -/
def childAt? (c : Cst) (role : Role) : Option (Nat × Cst) :=
  c.childWhere? (·.role == some role)

/-- The body of an anonymous class, with its index. -/
def bodyAt? (c : Cst) : Option (Nat × Cst) :=
  match c.kind with
  | .objectCreation => c.childWhere? (·.kind == .classBody)
  | .enumConstant => c.childAt? .body
  | _ => none

/-- The parameters of a node, where `f` has those of its list. -/
def parametersBy (c : Cst) (f : Cst → List (Address × Declaration)) : List (Address × Declaration) :=
  match c.childAt? .parameters with
  | some (i, list) => Address.under [i] (f list)
  | none => []

end Cst

/-- The kind of type that a declaration of a type declares. -/
def CstKind.typeKind? : CstKind → Option TypeKind
  | .classDeclaration => some .classType
  | .interfaceDeclaration => some .interfaceType
  | .enumDeclaration => some .enumType
  | .annotationDeclaration => some .annotationType
  | .recordDeclaration => some .recordType
  | _ => none

/-- What a declaration of a method or constructor declares. -/
def CstKind.callableKind? : CstKind → Option NodeKind
  | .methodDeclaration => some .method
  | .constructorDeclaration | .compactConstructor => some .constructor
  | _ => none

namespace Source

/-- The declaration of a parameter in a list, if the node is one. -/
def parameterIn? (s : Source) (kind : ParamKind) (param : Cst) : Option Declaration :=
  (Extraction.parameter? s kind param).map fun (kind, ident, modifiers) =>
    ident.declare kind modifiers

/-- The parameters of a list in order. -/
def parametersIn (s : Source) (kind : ParamKind) (list : Cst) : List (Address × Declaration) :=
  Address.choose (s.parameterIn? kind) (list.childrenWhere (·.kind.isNamed))

/-- The declaration of a parameter without a type, unless it has no text. -/
def bareParameter? (s : Source) (name : Cst) : Option Declaration :=
  let ident := s.identOf name ""
  if ident.text.isEmpty then none else some (ident.declare (.parameter .lambda))

/-- The parameters of a lambda, seen from what stands before its arrow. -/
def parametersOfLambda (s : Source) (params : Cst) : List (Address × Declaration) :=
  match params.kind with
  | .identifier => Address.choose s.bareParameter? [([], params)]
  | .inferredParameters =>
    Address.choose s.bareParameter?
      (params.childrenWhere fun d => d.kind.isNamed && d.kind == .identifier)
  | .formalParameters => s.parametersIn .lambda params
  | _ => []

/-- The parameter of a catch clause, if it has a name. -/
def caughtParameter? (s : Source) (c : Cst) : Option (Address × Declaration) :=
  (c.childWhere? (·.kind == .catchParameter)).bind fun (i, param) =>
    (s.name? param).map fun ident =>
      ([i], ident.declare (.parameter .caught) (s.modifiers param))

/-- `Yields s c y`: a step at the node `c` yields `y`. There is one rule for each
    production, and one for the nodes that declare nothing. -/
inductive Yields (s : Source) (c : Cst) : Yield → Prop
  | pass : c.kind ≠ .catchClause → Yields s c { around := c.others [] }
  | typeDeclaration {kind : TypeKind} {ident : Ident} :
      c.kind.typeKind? = some kind → s.name? c = some ident →
      Yields s c {
        own? := some (ident.declare (.type kind) (s.modifiers c))
        inside := c.others [.modifiers, .formalParameters] }
  | callable {kind : NodeKind} {ident : Ident} :
      c.kind.callableKind? = some kind → s.name? c = some ident →
      Yields s c {
        own? := some (ident.declare kind (s.modifiers c))
        params := c.parametersBy (s.parametersIn .formal)
        inside := c.others [.modifiers, .formalParameters] }
  | field {ident : Ident} :
      c.kind = .fieldDeclaration ∨ c.kind = .constantDeclaration →
      (c.child? .declarator).bind s.name? = some ident →
      Yields s c {
        own? := some (ident.declare .field (s.modifiers c))
        inside := c.others [.modifiers] }
  | anonymousClass {ident : Ident} {i : Nat} {body : Cst} :
      c.bodyAt? = some (i, body) → ident.text ≠ "" →
      Yields s c {
        own? := some (ident.declare .anonymousClass)
        around := c.others [.classBody]
        inside := Address.under [i] (body.others []) }
  | catchClause : c.kind = .catchClause →
      Yields s c {
        params := (s.caughtParameter? c).toList
        around := c.others [.catchParameter] }
  | lambda : c.kind = .lambda →
      Yields s c {
        own? := some
          (Ident.declare ⟨Extraction.lambdaName, s.position c.start, c.start⟩ .lambda)
        params := c.parametersBy s.parametersOfLambda
        inside := ((c.childAt? .body).map fun p => ([p.1], p.2)).toList }

end Source

namespace Source

variable {s : Source} {c : Cst} {ident : Ident} {fallback : String}

/-- A node has the name that its child writes, which is not empty. -/
theorem name?_eq_some (h : s.name? c = some ident) :
    ident.text ≠ "" ∧ ∃ name, c.child? .name = some name ∧ ident = s.identOf name "" := by
  obtain ⟨name, hname, h⟩ := Option.bind_eq_some_iff.1 h
  dsimp only at h
  split at h
  · cases h
  · next hne =>
    obtain rfl := Option.some.inj h
    exact ⟨fun hempty => hne (String.isEmpty_iff.2 hempty), name, hname, rfl⟩

theorem text_identOf (s : Source) (c : Cst) : (s.identOf c "").text = s.text c := by
  have hempty : ∀ text : String, (if text.isEmpty then "" else text) = text := by
    intro text
    split
    · next h => exact (String.isEmpty_iff.1 h).symm
    · rfl
  exact hempty (s.text c)

/-- A declaration has the name that a node writes, at the place of that node. -/
structure Writes (s : Source) (name : Cst) (decl : Declaration) : Prop where
  ident_eq : decl.ident = s.text name
  position_eq : decl.position = s.position name.start
  offset_eq : decl.offset = name.start

theorem writes_declare (s : Source) (name : Cst) (kind : NodeKind) (modifiers : Modifiers) :
    s.Writes name ((s.identOf name "").declare kind modifiers) :=
  ⟨s.text_identOf name, rfl, rfl⟩

theorem text_identOf_ne (h : fallback ≠ "") : (s.identOf c fallback).text ≠ "" := by
  change (if (s.text c).isEmpty then fallback else s.text c) ≠ ""
  split
  · exact h
  · next hne => exact fun hempty => hne (String.isEmpty_iff.2 hempty)

end Source

namespace Cst

variable {c d : Cst} {role : Role} {i : Nat}

theorem map_snd_others (c : Cst) (skip : List CstKind) :
    (c.others skip).map Prod.snd = c.namedExcept skip := by
  rw [others, map_snd_childrenWhere, namedExcept, namedChildren, List.filter_filter]
  exact List.filter_congr fun d _ => Bool.and_comm _ _

theorem mem_others {skip : List CstKind} {a : Address} : (a, d) ∈ c.others skip ↔
    ∃ i, a = [i] ∧ c.children[i]? = some d ∧ d.kind.isNamed = true ∧ d.kind ∉ skip := by
  simp [others, mem_childrenWhere]

theorem getElem?_of_bodyAt? (h : c.bodyAt? = some (i, d)) : c.children[i]? = some d := by
  unfold bodyAt? at h
  split at h
  · exact (childWhere?_eq_some h).1
  · exact (childWhere?_eq_some h).1
  · cases h

theorem child?_eq (c : Cst) (role : Role) : c.child? role = (c.childAt? role).map Prod.snd :=
  map_snd_childWhere?.symm

theorem find?_namedChildren (c : Cst) {kind : CstKind} (hkind : kind.isNamed = true) :
    c.namedChildren.find? (·.kind == kind) = (c.childWhere? (·.kind == kind)).map Prod.snd := by
  rw [map_snd_childWhere?, namedChildren, List.find?_filter]
  congr 1
  funext d
  by_cases hd : d.kind = kind
  · simp [hd, hkind]
  · simp [hd]

end Cst

namespace Extraction

variable {s : Source} {c d : Cst} {t : Tree} {parent owner : NodeId} {kind : NodeKind}
  {ident : Ident} {modifiers : Modifiers} {skip : List CstKind} {y : Yield}
  {params : List (Address × Declaration)}

theorem attach_bind {β : Type} (f : Tree × NodeId → Except TreeError β) :
    (attach t parent kind ident modifiers >>= f) =
      (Prod.fst <$> t.push parent (ident.declare kind modifiers)) >>= fun t' => f (t', t.size) := by
  change (t.push parent (ident.declare kind modifiers) >>= f) = _
  cases hpush : t.push parent (ident.declare kind modifiers) with
  | error e => rfl
  | ok res =>
    obtain ⟨t', id⟩ := res
    obtain ⟨-, -, -, -, rfl⟩ := Tree.push_eq_ok_iff.1 hpush
    rfl

theorem map_snd_pending (y : Yield) (parent first : NodeId) :
    (y.pending parent first).map Prod.snd =
      jobs parent (y.around.map Prod.snd) ++ jobs first (y.inside.map Prod.snd) := by
  simp only [Yield.pending, jobs, List.map_append, List.map_map]
  rfl

/-- A step with an own declaration attaches it and its parameters. -/
theorem attach_bind_eq_run {around inside : List (Address × Cst)}
    (f : NodeId → Tree → Except TreeError Tree) (g : NodeId → List Job)
    (hf : ∀ id t, f id t = t.pushAll (params.map fun p => (id, p.2)))
    (hg : ∀ id, g id = jobs parent (around.map Prod.snd) ++ jobs id (inside.map Prod.snd)) :
    (attach t parent kind ident modifiers >>= fun (t, id) => f id t >>= fun t => .ok (t, g id)) =
      Yield.run { own? := some (ident.declare kind modifiers), params, around, inside } parent t := by
  rw [attach_bind, Yield.run, map_snd_pending]
  simp only [Yield.entries, Yield.owner, hf, hg, Option.isSome_some, if_true, Option.map_some,
    Option.toList_some, List.singleton_append, Tree.pushAll, List.foldlM_cons, map_bind]
  rfl

theorem pass_eq_run : pass c parent t skip = Yield.run { around := c.others skip } parent t := by
  change Except.ok (t, jobs parent (c.namedExcept skip)) = Except.ok (t, _)
  rw [map_snd_pending, Cst.map_snd_others, List.map_nil]
  exact congrArg _ (Prod.ext rfl (List.append_nil _).symm)

theorem exists_pass (hkind : c.kind ≠ .catchClause) :
    ∃ y, s.Yields c y ∧ ∀ parent t, pass c parent t = y.run parent t :=
  ⟨_, .pass hkind, fun _ _ => pass_eq_run⟩

theorem pushAll_choose {α : Type} (f : α → Option Declaration) (places : List (Address × α)) :
    t.pushAll ((Address.choose f places).map fun p => (owner, p.2)) =
      ((places.map Prod.snd).filterMap f).foldlM (fun t decl => Prod.fst <$> t.push owner decl) t := by
  rw [← Address.map_snd_choose, List.foldlM_map, Tree.pushAll, List.foldlM_map]

theorem parameters_eq (s : Source) (kind : ParamKind) (owner : NodeId) (list : Cst) (t : Tree) :
    parameters s kind owner list t =
      t.pushAll ((s.parametersIn kind list).map fun p => (owner, p.2)) := by
  have hlist : (list.namedChildren.filterMap (s.parameterIn? kind)) =
      (list.namedChildren.filterMap (parameter? s kind)).map fun (kind, ident, modifiers) =>
        ident.declare kind modifiers := by
    rw [List.map_filterMap]
    rfl
  rw [Source.parametersIn, pushAll_choose, Cst.map_snd_childrenWhere]
  change _ = (list.namedChildren.filterMap _).foldlM _ t
  rw [hlist, List.foldlM_map]
  rfl

theorem bareParameter_eq (s : Source) (owner : NodeId) (t : Tree) (name : Cst) :
    bareParameter s owner t name =
      match s.bareParameter? name with
      | some decl => Prod.fst <$> t.push owner decl
      | none => pure t := by
  unfold bareParameter Source.bareParameter?
  dsimp only
  split <;> rfl

theorem foldlM_bareParameter (s : Source) (owner : NodeId) (t : Tree) (names : List Cst) :
    names.foldlM (bareParameter s owner) t =
      (names.filterMap s.bareParameter?).foldlM (fun t decl => Prod.fst <$> t.push owner decl) t := by
  induction names generalizing t with
  | nil => rfl
  | cons name names ih =>
    -- whether the first name is attached decides which tree the others meet
    rw [List.foldlM_cons, bareParameter_eq, List.filterMap_cons]
    cases s.bareParameter? name with
    | none => exact ih t
    | some decl =>
      rw [List.foldlM_cons]
      exact congrArg _ (funext ih)

theorem lambdaParameters_eq (s : Source) (owner : NodeId) (params : Cst) (t : Tree) :
    lambdaParameters s owner params t =
      t.pushAll ((s.parametersOfLambda params).map fun p => (owner, p.2)) := by
  unfold lambdaParameters
  split
  · next hkind =>
    have hsingle : [params].foldlM (bareParameter s owner) t = bareParameter s owner t params :=
      bind_pure (m := Except TreeError) _
    rw [Source.parametersOfLambda, hkind, ← hsingle, foldlM_bareParameter]
    exact (pushAll_choose s.bareParameter? [([], params)]).symm
  · next hkind =>
    rw [Source.parametersOfLambda, hkind, foldlM_bareParameter]
    dsimp only
    rw [pushAll_choose, Cst.map_snd_childrenWhere, Cst.namedChildren, List.filter_filter]
    simp only [Bool.and_comm]
  · next hkind =>
    rw [Source.parametersOfLambda, hkind]
    exact parameters_eq s .lambda owner params t
  · next h₁ h₂ h₃ =>
    have hnone : s.parametersOfLambda params = [] := by
      unfold Source.parametersOfLambda
      split <;> first | contradiction | rfl
    rw [hnone]
    rfl

theorem typeDeclaration_yields {kind : TypeKind} (hkind : c.kind.typeKind? = some kind) :
    ∃ y, s.Yields c y ∧ ∀ parent t, typeDeclaration s kind c parent t = y.run parent t := by
  unfold typeDeclaration
  cases hname : s.name? c with
  | none =>
    have hcatch : c.kind ≠ .catchClause := by rintro h; rw [h] at hkind; cases hkind
    exact exists_pass hcatch
  | some ident =>
    refine ⟨_, .typeDeclaration hkind hname, fun parent t => ?_⟩
    refine attach_bind_eq_run (fun _ t => .ok t) (fun id => jobs id _) (fun _ _ => rfl) fun id => ?_
    rw [Cst.map_snd_others]
    rfl

theorem callable_yields (hkind : c.kind.callableKind? = some kind) :
    ∃ y, s.Yields c y ∧ ∀ parent t, callable s kind c parent t = y.run parent t := by
  unfold callable
  cases hname : s.name? c with
  | none =>
    have hcatch : c.kind ≠ .catchClause := by rintro h; rw [h] at hkind; cases hkind
    exact exists_pass hcatch
  | some ident =>
    refine ⟨_, .callable hkind hname, fun parent t => ?_⟩
    rw [Cst.parametersBy, Cst.child?_eq]
    cases c.childAt? .parameters with
    | none =>
      refine attach_bind_eq_run (fun _ t => .ok t) (fun id => jobs id _) (fun _ _ => rfl) fun id => ?_
      rw [Cst.map_snd_others]
      rfl
    | some found =>
      obtain ⟨i, list⟩ := found
      refine attach_bind_eq_run (fun id t => parameters s .formal id list t) (fun id => jobs id _)
        (fun id t => ?_) fun id => ?_
      · rw [parameters_eq]
        exact congrArg t.pushAll (Address.map_under (fun decl => (id, decl)) [i] _).symm
      · rw [Cst.map_snd_others]
        rfl

theorem field_yields (hkind : c.kind = .fieldDeclaration ∨ c.kind = .constantDeclaration) :
    ∃ y, s.Yields c y ∧ ∀ parent t, field s c parent t = y.run parent t := by
  unfold field
  cases hname : (c.child? .declarator).bind s.name? with
  | none =>
    have hcatch : c.kind ≠ .catchClause := by rcases hkind with h | h <;> rw [h] <;> nofun
    exact exists_pass hcatch
  | some ident =>
    refine ⟨_, .field hkind hname, fun parent t => ?_⟩
    refine attach_bind_eq_run (fun _ t => .ok t) (fun id => jobs id _) (fun _ _ => rfl) fun id => ?_
    rw [Cst.map_snd_others]
    rfl

theorem anonymousClass_eq_run {i : Nat} {body : Cst} :
    anonymousClass ident c body parent t =
      Yield.run {
        own? := some (ident.declare .anonymousClass)
        around := c.others [.classBody]
        inside := Address.under [i] (body.others []) } parent t := by
  refine attach_bind_eq_run (fun _ t => .ok t) (fun id => _ ++ jobs id _) (fun _ _ => rfl) fun id => ?_
  rw [Cst.map_snd_others, Address.map_snd_under, Cst.map_snd_others]

theorem anonymousClass_yields {i : Nat} {body : Cst} (hbody : c.bodyAt? = some (i, body))
    (hident : ident.text ≠ "") :
    ∃ y, s.Yields c y ∧ ∀ parent t, anonymousClass ident c body parent t = y.run parent t :=
  ⟨_, .anonymousClass hbody hident, fun _ _ => anonymousClass_eq_run⟩

theorem objectCreation_yields (hkind : c.kind = .objectCreation) :
    ∃ y, s.Yields c y ∧ ∀ parent t, objectCreation s c parent t = y.run parent t := by
  unfold objectCreation
  rw [Cst.find?_namedChildren c rfl]
  cases hbody : c.childWhere? (·.kind == .classBody) with
  | none => exact exists_pass (by rw [hkind]; nofun)
  | some found =>
    have hat : c.bodyAt? = some found := by rw [Cst.bodyAt?, hkind, hbody]
    exact anonymousClass_yields hat (Source.text_identOf_ne (by decide))

theorem enumConstant_yields (hkind : c.kind = .enumConstant) :
    ∃ y, s.Yields c y ∧ ∀ parent t, enumConstant s c parent t = y.run parent t := by
  unfold enumConstant
  rw [Cst.child?_eq]
  cases hbody : c.childAt? .body with
  | none => exact exists_pass (by rw [hkind]; nofun)
  | some found =>
    have hat : c.bodyAt? = some found := by rw [Cst.bodyAt?, hkind, hbody]
    cases hname : s.name? c with
    | none => exact exists_pass (by rw [hkind]; nofun)
    | some ident => exact anonymousClass_yields hat ((Source.name?_eq_some hname).1)

theorem catchClause_yields (hkind : c.kind = .catchClause) :
    ∃ y, s.Yields c y ∧ ∀ parent t, catchClause s c parent t = y.run parent t := by
  refine ⟨_, .catchClause hkind, fun parent t => ?_⟩
  unfold catchClause Source.caughtParameter?
  rw [Cst.find?_namedChildren c rfl]
  cases c.childWhere? (·.kind == .catchParameter) with
  | none => exact pass_eq_run
  | some found =>
    obtain ⟨i, param⟩ := found
    dsimp only [Option.map_some, Option.bind_some]
    cases s.name? param with
    | none => exact pass_eq_run
    | some ident =>
      rw [Yield.run, map_snd_pending, Cst.map_snd_others, Yield.entries]
      simp only [Option.map_none, Option.toList_none, List.map_nil, List.nil_append, jobs,
        List.append_nil]
      change (Prod.fst <$> t.push parent _) >>= _ = _ <$> t.pushAll [(parent, _)]
      rw [Tree.pushAll_singleton]
      exact bind_pure_comp ..

theorem lambda_yields (hkind : c.kind = .lambda) :
    ∃ y, s.Yields c y ∧ ∀ parent t, lambda s c parent t = y.run parent t := by
  refine ⟨_, .lambda hkind, fun parent t => ?_⟩
  -- the body is taken up itself, unlike that of a class
  have hbody : ((c.childAt? .body).map fun p => ([p.1], p.2)).toList.map Prod.snd =
      (c.child? .body).toList := by
    rw [Cst.child?_eq]
    cases c.childAt? .body <;> rfl
  unfold lambda
  rw [Cst.parametersBy, Cst.child?_eq c .parameters]
  cases c.childAt? .parameters with
  | none =>
    refine attach_bind_eq_run (fun _ t => .ok t) (fun id => jobs id _) (fun _ _ => rfl) fun id => ?_
    rw [hbody]
    rfl
  | some found =>
    obtain ⟨i, params⟩ := found
    refine attach_bind_eq_run (fun id t => lambdaParameters s id params t) (fun id => jobs id _)
      (fun id t => ?_) fun id => ?_
    · rw [lambdaParameters_eq]
      exact congrArg t.pushAll (Address.map_under (fun decl => (id, decl)) [i] _).symm
    · rw [hbody]
      rfl

/-- Every step runs the yield of its node. -/
theorem exists_yields (s : Source) (c : Cst) :
    ∃ y, s.Yields c y ∧ ∀ parent t, step s c parent t = y.run parent t := by
  unfold step
  split
  · next hkind => exact typeDeclaration_yields (by rw [hkind]; rfl)
  · next hkind => exact typeDeclaration_yields (by rw [hkind]; rfl)
  · next hkind => exact typeDeclaration_yields (by rw [hkind]; rfl)
  · next hkind => exact typeDeclaration_yields (by rw [hkind]; rfl)
  · next hkind => exact typeDeclaration_yields (by rw [hkind]; rfl)
  · next hkind => exact callable_yields (by rw [hkind]; rfl)
  · next hkind => exact callable_yields (by rw [hkind]; rfl)
  · next hkind => exact callable_yields (by rw [hkind]; rfl)
  · next hkind => exact field_yields (.inl hkind)
  · next hkind => exact field_yields (.inr hkind)
  · next hkind => exact objectCreation_yields hkind
  · next hkind => exact enumConstant_yields hkind
  · next hkind => exact catchClause_yields hkind
  · next hkind => exact lambda_yields hkind
  · exact exists_pass ‹_›

end Extraction

/-! ## What yields have in common -/

namespace Source

variable {s : Source} {c d param list : Cst} {y : Yield} {a : Address} {decl : Declaration}
  {pkind : ParamKind} {kind : NodeKind}

theorem mem_parametersIn : (a, decl) ∈ s.parametersIn pkind list ↔
    ∃ i param, a = [i] ∧ list.children[i]? = some param ∧ param.kind.isNamed = true ∧
      s.parameterIn? pkind param = some decl := by
  rw [parametersIn, Address.mem_choose]
  simp only [Cst.mem_childrenWhere]
  constructor
  · rintro ⟨param, ⟨i, rfl, hchild, hnamed⟩, hdecl⟩
    exact ⟨i, param, rfl, hchild, hnamed, hdecl⟩
  · rintro ⟨i, param, rfl, hchild, hnamed, hdecl⟩
    exact ⟨param, ⟨i, rfl, hchild, hnamed⟩, hdecl⟩

theorem exists_of_mem_parametersBy {f : Cst → List (Address × Declaration)}
    (h : (a, decl) ∈ c.parametersBy f) :
    ∃ i list b, c.childAt? .parameters = some (i, list) ∧ a = i :: b ∧ (b, decl) ∈ f list := by
  unfold Cst.parametersBy at h
  split at h
  · next i list hlist =>
    obtain ⟨b, rfl, hmem⟩ := Address.mem_under.1 h
    exact ⟨i, list, b, hlist, rfl, hmem⟩
  · cases h

/-- A parameter in a list is a receiver without modifiers, or it has the kind of its
    list, its own modifiers, and a name that it writes. -/
theorem parameterIn?_eq_some (h : s.parameterIn? pkind param = some decl) :
    decl.ident ≠ "" ∧
      (decl.kind = .parameter .receiver ∧ decl.modifiers = {} ∨
        decl.kind = .parameter pkind ∧ decl.modifiers = s.modifiers param ∧
          ∃ name, param.NamesParameter name ∧ s.Writes name decl) := by
  obtain ⟨⟨kind, ident, modifiers⟩, hparam, rfl⟩ := Option.map_eq_some_iff.1 h
  unfold Extraction.parameter? at hparam
  split at hparam
  · next hkind =>
    obtain ⟨ident, hname, heq⟩ := Option.map_eq_some_iff.1 hparam
    obtain ⟨rfl, rfl, rfl⟩ := heq
    obtain ⟨hne, name, hchild, rfl⟩ := name?_eq_some hname
    exact ⟨hne, .inr ⟨rfl, rfl, name, .formal hkind hchild, s.writes_declare _ _ _⟩⟩
  · next hkind =>
    obtain ⟨ident, hname, heq⟩ := Option.map_eq_some_iff.1 hparam
    obtain ⟨rfl, rfl, rfl⟩ := heq
    obtain ⟨declarator, hfind, hname⟩ := Option.bind_eq_some_iff.1 hname
    obtain ⟨hne, name, hchild, rfl⟩ := name?_eq_some hname
    have hmem := List.mem_of_find?_eq_some hfind
    exact ⟨hne, .inr ⟨rfl, rfl, name, .spread hkind hmem hchild, s.writes_declare _ _ _⟩⟩
  · obtain ⟨rfl, rfl, rfl⟩ := Option.some.inj hparam
    exact ⟨text_identOf_ne (by decide), .inl ⟨rfl, rfl⟩⟩
  · cases hparam

theorem bareParameter?_eq_some (h : s.bareParameter? c = some decl) :
    decl.ident ≠ "" ∧ decl.kind = .parameter .lambda ∧ decl.modifiers = {} := by
  unfold bareParameter? at h
  dsimp only at h
  split at h
  · cases h
  · next hne =>
    obtain rfl := Option.some.inj h
    exact ⟨fun hempty => hne (String.isEmpty_iff.2 hempty), rfl, rfl⟩

/-- A parameter of a lambda is one in a list, or one without a type and modifiers. -/
theorem exists_of_mem_parametersOfLambda (h : (a, decl) ∈ s.parametersOfLambda c) :
    (∃ name, s.bareParameter? name = some decl) ∨
      ∃ param, s.parameterIn? .lambda param = some decl := by
  unfold parametersOfLambda at h
  split at h
  · obtain ⟨name, -, hname⟩ := Address.mem_choose.1 h
    exact .inl ⟨name, hname⟩
  · obtain ⟨name, -, hname⟩ := Address.mem_choose.1 h
    exact .inl ⟨name, hname⟩
  · obtain ⟨i, param, -, -, -, hparam⟩ := mem_parametersIn.1 h
    exact .inr ⟨param, hparam⟩
  · simp at h

theorem caughtParameter?_eq_some (h : s.caughtParameter? c = some (a, decl)) :
    ∃ i param ident, a = [i] ∧ c.childWhere? (·.kind == .catchParameter) = some (i, param) ∧
      s.name? param = some ident ∧
      decl = ident.declare (.parameter .caught) (s.modifiers param) := by
  obtain ⟨⟨i, param⟩, hchild, h⟩ := Option.bind_eq_some_iff.1 h
  obtain ⟨ident, hname, heq⟩ := Option.map_eq_some_iff.1 h
  obtain ⟨rfl, rfl⟩ := heq
  exact ⟨i, param, ident, rfl, hchild, hname, rfl⟩

theorem callableKind?_eq_some {k : CstKind} (h : k.callableKind? = some kind) :
    kind = .method ∨ kind = .constructor := by
  unfold CstKind.callableKind? at h
  split at h
  · exact .inl (Option.some.inj h).symm
  · exact .inr (Option.some.inj h).symm
  · exact .inr (Option.some.inj h).symm
  · cases h

namespace Yields

theorem own_kind (h : s.Yields c y) (hown : y.own? = some decl) :
    decl.kind ≠ .compilationUnit ∧ ∀ k, decl.kind ≠ .parameter k := by
  cases h with
  | pass => cases hown
  | callable hkind _ =>
    obtain rfl := Option.some.inj hown
    rcases callableKind?_eq_some hkind with rfl | rfl <;> exact ⟨nofun, nofun⟩
  | catchClause => cases hown
  | typeDeclaration | field | anonymousClass | lambda =>
    obtain rfl := Option.some.inj hown
    exact ⟨nofun, nofun⟩

/-- A method or constructor comes with the parameters of its list. -/
theorem callable_of_own (h : s.Yields c y) (hown : y.own? = some decl)
    (hkind : decl.kind = .method ∨ decl.kind = .constructor) :
    ∃ kind ident, c.kind.callableKind? = some kind ∧ s.name? c = some ident ∧
      decl = ident.declare kind (s.modifiers c) ∧
      y.params = c.parametersBy (s.parametersIn .formal) := by
  cases h with
  | pass | catchClause => cases hown
  | callable hcallable hname =>
    exact ⟨_, _, hcallable, hname, (Option.some.inj hown).symm, rfl⟩
  | typeDeclaration | field | anonymousClass | lambda =>
    rw [← Option.some.inj hown] at hkind
    simp [Ident.declare] at hkind

theorem own_ident (h : s.Yields c y) (hown : y.own? = some decl) : decl.ident ≠ "" := by
  cases h with
  | pass => cases hown
  | catchClause => cases hown
  | typeDeclaration _ hname =>
    obtain rfl := Option.some.inj hown
    exact (name?_eq_some hname).1
  | callable _ hname =>
    obtain rfl := Option.some.inj hown
    exact (name?_eq_some hname).1
  | field _ hname =>
    obtain rfl := Option.some.inj hown
    obtain ⟨declarator, -, hname⟩ := Option.bind_eq_some_iff.1 hname
    exact (name?_eq_some hname).1
  | anonymousClass _ hident =>
    obtain rfl := Option.some.inj hown
    exact hident
  | lambda =>
    obtain rfl := Option.some.inj hown
    have hname : Extraction.lambdaName ≠ "" := by decide
    exact hname

/-- Parameters have names, and a kind that fits the declaration that they belong to. -/
theorem param_kind (h : s.Yields c y) (hmem : (a, decl) ∈ y.params) :
    decl.ident ≠ "" ∧ ∃ k, decl.kind = .parameter k ∧ k.Fits (y.own?.map (·.kind)) := by
  cases h with
  | pass => cases hmem
  | typeDeclaration => cases hmem
  | field => cases hmem
  | anonymousClass => cases hmem
  | callable hkind _ =>
    obtain ⟨i, list, b, -, -, hmem⟩ := exists_of_mem_parametersBy hmem
    obtain ⟨i, param, -, -, -, hparam⟩ := mem_parametersIn.1 hmem
    obtain ⟨hident, hparam⟩ := parameterIn?_eq_some hparam
    refine ⟨hident, ?_⟩
    rcases callableKind?_eq_some hkind with rfl | rfl
    · exact hparam.elim (fun h => ⟨_, h.1, .inl rfl⟩) fun h => ⟨_, h.1, .inl rfl⟩
    · exact hparam.elim (fun h => ⟨_, h.1, .inr (.inl rfl)⟩) fun h => ⟨_, h.1, .inr rfl⟩
  | catchClause =>
    obtain ⟨i, param, ident, -, -, hname, rfl⟩ :=
      caughtParameter?_eq_some (Option.mem_toList.1 hmem)
    exact ⟨(name?_eq_some hname).1, _, rfl, rfl⟩
  | lambda =>
    obtain ⟨i, params, b, -, -, hmem⟩ := exists_of_mem_parametersBy hmem
    rcases exists_of_mem_parametersOfLambda hmem with ⟨name, hname⟩ | ⟨param, hparam⟩
    · obtain ⟨hident, hkind, -⟩ := bareParameter?_eq_some hname
      exact ⟨hident, _, hkind, rfl⟩
    · obtain ⟨hident, hparam⟩ := parameterIn?_eq_some hparam
      exact ⟨hident, hparam.elim (fun h => ⟨_, h.1, .inr (.inr rfl)⟩) fun h => ⟨_, h.1, rfl⟩⟩

theorem modifiers_eq (h : s.Yields c y) {p parent first : NodeId}
    (hmem : (p, decl) ∈ y.entries parent first) :
    decl.modifiers = {} ∨ ∃ d, decl.modifiers = s.modifiers d := by
  have hparamIn : ∀ {k param}, s.parameterIn? k param = some decl →
      decl.modifiers = {} ∨ ∃ d, decl.modifiers = s.modifiers d := fun hparam =>
    (parameterIn?_eq_some hparam).2.imp (fun h => h.2) fun h => ⟨_, h.2.1⟩
  rcases Yield.mem_entries.1 hmem with ⟨hown, -⟩ | ⟨⟨a, hparam⟩, -⟩
  · cases h with
    | pass | catchClause => cases hown
    | typeDeclaration | callable | field =>
      rw [← Option.some.inj hown]
      exact .inr ⟨c, rfl⟩
    | anonymousClass | lambda =>
      rw [← Option.some.inj hown]
      exact .inl rfl
  · cases h with
    | pass | typeDeclaration | field | anonymousClass => cases hparam
    | callable =>
      obtain ⟨i, list, b, -, -, hlisted⟩ := exists_of_mem_parametersBy hparam
      obtain ⟨j, param, -, -, -, hparam⟩ := mem_parametersIn.1 hlisted
      exact hparamIn hparam
    | catchClause =>
      obtain ⟨i, param, ident, -, -, -, rfl⟩ :=
        caughtParameter?_eq_some (Option.mem_toList.1 hparam)
      exact .inr ⟨param, rfl⟩
    | lambda =>
      obtain ⟨i, params, b, -, -, hlisted⟩ := exists_of_mem_parametersBy hparam
      rcases exists_of_mem_parametersOfLambda hlisted with ⟨name, hname⟩ | ⟨param, hparam⟩
      · exact .inl (bareParameter?_eq_some hname).2.2
      · exact hparamIn hparam

/-- The nodes to go on with stand below the node, at their addresses. -/
theorem at?_of_mem (h : s.Yields c y) (hmem : (a, d) ∈ y.around ∨ (a, d) ∈ y.inside) :
    a ≠ [] ∧ c.at? a = some d := by
  have hothers : ∀ {c : Cst} {skip : List CstKind} {a : Address} {d : Cst},
      (a, d) ∈ c.others skip → a ≠ [] ∧ c.at? a = some d := by
    intro c skip a d hmem
    obtain ⟨i, rfl, hchild, -⟩ := Cst.mem_others.1 hmem
    exact ⟨List.cons_ne_nil _ _, Cst.at?_singleton.trans hchild⟩
  cases h with
  | pass => exact hothers (hmem.resolve_right List.not_mem_nil)
  | typeDeclaration => exact hothers (hmem.resolve_left List.not_mem_nil)
  | callable => exact hothers (hmem.resolve_left List.not_mem_nil)
  | field => exact hothers (hmem.resolve_left List.not_mem_nil)
  | catchClause => exact hothers (hmem.resolve_right List.not_mem_nil)
  | @anonymousClass _ i body hbody _ =>
    rcases hmem with hmem | hmem
    · exact hothers hmem
    · obtain ⟨b, rfl, hbelow⟩ := Address.mem_under.1 hmem
      refine ⟨List.cons_ne_nil _ _, ?_⟩
      rw [Cst.at?_append, Cst.at?_singleton, Cst.getElem?_of_bodyAt? hbody]
      exact (hothers hbelow).2
  | lambda =>
    obtain ⟨⟨i, body⟩, hbody, heq⟩ :=
      Option.map_eq_some_iff.1 (Option.mem_toList.1 (hmem.resolve_left List.not_mem_nil))
    obtain ⟨rfl, rfl⟩ := Prod.mk.inj heq
    exact ⟨List.cons_ne_nil _ _, Cst.at?_singleton.trans (Cst.childWhere?_eq_some hbody).1⟩

theorem at?_of_mem_pending (h : s.Yields c y) {parent first : NodeId} {job : Extraction.Job}
    (hmem : (a, job) ∈ y.pending parent first) : a ≠ [] ∧ c.at? a = some job.cst := by
  rcases Yield.mem_pending.1 hmem with ⟨hd, -⟩ | ⟨hd, -⟩
  · exact h.at?_of_mem (.inl hd)
  · exact h.at?_of_mem (.inr hd)

theorem inside_eq_nil (h : s.Yields c y) (hown : y.own? = none) : y.inside = [] := by
  cases h with
  | pass | catchClause => rfl
  | typeDeclaration | callable | field | anonymousClass | lambda => cases hown

end Yields

end Source

end Java

end JavaLint
