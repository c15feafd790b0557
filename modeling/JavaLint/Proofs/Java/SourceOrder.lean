import JavaLint.Proofs.Java.Extraction
import JavaLint.Proofs.Java.Nesting
import JavaLint.Proofs.Java.Outermost
import JavaLint.Proofs.Java.Ranges
/-!
# Children in the order of the text

Extraction attaches the declaration of a node before it goes on below the node. What
belongs to one declaration is thus found in the order of the text, unless something in
front of a name, or of a list of parameters, has declarations of its own: the qualifier
of an object that is created, the annotations of a constant, the type parameters of a
method.

## Main definitions

- `Tree.InSourceOrder` — the children of every node follow one another in the text
- `Java.Source.Foremost` — nothing that a step attaches stands behind what is found later

## Main statements

- `Java.Source.places_of_mem_outermost` — what a node has stands in its range
- `Java.children_inSourceOrder_iff` — when the children of all nodes are in order
-/

namespace JavaLint

/-- Declarations stand one after the other in the text. -/
def Declaration.InSourceOrder (decls : List Declaration) : Prop :=
  decls.Pairwise fun d e => d.offset ≤ e.offset

instance (decls : List Declaration) : Decidable (Declaration.InSourceOrder decls) :=
  inferInstanceAs (Decidable (decls.Pairwise _))

namespace Tree

variable {t : Tree}

/-- The children of every node stand one after the other in the text. -/
def InSourceOrder (t : Tree) : Prop :=
  ∀ id, Declaration.InSourceOrder (t.childDeclarations id)

/-- Indices beyond the nodes have no children. -/
theorem inSourceOrder_iff_of_size :
    t.InSourceOrder ↔ ∀ id < t.size, Declaration.InSourceOrder (t.childDeclarations id) := by
  refine ⟨fun h id _ => h id, fun h id => ?_⟩
  rcases Nat.lt_or_ge id t.size with hid | hid
  · exact h id hid
  · rw [childDeclarations_eq_nil hid]
    exact List.Pairwise.nil

instance (t : Tree) : Decidable t.InSourceOrder :=
  decidable_of_iff _ inSourceOrder_iff_of_size.symm

end Tree

namespace Java

open Extraction (Job step)

/-! ## Where declarations stand -/

namespace Cst

variable {c d : Cst} {decl : Declaration}

/-- A declaration stands where the node or one below it starts. -/
def Places (c : Cst) (decl : Declaration) : Prop :=
  ∃ d : Cst, d.Within c ∧ decl.offset = d.start

theorem Places.mono (h : d.Places decl) (hd : d.Within c) : c.Places decl :=
  let ⟨e, he, hoffset⟩ := h
  ⟨e, he.trans hd, hoffset⟩

theorem Places.bounds (h : c.Places decl) (hc : c.Ordered) :
    c.start ≤ decl.offset ∧ decl.offset ≤ c.stop := by
  obtain ⟨d, hd, hoffset⟩ := h
  obtain ⟨hstart, hstop⟩ := hc.bounds hd
  rw [hoffset]
  exact ⟨hstart, Nat.le_trans (hc.of_within hd).node.start_le_stop hstop⟩

theorem OrderedNode.apart_others (h : c.OrderedNode) (skip : List CstKind) :
    ((c.others skip).map Prod.snd).Pairwise fun d e => d.stop ≤ e.start := by
  rw [map_snd_others]
  exact h.apart.sublist (List.filter_sublist.trans List.filter_sublist)

end Cst

namespace Source

variable {s : Source} {c d list param : Cst} {y y' : Yield} {ident : Ident} {kind : NodeKind}
  {pkind : ParamKind} {modifiers : Modifiers} {a : Address} {decl : Declaration}

theorem places_name? (h : s.name? c = some ident) : c.Places (ident.declare kind modifiers) := by
  obtain ⟨-, name, hname, rfl⟩ := name?_eq_some h
  exact ⟨name, Cst.within_of_child? hname, rfl⟩

theorem places_parameterIn? (h : s.parameterIn? pkind param = some decl) : param.Places decl := by
  obtain ⟨⟨kind, ident, modifiers⟩, hparam, rfl⟩ := Option.map_eq_some_iff.1 h
  unfold Extraction.parameter? at hparam
  split at hparam
  · obtain ⟨ident, hname, heq⟩ := Option.map_eq_some_iff.1 hparam
    obtain ⟨rfl, rfl, rfl⟩ := heq
    exact places_name? hname
  · obtain ⟨ident, hname, heq⟩ := Option.map_eq_some_iff.1 hparam
    obtain ⟨rfl, rfl, rfl⟩ := heq
    obtain ⟨declarator, hfind, hname⟩ := Option.bind_eq_some_iff.1 hname
    exact (places_name? hname).mono
      (Cst.within_of_mem_namedChildren (List.mem_of_find?_eq_some hfind))
  · obtain ⟨rfl, rfl, rfl⟩ := Option.some.inj hparam
    -- a receiver stands at its keyword
    refine ⟨(param.childOfKind? .thisWord).getD param, ?_, rfl⟩
    cases hword : param.childOfKind? .thisWord with
    | none => exact .refl param
    | some word => exact Cst.within_of_mem (List.mem_of_find?_eq_some hword)
  · cases hparam

theorem places_bareParameter? (h : s.bareParameter? c = some decl) : c.Places decl := by
  unfold bareParameter? at h
  dsimp only at h
  split at h
  · cases h
  · obtain rfl := Option.some.inj h
    exact ⟨c, .refl c, rfl⟩

/-- The parameters of nodes that follow one another do so too. -/
theorem inSourceOrder_choose {f : Cst → Option Declaration} {places : List (Address × Cst)}
    (hapart : (places.map Prod.snd).Pairwise fun d e => d.stop ≤ e.start)
    (hordered : ∀ p ∈ places, p.2.Ordered)
    (hf : ∀ {d decl}, f d = some decl → d.Places decl) :
    Declaration.InSourceOrder ((Address.choose f places).map Prod.snd) := by
  rw [Address.map_snd_choose]
  refine List.pairwise_filterMap.2 (hapart.imp_of_mem ?_)
  intro d e hd he hle decl hdecl decl' hdecl'
  obtain ⟨p, hp, rfl⟩ := List.mem_map.1 hd
  obtain ⟨q, hq, rfl⟩ := List.mem_map.1 he
  have hstop := ((hf hdecl).bounds (hordered p hp)).2
  have hstart := ((hf hdecl').bounds (hordered q hq)).1
  omega

theorem inSourceOrder_parametersIn (h : list.Ordered) :
    Declaration.InSourceOrder ((s.parametersIn pkind list).map Prod.snd) := by
  refine inSourceOrder_choose ?_ ?_ places_parameterIn?
  · rw [Cst.map_snd_childrenWhere]
    exact h.node.apart.sublist List.filter_sublist
  · rintro ⟨a, d⟩ hd
    obtain ⟨i, -, hchild, -⟩ := Cst.mem_childrenWhere.1 hd
    exact h.of_mem (List.mem_of_getElem? hchild)

theorem inSourceOrder_parametersOfLambda (h : list.Ordered) :
    Declaration.InSourceOrder ((s.parametersOfLambda list).map Prod.snd) := by
  unfold parametersOfLambda
  split
  · exact inSourceOrder_choose (List.pairwise_singleton _ _)
      (fun p hp => List.mem_singleton.1 hp ▸ h) places_bareParameter?
  · refine inSourceOrder_choose ?_ ?_ places_bareParameter?
    · rw [Cst.map_snd_childrenWhere]
      exact h.node.apart.sublist List.filter_sublist
    · rintro ⟨a, d⟩ hd
      obtain ⟨i, -, hchild, -⟩ := Cst.mem_childrenWhere.1 hd
      exact h.of_mem (List.mem_of_getElem? hchild)
  · exact inSourceOrder_parametersIn h
  · exact List.Pairwise.nil

theorem inSourceOrder_parametersBy {f : Cst → List (Address × Declaration)} (h : c.Ordered)
    (hf : ∀ list : Cst, list.Ordered → Declaration.InSourceOrder ((f list).map Prod.snd)) :
    Declaration.InSourceOrder ((c.parametersBy f).map Prod.snd) := by
  unfold Cst.parametersBy
  split
  · next i list hlist =>
    rw [Address.map_snd_under]
    exact hf list (h.of_mem (List.mem_of_getElem? (Cst.childWhere?_eq_some hlist).1))
  · exact List.Pairwise.nil

/-- Parameters stand one after the other. -/
theorem Yields.inSourceOrder_params (h : s.Yields c y) (hc : c.Ordered) :
    Declaration.InSourceOrder (y.params.map Prod.snd) := by
  cases h with
  | pass | typeDeclaration | field | anonymousClass => exact List.Pairwise.nil
  | callable => exact inSourceOrder_parametersBy hc fun _ => inSourceOrder_parametersIn
  | lambda => exact inSourceOrder_parametersBy hc fun _ => inSourceOrder_parametersOfLambda
  | catchClause =>
    change Declaration.InSourceOrder ((s.caughtParameter? c).toList.map Prod.snd)
    cases s.caughtParameter? c with
    | none => exact List.Pairwise.nil
    | some param => exact List.pairwise_singleton _ _

theorem Yields.places_param (h : s.Yields c y) (hmem : (a, decl) ∈ y.params) : c.Places decl := by
  cases h with
  | pass | typeDeclaration | field | anonymousClass => cases hmem
  | callable =>
    obtain ⟨i, list, b, hlist, -, hlisted⟩ := exists_of_mem_parametersBy hmem
    obtain ⟨j, param, -, hchild, -, hparam⟩ := mem_parametersIn.1 hlisted
    exact ((places_parameterIn? hparam).mono (Cst.within_of_mem (List.mem_of_getElem? hchild))).mono
      (Cst.within_of_mem (List.mem_of_getElem? (Cst.childWhere?_eq_some hlist).1))
  | catchClause =>
    obtain ⟨i, param, ident, -, hchild, hname, rfl⟩ :=
      caughtParameter?_eq_some (Option.mem_toList.1 hmem)
    exact (places_name? hname).mono
      (Cst.within_of_mem (List.mem_of_getElem? (Cst.childWhere?_eq_some hchild).1))
  | lambda =>
    obtain ⟨i, list, b, hlist, -, hlisted⟩ := exists_of_mem_parametersBy hmem
    refine Cst.Places.mono ?_
      (Cst.within_of_mem (List.mem_of_getElem? (Cst.childWhere?_eq_some hlist).1))
    unfold parametersOfLambda at hlisted
    split at hlisted
    · obtain ⟨name, hname, hparam⟩ := Address.mem_choose.1 hlisted
      obtain ⟨-, rfl⟩ := Prod.mk.inj (List.mem_singleton.1 hname)
      exact places_bareParameter? hparam
    · obtain ⟨name, hname, hparam⟩ := Address.mem_choose.1 hlisted
      obtain ⟨j, -, hchild, -⟩ := Cst.mem_childrenWhere.1 hname
      exact (places_bareParameter? hparam).mono (Cst.within_of_mem (List.mem_of_getElem? hchild))
    · obtain ⟨j, param, -, hchild, -, hparam⟩ := mem_parametersIn.1 hlisted
      exact (places_parameterIn? hparam).mono (Cst.within_of_mem (List.mem_of_getElem? hchild))
    · simp at hlisted

/-- A node with the body of a class declares an anonymous class where the node or one below
    it starts, or nothing. -/
theorem step_of_bodyAt? {i : Nat} {body : Cst} (hbody : c.bodyAt? = some (i, body)) :
    (∃ ident : Ident, (c.Places (ident.declare .anonymousClass)) ∧
      ∀ parent t, step s c parent t = Extraction.anonymousClass ident c body parent t) ∨
    ∀ parent t, step s c parent t = Extraction.pass c parent t := by
  unfold Cst.bodyAt? at hbody
  split at hbody
  · next hkind =>
    refine .inl ⟨s.identOf ((c.child? .type).getD c) Extraction.anonymousName, ?_, fun parent t => ?_⟩
    · refine ⟨(c.child? .type).getD c, ?_, rfl⟩
      cases htype : c.child? .type with
      | none => exact .refl c
      | some type => exact Cst.within_of_child? htype
    · have hfind : c.namedChildren.find? (·.kind == .classBody) =
          (c.childWhere? (·.kind == .classBody)).map Prod.snd := Cst.find?_namedChildren c rfl
      simp only [step, hkind, Extraction.objectCreation, hfind, hbody, Option.map_some]
  · next hkind =>
    cases hname : s.name? c with
    | none =>
      refine .inr fun parent t => ?_
      simp only [step, hkind, Extraction.enumConstant, hname]
      cases c.child? .body <;> rfl
    | some ident =>
      refine .inl ⟨ident, places_name? hname, fun parent t => ?_⟩
      simp only [step, hkind, Extraction.enumConstant, Cst.child?_eq, hbody, hname, Option.map_some]
  · cases hbody

theorem childDeclarations_root (h : Tree.Attachable (Tree.ofUnit "").size (y.entries Tree.root 1)) :
    ((Tree.ofUnit "").attachedAll (y.entries Tree.root 1)).childDeclarations Tree.root =
      y.surface := by
  have hchildren : (Tree.ofUnit "").childDeclarations Tree.root = [] := rfl
  have hne : Tree.root ≠ (1 : NodeId) := Nat.zero_ne_one
  rw [Tree.childDeclarations_attachedAll (Tree.wellFormed_ofUnit "") h, hchildren,
    Yield.map_snd_filter_entries hne, if_pos rfl, List.nil_append]

/-- Yields that an empty unit grows by alike have the same declarations for it. -/
theorem HasYield.surface_eq (hy : s.HasYield c y)
    (hrun : step s c Tree.root (Tree.ofUnit "") = y'.run Tree.root (Tree.ofUnit "")) :
    y.surface = y'.surface := by
  have hone : Tree.root < (Tree.ofUnit "").size := Nat.one_pos
  rw [hy.step_eq_ok hone] at hrun
  obtain ⟨t, hpush, heq⟩ := Except.map_eq_ok_iff.1 hrun.symm
  obtain ⟨hattachable, rfl⟩ := Tree.pushAll_eq_ok_iff.1 hpush
  rw [← childDeclarations_root (hy.yields.attachable hone), ← childDeclarations_root hattachable]
  exact congrArg (Tree.childDeclarations · Tree.root) (Prod.mk.inj heq).1.symm

theorem HasYield.places_own (hy : s.HasYield c y) (hown : y.own? = some decl) : c.Places decl := by
  have hsurface : y.surface = [decl] := by rw [Yield.surface, hown]
  cases hy.yields with
  | pass | catchClause => cases hown
  | typeDeclaration _ hname | callable _ hname =>
    obtain rfl := Option.some.inj hown
    exact places_name? hname
  | field _ hname =>
    obtain rfl := Option.some.inj hown
    obtain ⟨declarator, hchild, hname⟩ := Option.bind_eq_some_iff.1 hname
    exact (places_name? hname).mono (Cst.within_of_child? hchild)
  | lambda =>
    obtain rfl := Option.some.inj hown
    exact ⟨c, .refl c, rfl⟩
  | @anonymousClass _ i body hbody _ =>
    -- the rule leaves open which name the class has, so that is read off the step
    rcases step_of_bodyAt? (s := s) hbody with ⟨ident, hplaces, hstep⟩ | hstep
    · have hsame := hy.surface_eq ((hstep _ _).trans (Extraction.anonymousClass_eq_run (i := i)))
      obtain ⟨rfl, -⟩ := List.cons.inj (hsurface.symm.trans hsame)
      exact hplaces
    · have hsame := hy.surface_eq ((hstep _ _).trans Extraction.pass_eq_run)
      cases hsurface.symm.trans hsame

theorem HasYield.places_surface (hy : s.HasYield c y) (hmem : decl ∈ y.surface) :
    c.Places decl := by
  cases hown : y.own? with
  | none =>
    rw [Yield.surface, hown] at hmem
    obtain ⟨⟨a, decl⟩, hparam, rfl⟩ := List.mem_map.1 hmem
    exact hy.yields.places_param hparam
  | some own =>
    rw [Yield.surface, hown] at hmem
    rw [List.mem_singleton.1 hmem]
    exact hy.places_own hown

/-- What a node has stands at the node or below. -/
theorem places_of_mem_outermost (h : decl ∈ s.outermost c) : c.Places decl := by
  induction hweight : c.weight using Nat.strongRecOn generalizing c with
  | ind n ih =>
    subst hweight
    obtain ⟨y, hy⟩ := s.exists_hasYield c
    rw [hy.outermost_eq, List.mem_append, List.mem_flatMap] at h
    rcases h with hsurface | ⟨⟨a, d⟩, hd, h⟩
    · exact hy.places_surface hsurface
    · have hle : d.weight ≤ _ := Cst.weight_le_of_mem (List.mem_map_of_mem (f := Prod.snd) hd)
      have hbelow := hy.yields.weights_le.1
      have hweight := c.weight_eq
      exact (ih d.weight (by omega) h rfl).mono
        (Cst.within_of_at? (hy.yields.at?_of_mem (.inl hd)).2)

/-! ## The order of children -/

theorem Yields.apart_around (h : s.Yields c y) (hc : c.Ordered) :
    (y.around.map Prod.snd).Pairwise fun d e => d.stop ≤ e.start := by
  cases h with
  | pass | catchClause | anonymousClass => exact hc.node.apart_others _
  | typeDeclaration | callable | field | lambda => exact List.Pairwise.nil

theorem Yields.apart_inside (h : s.Yields c y) (hc : c.Ordered) :
    (y.inside.map Prod.snd).Pairwise fun d e => d.stop ≤ e.start := by
  cases h with
  | pass | catchClause => exact List.Pairwise.nil
  | typeDeclaration | callable | field => exact hc.node.apart_others _
  | anonymousClass hbody _ =>
    have hbody := hc.of_mem (List.mem_of_getElem? (Cst.getElem?_of_bodyAt? hbody))
    change ((Address.under _ _).map Prod.snd).Pairwise _
    rw [Address.map_snd_under]
    exact hbody.node.apart_others _
  | lambda =>
    change (((c.childAt? .body).map _).toList.map Prod.snd).Pairwise _
    cases c.childAt? .body with
    | none => exact List.Pairwise.nil
    | some found => exact List.pairwise_singleton _ _

theorem Yields.ordered_of_mem (h : s.Yields c y) (hc : c.Ordered)
    (hmem : (a, d) ∈ y.around ∨ (a, d) ∈ y.inside) : d.Ordered :=
  hc.of_within (Cst.within_of_at? (h.at?_of_mem hmem).2)

/-- Declarations stand in front of all that some nodes have. -/
def StandBefore (s : Source) (decls : List Declaration) (places : List (Address × Cst)) : Prop :=
  ∀ decl ∈ decls, ∀ p ∈ places, ∀ later ∈ s.outermost p.2, decl.offset ≤ later.offset

/-- Declarations with what nodes have that follow one another are in order if they stand in
    front of it, and each node's own is in order. -/
theorem inSourceOrder_append_flatMap {decls : List Declaration} {places : List (Address × Cst)}
    (hdecls : Declaration.InSourceOrder decls)
    (hapart : (places.map Prod.snd).Pairwise fun d e => d.stop ≤ e.start)
    (hordered : ∀ p ∈ places, p.2.Ordered) :
    Declaration.InSourceOrder (decls ++ places.flatMap fun p => s.outermost p.2) ↔
      s.StandBefore decls places ∧ ∀ p ∈ places, Declaration.InSourceOrder (s.outermost p.2) := by
  constructor
  · intro h
    obtain ⟨-, hplaces, hbefore⟩ := List.pairwise_append.1 h
    refine ⟨fun decl hdecl p hp later hlater => ?_, (List.pairwise_flatMap.1 hplaces).1⟩
    exact hbefore decl hdecl later (List.mem_flatMap.2 ⟨p, hp, hlater⟩)
  · rintro ⟨hbefore, hplaces⟩
    refine List.pairwise_append.2 ⟨hdecls, List.pairwise_flatMap.2 ⟨hplaces, ?_⟩, ?_⟩
    · -- what one node has stands within its range, and the next node starts behind that
      refine (List.pairwise_map.1 hapart).imp_of_mem fun hp hq hle decl hdecl later hlater => ?_
      have hstop := ((places_of_mem_outermost hdecl).bounds (hordered _ hp)).2
      have hstart := ((places_of_mem_outermost hlater).bounds (hordered _ hq)).1
      omega
    · intro decl hdecl later hlater
      obtain ⟨p, hp, hlater⟩ := List.mem_flatMap.1 hlater
      exact hbefore decl hdecl p hp later hlater

/-- No declaration that a step attaches stands behind one that is found later for the
    same declaration: neither the own one, or else a caught parameter, behind what the
    nodes around it have, nor a parameter behind what the nodes inside have. -/
structure Foremost (s : Source) (y : Yield) : Prop where
  surface : s.StandBefore y.surface y.around
  params : y.own?.isSome → s.StandBefore (y.params.map Prod.snd) y.inside

/-- Declarations can be out of order at methods, constructors and lambdas, at the bodies of
    anonymous classes and at catch clauses, but nowhere else. -/
theorem Yields.foremost (h : s.Yields c y) (hcallable : c.kind.callableKind? = none)
    (hbody : c.bodyAt? = none) (hcatch : c.kind ≠ .catchClause) (hlambda : c.kind ≠ .lambda) :
    s.Foremost y := by
  cases h with
  | pass => exact ⟨List.forall_mem_nil _, nofun⟩
  | typeDeclaration | field => exact ⟨fun _ _ _ => nofun, fun _ => List.forall_mem_nil _⟩
  | callable hkind =>
    rw [hcallable] at hkind
    cases hkind
  | anonymousClass hat =>
    rw [hbody] at hat
    cases hat
  | catchClause hkind => exact absurd hkind hcatch
  | lambda hkind => exact absurd hkind hlambda

theorem HasYield.inSourceOrder_outermost (hy : s.HasYield c y) (hc : c.Ordered) :
    Declaration.InSourceOrder (s.outermost c) ↔
      s.StandBefore y.surface y.around ∧
        ∀ p ∈ y.around, Declaration.InSourceOrder (s.outermost p.2) := by
  have hsurface : Declaration.InSourceOrder y.surface := by
    unfold Yield.surface
    split
    · exact List.pairwise_singleton _ _
    · exact hy.yields.inSourceOrder_params hc
  rw [hy.outermost_eq]
  exact inSourceOrder_append_flatMap hsurface (hy.yields.apart_around hc)
    fun p hp => hy.yields.ordered_of_mem hc (.inl hp)

theorem Yields.inSourceOrder_family (h : s.Yields c y) (hc : c.Ordered) :
    Declaration.InSourceOrder (s.family y) ↔
      s.StandBefore (y.params.map Prod.snd) y.inside ∧
        ∀ p ∈ y.inside, Declaration.InSourceOrder (s.outermost p.2) :=
  inSourceOrder_append_flatMap (h.inSourceOrder_params hc) (h.apart_inside hc)
    fun _ hp => h.ordered_of_mem hc (.inr hp)

variable {parent first : NodeId} {t t' : Tree} {pending : List (Address × Job)}
  {log : List (Address × Yield)}

theorem forall_mem_under_pending {P : Cst → Prop} :
    (∀ p ∈ Address.under a (y.pending parent first) ++ pending, P p.2.cst) ↔
      ((∀ p ∈ y.around, P p.2) ∧ ∀ p ∈ y.inside, P p.2) ∧ ∀ p ∈ pending, P p.2.cst := by
  rw [List.forall_mem_append, Address.under, List.forall_mem_map, Yield.pending,
    List.forall_mem_append, List.forall_mem_map, List.forall_mem_map]

/-- Over a walk, the yields are foremost if what the nodes have is in order, and so are
    the families that they found. -/
theorem Walk.foremost_iff (h : s.Walk pending t log t')
    (hordered : ∀ p ∈ pending, p.2.cst.Ordered) :
    (∀ p ∈ log, s.Foremost p.2) ↔
      (∀ p ∈ pending, Declaration.InSourceOrder (s.outermost p.2.cst)) ∧
        ∀ p ∈ log, p.2.own?.isSome → Declaration.InSourceOrder (s.family p.2) := by
  induction h with
  | done => simp
  | @step a job pending t t₁ t₂ y log hy _ _ ih =>
    obtain ⟨hjob, hpending⟩ := List.forall_mem_cons.1 hordered
    have hnext := ih (forall_mem_under_pending.2
      ⟨⟨fun p hp => hy.yields.ordered_of_mem hjob (.inl hp),
        fun p hp => hy.yields.ordered_of_mem hjob (.inr hp)⟩, hpending⟩)
    rw [forall_mem_under_pending (P := fun d => Declaration.InSourceOrder (s.outermost d))] at hnext
    have hinside : (∀ p ∈ y.inside, Declaration.InSourceOrder (s.outermost p.2)) ↔
        (y.own?.isSome → ∀ p ∈ y.inside, Declaration.InSourceOrder (s.outermost p.2)) := by
      refine ⟨fun h _ => h, fun h => ?_⟩
      cases hown : y.own? with
      | none =>
        rw [hy.yields.inside_eq_nil hown]
        exact List.forall_mem_nil _
      | some own => exact h (by rw [hown]; rfl)
    have hforemost : s.Foremost y ↔ s.StandBefore y.surface y.around ∧
        (y.own?.isSome → s.StandBefore (y.params.map Prod.snd) y.inside) :=
      ⟨fun h => ⟨h.surface, h.params⟩, fun h => ⟨h.1, h.2⟩⟩
    rw [List.forall_mem_cons, List.forall_mem_cons, List.forall_mem_cons, hnext, hforemost, hinside,
      hy.inSourceOrder_outermost hjob, hy.yields.inSourceOrder_family hjob, imp_and]
    constructor
    · rintro ⟨⟨hsurface, hparams⟩, ⟨⟨haround, hinside⟩, hrest⟩, hlog⟩
      exact ⟨⟨⟨hsurface, haround⟩, hrest⟩, ⟨hparams, hinside⟩, hlog⟩
    · rintro ⟨⟨⟨hsurface, haround⟩, hrest⟩, ⟨hparams, hinside⟩, hlog⟩
      exact ⟨⟨hsurface, hparams⟩, ⟨⟨haround, hinside⟩, hrest⟩, hlog⟩

/-- The children of all nodes end up in order if those of the old nodes do, and the families
    that are found on the way. -/
theorem Walk.inSourceOrder_iff (h : s.Walk pending t log t') (ht : t.Built)
    (hpending : ∀ p ∈ pending, p.2.parent < t.size) :
    t'.InSourceOrder ↔
      (∀ id < t.size, Declaration.InSourceOrder (t.childDeclarations id ++ s.share pending id)) ∧
        ∀ p ∈ log, p.2.own?.isSome → Declaration.InSourceOrder (s.family p.2) := by
  induction h with
  | done t =>
    have hnone : ∀ id, s.share [] id = [] := fun _ => rfl
    simp only [hnone, List.append_nil, List.not_mem_nil, false_imp_iff, implies_true, and_true]
    exact Tree.inSourceOrder_iff_of_size
  | @step a job pending t t₁ t₂ y log hy hstep hwalk ih =>
    obtain ⟨hjob, hpending⟩ := List.forall_mem_cons.1 hpending
    rw [hy.step_eq_ok hjob] at hstep
    obtain ⟨rfl, -⟩ := Prod.mk.inj (Except.ok.inj hstep)
    rw [ih (ht.attachedAll (hy.yields.attachable hjob)) (hy.yields.parent_lt_of_step hjob hpending),
      List.forall_mem_cons, ← and_assoc]
    refine and_congr_left' ?_
    have hold : ∀ id < t.size,
        (t.attachedAll (y.entries job.parent t.size)).childDeclarations id ++
            s.share (Address.under a (y.pending job.parent t.size) ++ pending) id =
          t.childDeclarations id ++ s.share ((a, job) :: pending) id := by
      intro id hid
      rw [hy.childDeclarations_step ht hjob hid, share_cons, hy.outermost_eq, List.append_assoc]
    have hnew := fun id (hid : t.size ≤ id) =>
      hy.childDeclarations_step_new (a := a) ht hjob hpending hid
    rw [Tree.size_attachedAll]
    constructor
    · refine fun h => ⟨fun id hid => hold id hid ▸ h id (Nat.lt_add_right _ hid), fun hown => ?_⟩
      obtain ⟨own, hown'⟩ := Option.isSome_iff_exists.1 hown
      have hfamily := h t.size (by simp [Yield.entries_of_own hown'])
      rwa [hnew _ (Nat.le_refl _), if_pos ⟨rfl, hown⟩] at hfamily
    · rintro ⟨hchildren, hfamily⟩ id -
      rcases Nat.lt_or_ge id t.size with hid | hid
      · exact hold id hid ▸ hchildren id hid
      · rw [hnew id hid]
        split
        · next hown => exact hfamily hown.2
        · exact List.Pairwise.nil

/-- The children of all nodes of the tree of a program are in the order of the text exactly
    when no declaration stands behind one that is found later for the same declaration. -/
theorem declarations_inSourceOrder_iff (s : Source) (unit : String) {program : Cst}
    (hprogram : program.Ordered) :
    ∃ log t, s.Walk [([], ⟨program, Tree.root⟩)] (Tree.ofUnit unit) log t ∧
      s.declarations unit program = .ok t ∧
      (t.InSourceOrder ↔ ∀ p ∈ log, s.Foremost p.2) := by
  obtain ⟨log, t, hwalk, ht⟩ := s.exists_walk_declarations unit program
  refine ⟨log, t, hwalk, ht, ?_⟩
  have hsize : (Tree.ofUnit unit).size = 1 := rfl
  have hchildren : (Tree.ofUnit unit).childDeclarations Tree.root = [] := rfl
  have hshare : s.share [([], ⟨program, Tree.root⟩)] Tree.root = s.outermost program := by
    rw [share_cons, if_pos rfl]
    exact List.append_nil _
  -- at first there is nothing but the unit, for which the program is pending
  have hstart : (∀ id < (Tree.ofUnit unit).size, Declaration.InSourceOrder
      ((Tree.ofUnit unit).childDeclarations id ++ s.share [([], ⟨program, Tree.root⟩)] id)) ↔
        Declaration.InSourceOrder (s.outermost program) := by
    simp only [hsize, Nat.lt_one_iff, forall_eq]
    change Declaration.InSourceOrder ((Tree.ofUnit unit).childDeclarations Tree.root ++
      s.share _ Tree.root) ↔ _
    rw [hchildren, hshare, List.nil_append]
  have hjob : ∀ p ∈ [(([] : Address), (⟨program, Tree.root⟩ : Job))],
      p.2.cst.Ordered ∧ p.2.parent < (Tree.ofUnit unit).size := by
    intro p hp
    rw [List.mem_singleton.1 hp]
    exact ⟨hprogram, Nat.one_pos⟩
  rw [hwalk.foremost_iff fun p hp => (hjob p hp).1, List.forall_mem_singleton,
    hwalk.inSourceOrder_iff (.ofUnit unit) fun p hp => (hjob p hp).2, hstart]

end Source

/-! ## Texts -/

/-- The children of all nodes of the tree of a text are in the order of the text exactly
    when no declaration stands behind one that is found later for the same declaration. -/
theorem children_inSourceOrder_iff {grammar : List Char → Cst} {unit source : String}
    {tabWidth : UInt64} {t : Tree} (hordered : (grammar source.toList).Ordered)
    (hparse : parseWith grammar unit source tabWidth = .ok t) :
    ∃ log, (Source.ofText source tabWidth).Walk [([], ⟨grammar source.toList, Tree.root⟩)]
        (Tree.ofUnit unit) log t ∧
      (t.InSourceOrder ↔ ∀ p ∈ log, (Source.ofText source tabWidth).Foremost p.2) := by
  obtain ⟨log, t', hwalk, ht, hiff⟩ :=
    (Source.ofText source tabWidth).declarations_inSourceOrder_iff unit hordered
  rw [declarations_of_parseWith hparse] at ht
  obtain rfl := Except.ok.inj ht
  exact ⟨log, hwalk, hiff⟩

/-- The parameter, the anonymous class and the lambda of the method are in order. -/
theorem children_inSourceOrder_iff_lambdaArgument :
    Source.lambdaArgumentProgram.Ordered ∧
      ∃ t log, parseWith (fun _ => Source.lambdaArgumentProgram) "A.java" Source.lambdaArgumentSource 4 =
          .ok t ∧
        t.InSourceOrder ∧
        (Source.ofText Source.lambdaArgumentSource 4).Walk
          [([], ⟨Source.lambdaArgumentProgram, Tree.root⟩)] (Tree.ofUnit "A.java") log t ∧
        ∀ p ∈ log, (Source.ofText Source.lambdaArgumentSource 4).Foremost p.2 := by
  have hordered : Source.lambdaArgumentProgram.Ordered := Cst.ordered_of_nodes (by decide)
  obtain ⟨t, ht⟩ := @exists_parseWith_eq_ok (fun _ => Source.lambdaArgumentProgram)
    Source.lambdaArgumentSource (by decide) "A.java" 4
  have horder : (parseWith (fun _ => Source.lambdaArgumentProgram) "A.java"
      Source.lambdaArgumentSource 4).map (fun t => decide t.InSourceOrder) = .ok true := by
    decide +kernel
  rw [ht] at horder
  have hsorted : t.InSourceOrder := of_decide_eq_true (Except.ok.inj horder)
  obtain ⟨log, hwalk, hiff⟩ :=
    @children_inSourceOrder_iff (fun _ => Source.lambdaArgumentProgram) _ _ _ _ hordered ht
  exact ⟨hordered, t, log, ht, hsorted, hwalk, hiff.1 hsorted⟩

/-- A field whose value is an object of an anonymous class. It is created in the object
    that a call returns, and an argument of the call is a lambda. -/
def qualifiedCreationSource : String :=
  "class A \x7b Object f = g(x -> x).new C() \x7b\x7d; \x7d"

/-- The concrete syntax tree of that text. -/
def qualifiedCreationProgram : Cst :=
  .node .program none false 0 44 [
    .node .classDeclaration none false 0 44 [
      .leaf (.token "class") 0 5,
      .node .identifier (some .name) false 6 7 [],
      .node .classBody (some .body) false 8 44 [
        .leaf (.token "\x7b") 8 9,
        .node .fieldDeclaration none false 10 42 [
          .node .phrase none false 10 16 [.leaf .identifier 10 16],
          .node .variableDeclarator (some .declarator) false 17 41 [
            .node .identifier (some .name) false 17 18 [],
            .leaf (.token "=") 19 20,
            .node .objectCreation none false 21 41 [
              .leaf .identifier 21 22,
              .node .phrase none false 22 30 [
                .leaf (.token "(") 22 23,
                .node .lambda none false 23 29 [
                  .node .identifier (some .parameters) false 23 24 [],
                  .leaf (.token "->") 25 27,
                  .node .phrase (some .body) false 28 29 [.leaf .identifier 28 29]],
                .leaf (.token ")") 29 30],
              .leaf (.token ".") 30 31,
              .leaf (.token "new") 31 34,
              .node .phrase (some .type) false 35 36 [.leaf .identifier 35 36],
              .node .phrase none false 36 38 [.leaf (.token "(") 36 37, .leaf (.token ")") 37 38],
              .node .classBody none false 39 41 [
                .leaf (.token "\x7b") 39 40, .leaf (.token "\x7d") 40 41]]],
          .leaf (.token ";") 41 42],
        .leaf (.token "\x7d") 43 44]]]

/-- The anonymous class comes before the lambda among the children of the field, and stands
    behind it in the text. -/
theorem not_inSourceOrder_qualifiedCreation :
    qualifiedCreationProgram.Ordered ∧
      ∃ t, parseWith (fun _ => qualifiedCreationProgram) "A.java" qualifiedCreationSource 8 = .ok t ∧
        (t.childDeclarations 2).map (fun decl => (decl.ident, decl.offset)) = [("C", 35), ("->", 23)] ∧
        ¬ t.InSourceOrder := by
  have hordered : qualifiedCreationProgram.Ordered := Cst.ordered_of_nodes (by decide)
  obtain ⟨t, ht⟩ := @exists_parseWith_eq_ok (fun _ => qualifiedCreationProgram)
    qualifiedCreationSource (by decide) "A.java" 8
  have hchildren : (parseWith (fun _ => qualifiedCreationProgram) "A.java"
      qualifiedCreationSource 8).map (fun t =>
        (t.childDeclarations 2).map fun decl => (decl.ident, decl.offset)) =
      .ok [("C", 35), ("->", 23)] := by
    decide +kernel
  rw [ht] at hchildren
  have hoffsets : (t.childDeclarations 2).map (fun decl => (decl.ident, decl.offset)) =
      [("C", 35), ("->", 23)] := Except.ok.inj hchildren
  refine ⟨hordered, t, ht, hoffsets, fun h => ?_⟩
  have hsorted : ((t.childDeclarations 2).map fun decl => (decl.ident, decl.offset)).Pairwise
      fun d e => d.2 ≤ e.2 := List.pairwise_map.2 (h 2)
  rw [hoffsets] at hsorted
  exact absurd hsorted (by decide)

end Java

end JavaLint
