import JavaLint.Proofs.Java.Reading
import JavaLint.Proofs.Java.Yield
import JavaLint.Proofs.Tree.Skeleton
/-!
# Texts with the same tokens

Extraction goes through two texts of a program in step. At every node it attaches
the same declarations in both of them, as far as declarations depend on tokens: what
differs are places, names of several tokens, and the names of annotations, which
are texts with gaps in them.

## Main definitions

- `Java.Reading.SameDeclaration` — what declarations of two texts have in common

## Main statements

- `Java.Reading.Agree.leads_step` — a step in one text leads to the same step in the other one
- `Java.Reading.Agree.matches_declarations` — the trees of two texts of a program
-/

namespace JavaLint.Java

namespace Reading

variable {a b : Reading} {program c param name : Cst} {m m' : Modifiers} {kind : NodeKind}
  {ident ident' : Ident}

/-! ## Declarations -/

/-- Two annotations whose names are the texts of one node in two texts. -/
def SameMarking (a b : Reading) (program : Cst) (x y : Annotation) : Prop :=
  ∃ name : Cst, name.Below program ∧ x.name = a.text name ∧ y.name = b.text name

/-- Modifiers with the same visibility, whose annotations have the same tokens. -/
structure SameModifiers (a b : Reading) (program : Cst) (m m' : Modifiers) : Prop where
  visibility_eq : m.visibility = m'.visibility
  annotations : List.Forall₂ (SameMarking a b program) m.annotations m'.annotations

theorem sameModifiers_default : SameModifiers a b program {} {} :=
  ⟨rfl, .nil⟩

/-- Declarations of one kind with the same modifiers. Those of formal parameters
    are written by the same names. -/
structure SameDeclaration (a b : Reading) (program : Cst) (d d' : Declaration) : Prop where
  kind_eq : d.kind = d'.kind
  modifiers : SameModifiers a b program d.modifiers d'.modifiers
  exists_name : d.kind = .parameter .formal → ∃ param name : Cst, param.Within program ∧
    param.NamesParameter name ∧ a.source.Writes (a.place name) d ∧ b.source.Writes (b.place name) d'

/-- What is attached for one node in two texts: the same declaration, with a name. -/
structure SameEntry (a b : Reading) (program : Cst) (x y : NodeKind × Ident × Modifiers) : Prop where
  declare : SameDeclaration a b program (x.2.1.declare x.1 x.2.2) (y.2.1.declare y.1 y.2.2)
  text_ne : y.2.1.text ≠ ""

theorem sameEntry_of_ne (hkind : kind ≠ .parameter .formal) (hm : SameModifiers a b program m m')
    (hne : ident'.text ≠ "") : SameEntry a b program (kind, ident, m) (kind, ident', m') :=
  ⟨⟨rfl, hm, fun h => absurd h hkind⟩, hne⟩

namespace Agree

variable (h : a.Agree b program)

include h

theorem text_identOf_ne (hname : name.Below program) : (a.identOf name).text ≠ "" := by
  rw [identOf, Source.text_identOf]
  exact h.text_ne_left hname

/-- A node has a name if it has a child for it. -/
theorem name?_place (hc : c.Within program) :
    a.source.name? (a.place c) = (c.child? .name).map a.identOf := by
  unfold Source.name? place
  rw [Cst.child?_placed]
  cases hname : c.child? .name with
  | none => rfl
  | some name =>
    have hne := h.text_identOf_ne ⟨c, hc, List.mem_of_find?_eq_some hname⟩
    exact if_neg fun hempty => hne (String.isEmpty_iff.1 hempty)

theorem sameEntry_of_name {k : ParamKind} (hparam : param.Within program)
    (hname : param.NamesParameter name) (hm : SameModifiers a b program m m') :
    SameEntry a b program (.parameter k, a.identOf name, m) (.parameter k, b.identOf name, m') :=
  ⟨⟨rfl, hm, fun _ => ⟨param, name, hparam, hname, a.source.writes_declare _ _ _,
    b.source.writes_declare _ _ _⟩⟩, h.symm.text_identOf_ne (hname.below hparam)⟩

theorem sameModifiers_addModifier (hc : c.Within program) (hm : SameModifiers a b program m m') :
    SameModifiers a b program (a.source.addModifier m (a.place c))
      (b.source.addModifier m' (b.place c)) := by
  unfold Source.addModifier place
  rw [Cst.kind_placed, Cst.kind_placed, Cst.child?_placed, Cst.child?_placed]
  split
  · exact ⟨rfl, hm.annotations⟩
  · exact ⟨rfl, hm.annotations⟩
  · exact ⟨rfl, hm.annotations⟩
  · cases hname : c.child? .name with
    | none => exact hm
    | some name =>
      have hbelow : name.Below program := ⟨c, hc, List.mem_of_find?_eq_some hname⟩
      have hne : (a.source.text (a.place name)).isEmpty = false :=
        Bool.eq_false_iff.2 fun hempty => h.text_ne_left hbelow (String.isEmpty_iff.1 hempty)
      have hne' : (b.source.text (b.place name)).isEmpty = false :=
        Bool.eq_false_iff.2 fun hempty => h.text_ne_right hbelow (String.isEmpty_iff.1 hempty)
      -- in both texts the name is there, so both lists of annotations grow
      dsimp only [Option.map_some]
      change SameModifiers a b program (if (a.source.text (a.place name)).isEmpty then _ else _)
        (if (b.source.text (b.place name)).isEmpty then _ else _)
      rw [hne, hne']
      exact ⟨hm.visibility_eq, List.rel_append hm.annotations (.cons ⟨name, hbelow, rfl, rfl⟩ .nil)⟩
  · exact hm

theorem sameModifiers (hc : c.Within program) :
    SameModifiers a b program (a.source.modifiers (a.place c)) (b.source.modifiers (b.place c)) := by
  unfold Source.modifiers place
  rw [Cst.childOfKind?_placed, Cst.childOfKind?_placed]
  cases hlist : c.childOfKind? .modifiers with
  | none => exact sameModifiers_default
  | some list =>
    have hwithin : list.Within program :=
      (Cst.within_of_mem (List.mem_of_find?_eq_some hlist)).trans hc
    dsimp only [Option.map_some]
    rw [Cst.children_placed, Cst.children_placed, List.foldl_map, List.foldl_map]
    refine List.foldl_rel sameModifiers_default fun d hd m m' hm => ?_
    exact h.sameModifiers_addModifier ((Cst.within_of_mem hd).trans hwithin) hm

theorem ident_eq {d d' : Declaration} (hd : SameDeclaration a b program d d')
    (hkind : d.kind = .parameter .formal) : d.ident = d'.ident := by
  obtain ⟨param, name, hparam, hname, hwrites, hwrites'⟩ := hd.exists_name hkind
  exact hwrites.ident_eq.trans ((h.text_eq hparam hname).trans hwrites'.ident_eq.symm)

theorem rel_parameter? (k : ParamKind) (hparam : param.Within program) :
    Option.Rel (SameEntry a b program) (Extraction.parameter? a.source k (a.place param))
      (Extraction.parameter? b.source k (b.place param)) := by
  have hmodifiers := h.sameModifiers hparam
  unfold Extraction.parameter?
  have hkind : ∀ a : Reading, (a.place param).kind = param.kind := fun a => param.kind_placed
  rw [hkind, hkind]
  split
  · next hformal =>
    rw [h.name?_place hparam, h.symm.name?_place hparam]
    cases hname : param.child? .name with
    | none => exact .none
    | some name => exact .some (h.sameEntry_of_name hparam (.formal hformal hname) hmodifiers)
  · next hspread =>
    have hfind : ∀ a : Reading,
        (a.place param).namedChildren.find? (·.kind == .variableDeclarator) =
          (param.namedChildren.find? (·.kind == .variableDeclarator)).map a.place :=
      fun a => param.find?_namedChildren_placed _
    rw [hfind, hfind]
    cases hdeclarator : param.namedChildren.find? (·.kind == .variableDeclarator) with
    | none => exact .none
    | some declarator =>
      have hmem := List.mem_of_find?_eq_some hdeclarator
      have hwithin := (Cst.within_of_mem_namedChildren hmem).trans hparam
      rw [Option.map_some, Option.map_some, Option.bind_some, Option.bind_some,
        h.name?_place hwithin, h.symm.name?_place hwithin]
      cases hname : declarator.child? .name with
      | none => exact .none
      | some name => exact .some (h.sameEntry_of_name hparam (.spread hspread hmem hname) hmodifiers)
  · exact .some (sameEntry_of_ne nofun sameModifiers_default (Source.text_identOf_ne (by decide)))
  · exact .none

end Agree

/-! ## Steps -/

/-- Trees with the same declarations, as far as these depend on tokens. -/
abbrev SameTree (a b : Reading) (program : Cst) (t t' : Tree) : Prop :=
  t.Matches (SameDeclaration a b program) t'

/-- Jobs for the same nodes of a program in two texts. -/
def SameJobs (a b : Reading) (program : Cst) (jobs jobs' : List Extraction.Job) : Prop :=
  List.Forall₂ (fun j j' : Extraction.Job => j.parent = j'.parent ∧
    ∃ c : Cst, c.Within program ∧ j.cst = a.place c ∧ j'.cst = b.place c) jobs jobs'

/-- What a step results in for two texts. -/
structure SameResult (a b : Reading) (program : Cst) (r r' : Tree × List Extraction.Job) : Prop where
  tree : SameTree a b program r.1 r'.1
  jobs : SameJobs a b program r.2 r'.2

theorem sameJobs_jobs {cs : List Cst} (h : ∀ c ∈ cs, c.Within program) (parent : NodeId) :
    SameJobs a b program (Extraction.jobs parent (cs.map a.place))
      (Extraction.jobs parent (cs.map b.place)) := by
  unfold SameJobs Extraction.jobs
  rw [List.map_map, List.map_map, List.forall₂_map_left_iff, List.forall₂_map_right_iff,
    List.forall₂_same]
  exact fun c hc => ⟨rfl, c, h c hc, rfl, rfl⟩

namespace Agree

open Extraction

variable {t t' : Tree} {parent owner : NodeId} {list : Cst} {kind' : NodeKind}

theorem leads_attach (ht : SameTree a b program t t')
    (hentry : SameEntry a b program (kind, ident, m) (kind', ident', m')) :
    Except.Leads (fun r r' => SameTree a b program r.1 r'.1 ∧ r.2 = r'.2)
      (attach t parent kind ident m) (attach t' parent kind' ident' m') :=
  ht.leads_push hentry.declare hentry.declare.kind_eq fun _ => hentry.text_ne

theorem leads_fst_attach (ht : SameTree a b program t t')
    (hentry : SameEntry a b program (kind, ident, m) (kind', ident', m')) :
    Except.Leads (SameTree a b program) (Prod.fst <$> attach t owner kind ident m)
      (Prod.fst <$> attach t' owner kind' ident' m') :=
  (leads_attach ht hentry).map fun _ _ h => h.1

theorem leads_pass (hc : c.Within program) (ht : SameTree a b program t t') (skip : List CstKind) :
    Except.Leads (SameResult a b program) (pass (a.place c) parent t skip)
      (pass (b.place c) parent t' skip) := by
  refine Except.leads_ok ⟨ht, ?_⟩
  unfold place
  rw [Cst.namedExcept_placed, Cst.namedExcept_placed]
  refine sameJobs_jobs (fun d hd => ?_) parent
  exact (Cst.within_of_mem_namedChildren (List.mem_of_mem_filter hd)).trans hc

variable (h : a.Agree b program) (hc : c.Within program) (ht : SameTree a b program t t')

include h

theorem leads_parameters (k : ParamKind) (hlist : list.Within program)
    (ht : SameTree a b program t t') :
    Except.Leads (SameTree a b program) (parameters a.source k owner (a.place list) t)
      (parameters b.source k owner (b.place list) t') := by
  unfold parameters place
  rw [Cst.namedChildren_placed, Cst.namedChildren_placed, List.filterMap_map, List.filterMap_map]
  have hsame : List.Forall₂ (fun c d => c = d ∧ c ∈ list.namedChildren) list.namedChildren
      list.namedChildren := List.forall₂_same.2 fun c hc => ⟨rfl, hc⟩
  have hentries : List.Forall₂ (SameEntry a b program)
      (list.namedChildren.filterMap (parameter? a.source k ∘ a.place))
      (list.namedChildren.filterMap (parameter? b.source k ∘ b.place)) := by
    refine List.rel_filterMap ?_ hsame
    rintro param _ ⟨rfl, hmem⟩
    exact h.rel_parameter? k ((Cst.within_of_mem_namedChildren hmem).trans hlist)
  refine Except.leads_foldlM hentries ?_ ht
  rintro t t' ⟨_, _, _⟩ ⟨_, _, _⟩ ht hentry
  exact leads_fst_attach ht hentry

theorem leads_bareParameter (hname : name.Below program) (ht : SameTree a b program t t') :
    Except.Leads (SameTree a b program) (bareParameter a.source owner t (a.place name))
      (bareParameter b.source owner t' (b.place name)) := by
  have hne : ∀ {a b : Reading}, a.Agree b program →
      (a.source.identOf (a.place name) "").text.isEmpty = false := fun h =>
    Bool.eq_false_iff.2 fun hempty => h.text_identOf_ne hname (String.isEmpty_iff.1 hempty)
  have hentry : SameEntry a b program (.parameter .lambda, a.identOf name, {})
      (.parameter .lambda, b.identOf name, {}) :=
    sameEntry_of_ne nofun sameModifiers_default (h.symm.text_identOf_ne hname)
  unfold bareParameter
  dsimp only
  rw [hne h, hne h.symm, if_neg Bool.false_ne_true, if_neg Bool.false_ne_true]
  exact leads_fst_attach ht hentry

theorem leads_lambdaParameters (hlist : list.Below program) (ht : SameTree a b program t t') :
    Except.Leads (SameTree a b program) (lambdaParameters a.source owner (a.place list) t)
      (lambdaParameters b.source owner (b.place list) t') := by
  have hkind : ∀ a : Reading, (a.place list).kind = list.kind := fun a => list.kind_placed
  unfold lambdaParameters
  rw [hkind, hkind]
  split
  · exact h.leads_bareParameter hlist ht
  · have hfilter : ∀ a : Reading, (a.place list).namedChildren.filter (·.kind == .identifier) =
        (list.namedChildren.filter (·.kind == .identifier)).map a.place := by
      intro a
      unfold place
      rw [Cst.namedChildren_placed, List.filter_map]
      simp only [Function.comp_def, Cst.kind_placed]
    rw [hfilter, hfilter, List.foldlM_map, List.foldlM_map]
    have hsame : List.Forall₂ (fun c d => c = d ∧ c.Below program)
        (list.namedChildren.filter (·.kind == .identifier))
        (list.namedChildren.filter (·.kind == .identifier)) := by
      refine List.forall₂_same.2 fun d hd => ⟨rfl, list, hlist.within, ?_⟩
      exact List.mem_of_mem_filter (List.mem_of_mem_filter hd)
    refine Except.leads_foldlM hsame ?_ ht
    rintro t t' name _ ht ⟨rfl, hname⟩
    exact h.leads_bareParameter hname ht
  · exact h.leads_parameters .lambda hlist.within ht
  · exact Except.leads_ok ht

include hc ht

theorem leads_typeDeclaration (k : TypeKind) :
    Except.Leads (SameResult a b program) (typeDeclaration a.source k (a.place c) parent t)
      (typeDeclaration b.source k (b.place c) parent t') := by
  unfold typeDeclaration
  rw [h.name?_place hc, h.symm.name?_place hc]
  cases hname : c.child? .name with
  | none => exact leads_pass hc ht []
  | some name =>
    have hne := h.symm.text_identOf_ne ⟨c, hc, List.mem_of_find?_eq_some hname⟩
    have hentry : SameEntry a b program (.type k, a.identOf name, a.source.modifiers (a.place c))
        (.type k, b.identOf name, b.source.modifiers (b.place c)) :=
      sameEntry_of_ne nofun (h.sameModifiers hc) hne
    refine (leads_attach ht hentry).bind ?_
    rintro ⟨t, id⟩ ⟨t', _⟩ ⟨ht, rfl⟩
    exact leads_pass hc ht _

theorem leads_callable (hkind : ∀ k, kind ≠ .parameter k) :
    Except.Leads (SameResult a b program) (callable a.source kind (a.place c) parent t)
      (callable b.source kind (b.place c) parent t') := by
  unfold callable
  rw [h.name?_place hc, h.symm.name?_place hc]
  cases hname : c.child? .name with
  | none => exact leads_pass hc ht []
  | some name =>
    have hne := h.symm.text_identOf_ne ⟨c, hc, List.mem_of_find?_eq_some hname⟩
    have hentry : SameEntry a b program (kind, a.identOf name, a.source.modifiers (a.place c))
        (kind, b.identOf name, b.source.modifiers (b.place c)) :=
      sameEntry_of_ne (hkind _) (h.sameModifiers hc) hne
    refine (leads_attach ht hentry).bind ?_
    rintro ⟨t, id⟩ ⟨t', _⟩ ⟨ht, rfl⟩
    unfold place
    rw [Cst.child?_placed, Cst.child?_placed]
    cases hlist : c.child? .parameters with
    | none => exact leads_pass hc ht _
    | some list =>
      exact (h.leads_parameters .formal ((Cst.within_of_child? hlist).trans hc) ht).bind
        fun t t' ht => leads_pass hc ht _

theorem leads_field :
    Except.Leads (SameResult a b program) (field a.source (a.place c) parent t)
      (field b.source (b.place c) parent t') := by
  have hname : ∀ {a b : Reading}, a.Agree b program →
      ((a.place c).child? .declarator).bind a.source.name? =
        ((c.child? .declarator).bind (·.child? .name)).map a.identOf := by
    intro a b h
    unfold place
    rw [Cst.child?_placed]
    cases hdeclarator : c.child? .declarator with
    | none => rfl
    | some declarator => exact h.name?_place ((Cst.within_of_child? hdeclarator).trans hc)
  unfold field
  rw [hname h, hname h.symm]
  cases hfound : (c.child? .declarator).bind (·.child? .name) with
  | none => exact leads_pass hc ht []
  | some name =>
    obtain ⟨declarator, hdeclarator, hchild⟩ := Option.bind_eq_some_iff.1 hfound
    have hbelow : name.Below program := ⟨declarator, (Cst.within_of_child? hdeclarator).trans hc,
      List.mem_of_find?_eq_some hchild⟩
    have hentry : SameEntry a b program (.field, a.identOf name, a.source.modifiers (a.place c))
        (.field, b.identOf name, b.source.modifiers (b.place c)) :=
      sameEntry_of_ne nofun (h.sameModifiers hc) (h.symm.text_identOf_ne hbelow)
    refine (leads_attach ht hentry).bind ?_
    rintro ⟨t, id⟩ ⟨t', _⟩ ⟨ht, rfl⟩
    exact leads_pass hc ht _

omit h in
theorem leads_anonymousClass {body : Cst} (hbody : body.Within program) (hne : ident'.text ≠ "") :
    Except.Leads (SameResult a b program)
      (anonymousClass ident (a.place c) (a.place body) parent t)
      (anonymousClass ident' (b.place c) (b.place body) parent t') := by
  have hentry : SameEntry a b program (.anonymousClass, ident, {}) (.anonymousClass, ident', {}) :=
    sameEntry_of_ne nofun sameModifiers_default hne
  refine (leads_attach ht hentry).bind ?_
  rintro ⟨t, id⟩ ⟨t', _⟩ ⟨ht, rfl⟩
  refine Except.leads_ok ⟨ht, ?_⟩
  unfold place
  simp only [Cst.namedExcept_placed]
  refine List.rel_append (sameJobs_jobs (fun d hd => ?_) parent) (sameJobs_jobs (fun d hd => ?_) id)
  · exact (Cst.within_of_mem_namedChildren (List.mem_of_mem_filter hd)).trans hc
  · exact (Cst.within_of_mem_namedChildren (List.mem_of_mem_filter hd)).trans hbody

omit h in
theorem leads_objectCreation :
    Except.Leads (SameResult a b program) (objectCreation a.source (a.place c) parent t)
      (objectCreation b.source (b.place c) parent t') := by
  have hfind : ∀ a : Reading, (a.place c).namedChildren.find? (·.kind == .classBody) =
      (c.namedChildren.find? (·.kind == .classBody)).map a.place :=
    fun a => c.find?_namedChildren_placed _
  unfold objectCreation
  rw [hfind, hfind]
  cases hbody : c.namedChildren.find? (·.kind == .classBody) with
  | none => exact leads_pass hc ht []
  | some body =>
    have hwithin := (Cst.within_of_mem_namedChildren (List.mem_of_find?_eq_some hbody)).trans hc
    exact leads_anonymousClass hc ht hwithin (Source.text_identOf_ne (by decide))

theorem leads_enumConstant :
    Except.Leads (SameResult a b program) (enumConstant a.source (a.place c) parent t)
      (enumConstant b.source (b.place c) parent t') := by
  unfold enumConstant
  rw [h.name?_place hc, h.symm.name?_place hc]
  unfold place
  rw [Cst.child?_placed, Cst.child?_placed]
  cases hbody : c.child? .body with
  | none => exact leads_pass hc ht []
  | some body =>
    cases hname : c.child? .name with
    | none => exact leads_pass hc ht []
    | some name =>
      have hne := h.symm.text_identOf_ne ⟨c, hc, List.mem_of_find?_eq_some hname⟩
      exact leads_anonymousClass hc ht ((Cst.within_of_child? hbody).trans hc) hne

theorem leads_catchClause :
    Except.Leads (SameResult a b program) (catchClause a.source (a.place c) parent t)
      (catchClause b.source (b.place c) parent t') := by
  have hfind : ∀ a : Reading, (a.place c).namedChildren.find? (·.kind == .catchParameter) =
      (c.namedChildren.find? (·.kind == .catchParameter)).map a.place :=
    fun a => c.find?_namedChildren_placed _
  unfold catchClause
  rw [hfind, hfind]
  cases hparam : c.namedChildren.find? (·.kind == .catchParameter) with
  | none => exact leads_pass hc ht _
  | some param =>
    have hwithin := (Cst.within_of_mem_namedChildren (List.mem_of_find?_eq_some hparam)).trans hc
    dsimp only [Option.map_some, Option.bind_some]
    rw [h.name?_place hwithin, h.symm.name?_place hwithin]
    cases hname : param.child? .name with
    | none => exact leads_pass hc ht _
    | some name =>
      have hne := h.symm.text_identOf_ne ⟨param, hwithin, List.mem_of_find?_eq_some hname⟩
      have hentry : SameEntry a b program
          (.parameter .caught, a.identOf name, a.source.modifiers (a.place param))
          (.parameter .caught, b.identOf name, b.source.modifiers (b.place param)) :=
        sameEntry_of_ne nofun (h.sameModifiers hwithin) hne
      exact (leads_fst_attach ht hentry).bind fun t t' ht => leads_pass hc ht _

theorem leads_lambda :
    Except.Leads (SameResult a b program) (lambda a.source (a.place c) parent t)
      (lambda b.source (b.place c) parent t') := by
  have hjobs : ∀ id, SameJobs a b program (jobs id ((a.place c).child? .body).toList)
      (jobs id ((b.place c).child? .body).toList) := by
    intro id
    unfold place
    rw [Cst.child?_placed, Cst.child?_placed]
    cases hbody : c.child? .body with
    | none => exact .nil
    | some body =>
      exact .cons ⟨rfl, body, (Cst.within_of_child? hbody).trans hc, rfl, rfl⟩ .nil
  have hname : lambdaName ≠ "" := by decide
  have hentry : SameEntry a b program
      (.lambda, ⟨lambdaName, a.source.position (a.place c).start, (a.place c).start⟩, {})
      (.lambda, ⟨lambdaName, b.source.position (b.place c).start, (b.place c).start⟩, {}) :=
    sameEntry_of_ne nofun sameModifiers_default hname
  unfold lambda
  refine (leads_attach ht hentry).bind ?_
  rintro ⟨t, id⟩ ⟨t', _⟩ ⟨ht, rfl⟩
  have hchild : ∀ a : Reading, (a.place c).child? .parameters = (c.child? .parameters).map a.place :=
    fun a => c.child?_placed _
  dsimp only
  rw [hchild, hchild]
  cases hlist : c.child? .parameters with
  | none => exact Except.leads_ok ⟨ht, hjobs id⟩
  | some list =>
    have hbelow : list.Below program := ⟨c, hc, List.mem_of_find?_eq_some hlist⟩
    exact (h.leads_lambdaParameters hbelow ht).bind
      fun t t' ht => Except.leads_ok ⟨ht, hjobs id⟩

/-- A step at a node in one text leads to the same step in the other one. -/
theorem leads_step :
    Except.Leads (SameResult a b program) (step a.source (a.place c) parent t)
      (step b.source (b.place c) parent t') := by
  have hkind : ∀ a : Reading, (a.place c).kind = c.kind := fun a => c.kind_placed
  unfold step
  rw [hkind, hkind]
  split
  · exact h.leads_typeDeclaration hc ht _
  · exact h.leads_typeDeclaration hc ht _
  · exact h.leads_typeDeclaration hc ht _
  · exact h.leads_typeDeclaration hc ht _
  · exact h.leads_typeDeclaration hc ht _
  · exact h.leads_callable hc ht nofun
  · exact h.leads_callable hc ht nofun
  · exact h.leads_callable hc ht nofun
  · exact h.leads_field hc ht
  · exact h.leads_field hc ht
  · exact leads_objectCreation hc ht
  · exact h.leads_enumConstant hc ht
  · exact h.leads_catchClause hc ht
  · exact h.leads_lambda hc ht
  · exact leads_pass hc ht []

omit hc in
/-- A run in one text leads to the same run in the other one. -/
theorem leads_run {pending pending' : List Job} (hjobs : SameJobs a b program pending pending')
    (fuel : Nat) :
    Except.Leads (SameTree a b program) (run a.source fuel pending t)
      (run b.source fuel pending' t') := by
  -- the trees and the pending jobs stay the same from step to step
  induction fuel generalizing pending pending' t t' with
  | zero => exact Except.leads_ok ht
  | succ fuel ih =>
    cases hjobs with
    | nil => exact Except.leads_ok ht
    | @cons job job' pending pending' hjob hpending =>
      obtain ⟨parent, cst⟩ := job
      obtain ⟨_, _⟩ := job'
      obtain ⟨rfl, c, hc, rfl, rfl⟩ := hjob
      exact (h.leads_step hc ht).bind fun r r' hr => ih hr.tree (List.rel_append hr.jobs hpending)

end Agree

theorem sameTree_ofUnit (unit : String) :
    SameTree a b program (Tree.ofUnit unit) (Tree.ofUnit unit) where
  size_eq := rfl
  declaration {id n n'} hn hn' := by
    obtain rfl := Option.some.inj (hn.symm.trans hn')
    have hid : id = Tree.root := Nat.lt_one_iff.1 (Tree.lt_size_of_get? hn)
    rw [hid] at hn
    rw [← Option.some.inj hn]
    exact ⟨rfl, sameModifiers_default, nofun⟩
  parent hn hn' := by rw [Option.some.inj (hn.symm.trans hn')]
  children hn hn' := by rw [Option.some.inj (hn.symm.trans hn')]

/-- The trees of two texts of a program have the same declarations, as far as
    these depend on tokens. -/
theorem Agree.matches_declarations (h : a.Agree b program) {unit : String} {t t' : Tree}
    (ht : a.source.declarations unit (a.place program) = .ok t)
    (ht' : b.source.declarations unit (b.place program) = .ok t') : SameTree a b program t t' := by
  have hjobs : SameJobs a b program [⟨a.place program, Tree.root⟩] [⟨b.place program, Tree.root⟩] :=
    .cons ⟨rfl, program, .refl program, rfl, rfl⟩ .nil
  have hweight : (a.place program).weight = (b.place program).weight :=
    (Cst.weight_placed _ _ program).trans (Cst.weight_placed _ _ program).symm
  unfold Source.declarations at ht ht'
  rw [← hweight] at ht'
  obtain ⟨t₁, ht₁, hsame⟩ := h.leads_run (sameTree_ofUnit unit) hjobs _ t ht
  rwa [Except.ok.inj (ht₁.symm.trans ht')] at hsame

end Reading

end JavaLint.Java
