import JavaLint.Java.Frontend
import JavaLint.Proofs.Java.Yield
/-!
# Where declarations come from

Extraction attaches declarations to a tree, and goes on with nodes below the one
that it takes up. A formal parameter of the tree is therefore the name of some
parameter of the program, at the place where the program writes it.

## Main definitions

- `Java.Source.Declares` — what is said of the declarations of a program

## Main statements

- `Java.Extraction.grows_step` — a step attaches what stands at its node or below
- `Java.Source.grows_declarations` — what the tree of a program is made of
- `Java.Source.exists_parameter_of_get?` — the origin of a formal parameter
-/

namespace JavaLint

namespace Java

namespace Source

variable {s : Source} {c program : Cst} {y : Yield} {decl : Declaration}

/-- If a declaration is a formal parameter, a parameter of the program writes its name. -/
def Declares (s : Source) (program : Cst) (decl : Declaration) : Prop :=
  decl.kind = .parameter .formal →
    ∃ param name : Cst, param.Within program ∧ param.NamesParameter name ∧ s.Writes name decl

theorem Declares.mono (h : s.Declares c decl) (hc : c.Within program) : s.Declares program decl := by
  intro hkind
  obtain ⟨param, name, hparam, hname, hwrites⟩ := h hkind
  exact ⟨param, name, hparam.trans hc, hname, hwrites⟩

/-- A formal parameter that a node yields is written below the node. -/
theorem Yields.declares (h : s.Yields c y) {parent first : NodeId} :
    ∀ e ∈ y.entries parent first, s.Declares c e.2 := by
  rintro ⟨p, decl⟩ he hkind
  rcases Yield.mem_entries.1 he with ⟨hown, -⟩ | ⟨⟨a, hmem⟩, -⟩
  · exact absurd hkind ((h.own_kind hown).2 _)
  · have hfits := (h.param_kind hmem).2
    cases h with
    | pass | typeDeclaration | field | anonymousClass => cases hmem
    | callable =>
      obtain ⟨i, list, b, hlist, rfl, hlisted⟩ := exists_of_mem_parametersBy hmem
      obtain ⟨j, param, rfl, hchild, -, hparam⟩ := mem_parametersIn.1 hlisted
      obtain ⟨-, hparam⟩ := parameterIn?_eq_some hparam
      have hreceiver : decl.kind ≠ .parameter .receiver := by rw [hkind]; nofun
      obtain ⟨-, -, name, hname, hwrites⟩ := hparam.resolve_left fun h => hreceiver h.1
      have hwithin := Cst.within_of_mem (List.mem_of_getElem? (Cst.childWhere?_eq_some hlist).1)
      exact ⟨param, name, (Cst.within_of_mem (List.mem_of_getElem? hchild)).trans hwithin, hname,
        hwrites⟩
    | catchClause | lambda =>
      -- what they declare are parameters of other kinds
      obtain ⟨k, hk, hfits⟩ := hfits
      rw [hkind] at hk
      cases hk
      simp [ParamKind.Fits, Ident.declare] at hfits

end Source

namespace Extraction

variable {s : Source} {c : Cst} {t t' : Tree} {parent : NodeId} {next : List Job}

/-- A step at a node attaches declarations of what is at or below the node, and
    goes on with nodes there. -/
theorem grows_step (h : step s c parent t = .ok (t', next)) :
    t.Grows (s.Declares c) t' ∧ ∀ job ∈ next, job.cst.Within c := by
  obtain ⟨y, hy, hstep⟩ := exists_yields s c
  rw [hstep] at h
  obtain ⟨t₁, hpush, heq⟩ := Except.map_eq_ok_iff.1 h
  obtain ⟨rfl, rfl⟩ := Prod.mk.inj heq
  refine ⟨Tree.grows_of_pushAll hpush hy.declares, fun job hjob => ?_⟩
  obtain ⟨⟨a, job'⟩, hmem, rfl⟩ := List.mem_map.1 hjob
  exact Cst.within_of_at? (hy.at?_of_mem_pending hmem).2

/-- A run attaches declarations of the program that its nodes belong to. -/
theorem grows_run {program : Cst} {fuel : Nat} {pending : List Job}
    (hpending : ∀ job ∈ pending, job.cst.Within program) (h : run s fuel pending t = .ok t') :
    t.Grows (s.Declares program) t' := by
  -- the invariant is on the pending nodes: all of them belong to the program
  induction fuel generalizing pending t with
  | zero =>
    rw [← Except.ok.inj h]
    exact .refl t
  | succ fuel ih =>
    cases pending with
    | nil =>
      rw [← Except.ok.inj h]
      exact .refl t
    | cons job pending =>
      obtain ⟨⟨t₁, next⟩, hstep, hrun⟩ := Except.bind_eq_ok_iff.1 h
      have hjob := hpending job List.mem_cons_self
      obtain ⟨hgrows, hnext⟩ := grows_step hstep
      refine (hgrows.mono fun decl hdecl => hdecl.mono hjob).trans (ih ?_ hrun)
      intro job' hmem
      rcases List.mem_append.1 hmem with hmem | hmem
      · exact (hnext job' hmem).trans hjob
      · exact hpending job' (List.mem_cons_of_mem job hmem)

end Extraction

namespace Source

variable {s : Source} {unit : String} {program : Cst} {t : Tree} {id : NodeId} {node : TreeNode}

/-- The tree of a program grows from its compilation unit. -/
theorem grows_declarations (h : s.declarations unit program = .ok t) :
    (Tree.ofUnit unit).Grows (s.Declares program) t :=
  Extraction.grows_run (by rintro job (_ | ⟨_, ⟨⟩⟩); exact .refl program) h

theorem built_declarations (h : s.declarations unit program = .ok t) : t.Built :=
  (grows_declarations h).built (.ofUnit unit)

/-- A formal parameter of the tree has a name that some parameter of the program writes. -/
theorem exists_parameter_of_get? (h : s.declarations unit program = .ok t)
    (hnode : t.get? id = some node) (hkind : node.kind = .parameter .formal) :
    ∃ param name : Cst, param.Within program ∧ param.NamesParameter name ∧
      s.Writes name node.toDeclaration := by
  rcases (grows_declarations h).get? hnode with hdecl | ⟨old, hold, heq⟩
  · exact hdecl hkind
  · have hsame : old.kind = node.kind := congrArg Declaration.kind heq
    rw [Tree.kind_of_get?_ofUnit hold, hkind] at hsame
    cases hsame

end Source

/-- The tree of a text is that of its concrete syntax tree. -/
theorem declarations_of_parseWith {grammar : List Char → Cst} {unit source : String}
    {tabWidth : UInt64} {t : Tree} (h : parseWith grammar unit source tabWidth = .ok t) :
    (Source.ofText source tabWidth).declarations unit (grammar source.toList) = .ok t := by
  simp only [parseWith, declarations] at h
  split at h
  · cases h
  · exact Except.mapError_eq_ok_iff.1 h

end Java

end JavaLint
