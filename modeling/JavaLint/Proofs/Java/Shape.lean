import JavaLint.Override
import JavaLint.Proofs.Java.Extraction
import JavaLint.Proofs.Java.Walk
import JavaLint.Proofs.Scope.Resolution
import JavaLint.Proofs.Tree.Attempts
/-!
# The shape of trees of declarations

Queries look at the parent of a parameter only, or at the nearest member above
it. That is enough in the trees of declarations that extraction builds: a
parameter stands directly below the declaration that it belongs to, and has
nothing below it.

## Main definitions

- `NodeKind.CanHold` — the kinds of nodes that may stand below a kind
- `Modifiers.Written` — modifiers that can be written down
- `Java.Source.ListsParameters` — the children of a method start with its parameters
- `Java.Source.Shaped` — the shape of a tree of declarations

## Main statements

- `Java.Source.Shaping.step` — a step keeps the shape
- `Java.Source.declarations_shaped` — every tree of declarations has the shape
-/

namespace JavaLint

/-- Nothing stands below parameters. Parameters stand below declarations that fit,
    unless they are caught. -/
def NodeKind.CanHold (above below : NodeKind) : Prop :=
  (∀ k, above ≠ .parameter k) ∧ ∀ k, below = .parameter k → k ≠ .caught → k.Fits (some above)

/-- Modifiers that can be written down: there are no keywords for two of the
    visibilities, and an annotation has a name. -/
structure Modifiers.Written (m : Modifiers) : Prop where
  visibility_ne_pack : m.visibility ≠ some .pack
  visibility_ne_anonInner : m.visibility ≠ some .anonInner
  annotation_name_ne {a : Annotation} : a ∈ m.annotations → a.name ≠ ""

theorem Modifiers.written_default : ({} : Modifiers).Written :=
  ⟨nofun, nofun, fun h => nomatch h⟩

namespace Java

namespace Source

variable {s : Source} {c program : Cst} {y : Yield} {m : Modifiers} {decl : Declaration}
  {pkind : ParamKind} {a : Address}

/-! ## Modifiers -/

theorem addModifier_written (h : m.Written) : (s.addModifier m c).Written := by
  unfold addModifier
  split
  · exact ⟨nofun, nofun, h.annotation_name_ne⟩
  · exact ⟨nofun, nofun, h.annotation_name_ne⟩
  · exact ⟨nofun, nofun, h.annotation_name_ne⟩
  · split
    · dsimp only
      split
      · exact h
      · next hname =>
        refine ⟨h.visibility_ne_pack, h.visibility_ne_anonInner, fun {a} ha => ?_⟩
        rcases List.mem_append.1 ha with ha | ha
        · exact h.annotation_name_ne ha
        · rw [List.mem_singleton.1 ha]
          exact fun hempty => hname (String.isEmpty_iff.2 hempty)
    · exact h
  · exact h

theorem modifiers_written (s : Source) (c : Cst) : (s.modifiers c).Written := by
  unfold modifiers
  split
  · next list _ =>
    -- each node of the list adds to modifiers that can be written down
    exact List.foldlRecOn list.children s.addModifier Modifiers.written_default
      fun m hm d _ => addModifier_written hm
  · exact Modifiers.written_default

theorem Yields.written (h : s.Yields c y) {p parent first : NodeId}
    (hmem : (p, decl) ∈ y.entries parent first) : decl.modifiers.Written := by
  rcases h.modifiers_eq hmem with heq | ⟨d, heq⟩
  · exact heq ▸ Modifiers.written_default
  · exact heq ▸ s.modifiers_written d

/-! ## The shape -/

/-- The node `id` is the method or constructor that `c` declares. Its children start
    with the parameters in the list of `c`, in the order of the list. Of all other
    parameters, only those that are caught are among the others. -/
structure ListsParameters (s : Source) (t : Tree) (id : NodeId) (c : Cst) (others : List NodeId) :
    Prop where
  declared : ∃ kind ident, c.kind.callableKind? = some kind ∧ s.name? c = some ident ∧
    t.declaration? id = some (ident.declare kind (s.modifiers c))
  children_eq : t.children id =
    List.range' (id + 1) (c.parametersBy (s.parametersIn .formal)).length ++ others
  declaration?_param {i : Nat} {a : Address} {decl : Declaration} :
    (c.parametersBy (s.parametersIn .formal))[i]? = some (a, decl) →
      t.declaration? (id + 1 + i) = some decl
  kind_others {o : NodeId} {k : ParamKind} :
    o ∈ others → t.kind? o = some (.parameter k) → k = .caught

/-- The shape of the tree of a program. -/
structure Shaped (s : Source) (program : Cst) (t : Tree) : Prop where
  built : t.Built
  /-- A node stands below one of a kind that can hold it. -/
  canHold {id p : NodeId} : t.parent? id = some p → ∃ above below,
    t.kind? p = some above ∧ t.kind? id = some below ∧ above.CanHold below
  /-- Every method and constructor comes from the program, and lists its parameters first. -/
  listsParameters {id : NodeId} {kind : NodeKind} :
    t.kind? id = some kind → kind = .method ∨ kind = .constructor →
      ∃ c others, c.Within program ∧ s.ListsParameters t id c others
  written {id : NodeId} {decl : Declaration} :
    t.declaration? id = some decl → decl.modifiers.Written

/-- The shape of a tree with nodes that are still pending: they stand in the
    program, and belong to declarations that can hold others. -/
structure Shaping (s : Source) (program : Cst) (t : Tree)
    (pending : List (Address × Extraction.Job)) : Prop extends s.Shaped program t where
  within {a : Address} {job : Extraction.Job} : (a, job) ∈ pending → job.cst.Within program
  holder {a : Address} {job : Extraction.Job} : (a, job) ∈ pending →
    ∃ kind, t.kind? job.parent = some kind ∧ ∀ k, kind ≠ .parameter k

variable {t : Tree} {id parent p : NodeId} {above kind : NodeKind}

theorem shaped_ofUnit (s : Source) (unit : String) (program : Cst) :
    s.Shaped program (Tree.ofUnit unit) where
  built := .ofUnit unit
  canHold {id p} hp := by
    have hwf := Tree.wellFormed_ofUnit unit
    have hid : id = Tree.root := Nat.lt_one_iff.1 (Tree.lt_size_of_parent? hp)
    rw [hid, hwf.parent?_root] at hp
    cases hp
  listsParameters {id kind} hkind hcallable := by
    obtain ⟨node, hnode, rfl⟩ := Option.map_eq_some_iff.1 hkind
    rw [Tree.kind_of_get?_ofUnit hnode] at hcallable
    simp at hcallable
  written {id decl} hdecl := by
    obtain ⟨node, hnode, rfl⟩ := Option.map_eq_some_iff.1 hdecl
    have hid : id = Tree.root := Nat.lt_one_iff.1 (Tree.lt_size_of_get? hnode)
    rw [hid] at hnode
    rw [← Option.some.inj hnode]
    exact Modifiers.written_default

section Step

variable (ht : s.Shaped program t) (hy : s.Yields c y)
  (hattachable : Tree.Attachable t.size (y.entries parent t.size))
  (hparent : t.kind? parent = some above) (hholder : ∀ k, above ≠ .parameter k)

theorem kind?_own (hown : y.own? = some decl) :
    (t.attachedAll (y.entries parent t.size)).kind? t.size = some decl.kind := by
  rw [Tree.kind?_attachedAll, if_neg (Nat.lt_irrefl _), Nat.sub_self, Yield.entries_of_own hown]
  rfl

include hy hattachable in
/-- The children of a callable that a step declares are the parameters of its list. -/
theorem listsParameters_new (hown : y.own? = some decl)
    (hkind : decl.kind = .method ∨ decl.kind = .constructor) :
    s.ListsParameters (t.attachedAll (y.entries parent t.size)) t.size c [] := by
  obtain ⟨kind, ident, hcallable, hname, rfl, hparams⟩ := hy.callable_of_own hown hkind
  have hentries : y.entries parent t.size =
      (parent, ident.declare kind (s.modifiers c)) :: y.params.map fun p => (t.size, p.2) :=
    Yield.entries_of_own hown
  have hlt : parent < t.size := hattachable.lt_size (i := 0) (by rw [hentries]; rfl)
  refine ⟨⟨kind, ident, hcallable, hname, ?_⟩, ?_, fun {i a decl} hparam => ?_, nofun⟩
  · rw [Tree.declaration?_attachedAll, if_neg (Nat.lt_irrefl _), Nat.sub_self, hentries]
    rfl
  · rw [Tree.children_attachedAll hattachable, Tree.children_eq_nil (Nat.le_refl _), hentries,
      Tree.newChildren, if_neg (Nat.ne_of_lt hlt), Tree.newChildren_eq_range', List.length_map,
      hparams, List.append_nil, List.nil_append]
    intro e he
    obtain ⟨_, -, rfl⟩ := List.mem_map.1 he
    rfl
  · have hindex : t.size + 1 + i - t.size = i + 1 := by omega
    have hnew : ¬ t.size + 1 + i < t.size := by omega
    rw [Tree.declaration?_attachedAll, if_neg hnew, hindex, hentries, List.getElem?_cons_succ,
      List.getElem?_map, hparams, hparam]
    rfl

include ht hy

include hparent hholder in
theorem canHold_step {p : NodeId}
    (hp : (t.attachedAll (y.entries parent t.size)).parent? id = some p) :
    ∃ above below, (t.attachedAll (y.entries parent t.size)).kind? p = some above ∧
      (t.attachedAll (y.entries parent t.size)).kind? id = some below ∧ above.CanHold below := by
  rw [Tree.parent?_attachedAll] at hp
  split at hp
  · obtain ⟨above, below, habove, hbelow, hcan⟩ := ht.canHold hp
    exact ⟨above, below, Tree.kind?_attachedAll_of_eq_some habove,
      Tree.kind?_attachedAll_of_eq_some hbelow, hcan⟩
  · next hid =>
    obtain ⟨⟨p, decl⟩, hentry, rfl⟩ := Option.map_eq_some_iff.1 hp
    have hbelow : (t.attachedAll (y.entries parent t.size)).kind? id = some decl.kind := by
      rw [Tree.kind?_attachedAll, if_neg hid, hentry]
      rfl
    rcases Yield.mem_entries.1 (List.mem_of_getElem? hentry) with ⟨hown, rfl⟩ | ⟨⟨a, hmem⟩, rfl⟩
    · refine ⟨above, decl.kind, Tree.kind?_attachedAll_of_eq_some hparent, hbelow, hholder, ?_⟩
      exact fun k hk => absurd hk ((hy.own_kind hown).2 k)
    · obtain ⟨-, k, hk, hfits⟩ := hy.param_kind hmem
      cases hown : y.own? with
      | none =>
        rw [hown] at hfits
        refine ⟨above, decl.kind, ?_, hbelow, hholder, fun k' hk' hne => ?_⟩
        · rw [Yield.owner, hown]
          exact Tree.kind?_attachedAll_of_eq_some hparent
        · obtain rfl := NodeKind.parameter.inj (hk.symm.trans hk')
          exact absurd (ParamKind.eq_caught_of_fits_none hfits) hne
      | some own =>
        rw [hown] at hfits
        refine ⟨own.kind, decl.kind, ?_, hbelow, (hy.own_kind hown).2, fun k' hk' _ => ?_⟩
        · rw [Yield.owner, hown]
          exact kind?_own hown
        · obtain rfl := NodeKind.parameter.inj (hk.symm.trans hk')
          exact hfits

include hattachable

/-- The children of an old callable: new ones come last, and are no parameters
    other than caught ones. -/
theorem listsParameters_old {others : List NodeId} {d : Cst} (hid : id < t.size)
    (hlists : s.ListsParameters t id d others) :
    s.ListsParameters (t.attachedAll (y.entries parent t.size)) id d
      (others ++ Tree.newChildren id t.size (y.entries parent t.size)) where
  declared := by
    obtain ⟨kind, ident, hcallable, hname, hdecl⟩ := hlists.declared
    exact ⟨kind, ident, hcallable, hname, Tree.declaration?_attachedAll_of_eq_some hdecl⟩
  children_eq := by
    rw [Tree.children_attachedAll hattachable, hlists.children_eq, List.append_assoc]
  declaration?_param hparam :=
    Tree.declaration?_attachedAll_of_eq_some (hlists.declaration?_param hparam)
  kind_others {o k} ho hkind := by
    rw [Tree.kind?_attachedAll] at hkind
    rcases List.mem_append.1 ho with hold | hnew
    · have hchild : o ∈ t.children id := hlists.children_eq ▸ List.mem_append_right _ hold
      have hlt := Tree.lt_size_of_parent? (ht.built.wellFormed.mem_children.1 hchild)
      rw [if_pos hlt] at hkind
      exact hlists.kind_others hold hkind
    · obtain ⟨i, decl, rfl, hentry⟩ := Tree.mem_newChildren.1 hnew
      rw [if_neg (Nat.not_lt.2 (Nat.le_add_right _ _)), Nat.add_sub_cancel_left, hentry] at hkind
      have hdecl : decl.kind = .parameter k := Option.some.inj hkind
      rcases Yield.mem_entries.1 (List.mem_of_getElem? hentry) with ⟨hown, -⟩ | ⟨⟨a, hmem⟩, howner⟩
      · exact absurd hdecl ((hy.own_kind hown).2 k)
      · -- the node existed before, so it is not the one that the step declares
        obtain ⟨-, k', hk', hfits⟩ := hy.param_kind hmem
        obtain rfl := NodeKind.parameter.inj (hk'.symm.trans hdecl)
        cases hown : y.own? with
        | none =>
          rw [hown] at hfits
          exact ParamKind.eq_caught_of_fits_none hfits
        | some own =>
          rw [Yield.owner, hown] at howner
          exact absurd howner (Nat.ne_of_lt hid)

theorem listsParameters_step (hc : c.Within program)
    (hkind : (t.attachedAll (y.entries parent t.size)).kind? id = some kind)
    (hcallable : kind = .method ∨ kind = .constructor) :
    ∃ d others, d.Within program ∧
      s.ListsParameters (t.attachedAll (y.entries parent t.size)) id d others := by
  rw [Tree.kind?_attachedAll] at hkind
  split at hkind
  · next hid =>
    obtain ⟨d, others, hd, hlists⟩ := ht.listsParameters hkind hcallable
    exact ⟨d, _, hd, listsParameters_old ht hy hattachable hid hlists⟩
  · next hid =>
    obtain ⟨⟨p, decl⟩, hentry, rfl⟩ := Option.map_eq_some_iff.1 hkind
    have hparam : ∀ a, (a, decl) ∉ y.params := by
      intro a hmem
      obtain ⟨-, k, hk, -⟩ := hy.param_kind hmem
      simp [hk] at hcallable
    -- so the declaration is the own one, which is the first of all
    rcases Yield.mem_entries.1 (List.mem_of_getElem? hentry) with ⟨hown, -⟩ | ⟨⟨a, hmem⟩, -⟩
    · have hfirst : id = t.size := by
        rw [Yield.entries_of_own hown] at hentry
        cases hindex : id - t.size with
        | zero => exact Nat.le_antisymm (Nat.sub_eq_zero_iff_le.1 hindex) (Nat.not_lt.1 hid)
        | succ n =>
          rw [hindex, List.getElem?_cons_succ, List.getElem?_map] at hentry
          obtain ⟨⟨a, decl'⟩, hmem, heq⟩ := Option.map_eq_some_iff.1 hentry
          obtain ⟨-, rfl⟩ := Prod.mk.inj heq
          exact absurd (List.mem_of_getElem? hmem) (hparam a)
      rw [hfirst]
      exact ⟨c, [], hc, listsParameters_new hy hattachable hown hcallable⟩
    · exact absurd hmem (hparam a)

theorem Shaped.step {above : NodeKind} (hc : c.Within program)
    (hparent : t.kind? parent = some above) (hholder : ∀ k, above ≠ .parameter k) :
    s.Shaped program (t.attachedAll (y.entries parent t.size)) where
  built := ht.built.attachedAll hattachable
  canHold := canHold_step ht hy hparent hholder
  listsParameters := listsParameters_step ht hy hattachable hc
  written {id decl} hdecl := by
    rw [Tree.declaration?_attachedAll] at hdecl
    split at hdecl
    · exact ht.written hdecl
    · obtain ⟨⟨p, decl⟩, hentry, rfl⟩ := Option.map_eq_some_iff.1 hdecl
      exact hy.written (List.mem_of_getElem? hentry)

end Step

variable {job : Extraction.Job} {pending : List (Address × Extraction.Job)}

/-- A step keeps the shape, and goes on with nodes below declarations that can hold
    what they declare. -/
theorem Shaping.step (h : s.Shaping program t ((a, job) :: pending)) (hy : s.Yields job.cst y)
    (hattachable : Tree.Attachable t.size (y.entries job.parent t.size)) :
    s.Shaping program (t.attachedAll (y.entries job.parent t.size))
      (Address.under a (y.pending job.parent t.size) ++ pending) := by
  obtain ⟨above, hparent, hholder⟩ := h.holder List.mem_cons_self
  have hc := h.within List.mem_cons_self
  refine ⟨h.toShaped.step hy hattachable hc hparent hholder, fun {b job'} hmem => ?_,
    fun {b job'} hmem => ?_⟩
  · rcases List.mem_append.1 hmem with hnew | hold
    · obtain ⟨rest, -, hnew⟩ := Address.mem_under.1 hnew
      exact (Cst.within_of_at? (hy.at?_of_mem_pending hnew).2).trans hc
    · exact h.within (List.mem_cons_of_mem _ hold)
  · rcases List.mem_append.1 hmem with hnew | hold
    · obtain ⟨rest, -, hnew⟩ := Address.mem_under.1 hnew
      rcases Yield.mem_pending.1 hnew with ⟨-, heq⟩ | ⟨hinside, heq⟩
      · rw [heq]
        exact ⟨above, Tree.kind?_attachedAll_of_eq_some hparent, hholder⟩
      · rw [heq]
        cases hown : y.own? with
        | none => rw [hy.inside_eq_nil hown] at hinside; cases hinside
        | some own => exact ⟨own.kind, kind?_own hown, (hy.own_kind hown).2⟩
    · obtain ⟨kind, hkind, hholder⟩ := h.holder (List.mem_cons_of_mem _ hold)
      exact ⟨kind, Tree.kind?_attachedAll_of_eq_some hkind, hholder⟩

/-! ## Queries on parameters -/

theorem Shaped.children_eq_nil (h : s.Shaped program t) {k : ParamKind}
    (hkind : t.kind? id = some (.parameter k)) : t.children id = [] := by
  refine List.eq_nil_iff_forall_not_mem.2 fun child hchild => ?_
  obtain ⟨above, below, habove, -, hcan⟩ := h.canHold (h.built.wellFormed.mem_children.1 hchild)
  rw [hkind] at habove
  exact hcan.1 k (Option.some.inj habove).symm

/-- A parameter that is not caught stands directly below a declaration that it fits. -/
theorem Shaped.exists_parent (h : s.Shaped program t) {k : ParamKind}
    (hkind : t.kind? id = some (.parameter k)) (hk : k ≠ .caught) :
    ∃ p above, t.parent? id = some p ∧ t.kind? p = some above ∧ k.Fits (some above) := by
  have hroot : id ≠ Tree.root := by
    intro hroot
    rw [h.built.isArena.kind?_eq_compilationUnit.2 hroot] at hkind
    cases hkind
  obtain ⟨p, hp⟩ := h.built.wellFormed.exists_parent (Tree.lt_size_of_kind? hkind) hroot
  obtain ⟨above, below, habove, hbelow, hcan⟩ := h.canHold hp
  rw [hkind] at hbelow
  exact ⟨p, above, hp, habove, hcan.2 k (Option.some.inj hbelow).symm hk⟩

theorem Shaped.exists_callable (h : s.Shaped program t)
    (hkind : t.kind? id = some (.parameter .formal)) :
    ∃ p kind, t.parent? id = some p ∧ t.kind? p = some kind ∧
      (kind = .method ∨ kind = .constructor) := by
  obtain ⟨p, kind, hp, hpkind, hfits⟩ := h.exists_parent hkind nofun
  exact ⟨p, kind, hp, hpkind, hfits.imp Option.some.inj Option.some.inj⟩

theorem Shaped.isSome_nearestMethod? (h : s.Shaped program t)
    (hkind : t.kind? id = some (.parameter .formal)) : (t.nearestMethod? id).isSome := by
  obtain ⟨p, kind, hp, hpkind, hcallable⟩ := h.exists_callable hkind
  obtain ⟨node, hnode, rfl⟩ := Option.map_eq_some_iff.1 hpkind
  have hany : (t.get? p).any (fun node => node.kind == .method || node.kind == .constructor) := by
    rw [hnode]
    simpa using hcallable
  rw [Tree.nearestMethod?, hp]
  simp only [hany, if_true, Option.isSome_some]

/-- A formal parameter in an anonymous class has the scope of such classes: so has
    its method, which is the nearest member. -/
theorem Shaped.resolvedScope_of_inAnonymousClass (h : s.Shaped program t)
    (hkind : t.kind? id = some (.parameter .formal)) (hin : t.InAnonymousClass id) :
    t.resolvedScope id = .anonInner := by
  have hwf := h.built.wellFormed
  obtain ⟨p, kind, hp, hpkind, hcallable⟩ := h.exists_callable hkind
  have hmember : t.IsMember p := ⟨kind, hpkind, by rcases hcallable with rfl | rfl <;> rfl⟩
  have hself : ¬ t.IsMember id := by
    rintro ⟨kind', hkind', hmember'⟩
    rw [hkind] at hkind'
    rw [← Option.some.inj hkind'] at hmember'
    cases hmember'
  refine hwf.resolvedScope_of_inAnonymousClass (.above hself hp (.self hmember)) ?_
  obtain ⟨a, ha, hanonymous⟩ := hin
  rcases (hwf.mem_ancestors_iff hp).1 ha with rfl | habove
  · rw [hpkind] at hanonymous
    rcases hcallable with rfl | rfl <;> cases hanonymous
  · exact ⟨a, habove, hanonymous⟩

theorem exists_shaped (s : Source) (unit : String) (program : Cst) :
    ∃ t, s.declarations unit program = .ok t ∧ s.Shaped program t := by
  obtain ⟨log, t, hwalk, ht⟩ := s.exists_walk_declarations unit program
  have hstart : s.Shaping program (Tree.ofUnit unit) [([], ⟨program, Tree.root⟩)] := by
    refine ⟨s.shaped_ofUnit unit program, fun {a job} hmem => ?_, fun {a job} hmem => ?_⟩
    · obtain ⟨-, rfl⟩ := Prod.mk.inj (List.mem_singleton.1 hmem)
      exact .refl program
    · obtain ⟨-, rfl⟩ := Prod.mk.inj (List.mem_singleton.1 hmem)
      exact ⟨.compilationUnit, rfl, nofun⟩
  have hend := hwalk.induction (P := fun _ t pending => s.Shaping program t pending)
    (fun hy hattachable h => h.step hy.yields hattachable) hstart
  exact ⟨t, ht, hend.toShaped⟩

/-- Every program has a tree of declarations, and that has the shape: parameters have
    no children and, unless they are caught, stand below a declaration that fits.
    A formal parameter therefore has a method or constructor, and the scope of
    anonymous classes if it stands in one. -/
theorem declarations_shaped (s : Source) (unit : String) (program : Cst) :
    ∃ t, s.declarations unit program = .ok t ∧ s.Shaped program t ∧
      (∀ id k, t.kind? id = some (.parameter k) → t.children id = [] ∧
        (k ≠ .caught → ∃ p above, t.parent? id = some p ∧ t.kind? p = some above ∧
          k.Fits (some above))) ∧
      ∀ id, t.kind? id = some (.parameter .formal) →
        (t.nearestMethod? id).isSome ∧
          (t.InAnonymousClass id → t.resolvedScope id = .anonInner) := by
  obtain ⟨t, ht, hshaped⟩ := s.exists_shaped unit program
  refine ⟨t, ht, hshaped, fun id k hkind => ?_, fun id hkind => ?_⟩
  · exact ⟨hshaped.children_eq_nil hkind, hshaped.exists_parent hkind⟩
  · exact ⟨hshaped.isSome_nearestMethod? hkind, hshaped.resolvedScope_of_inAnonymousClass hkind⟩

end Source

end Java

end JavaLint
