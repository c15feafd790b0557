import JavaLint.Proofs.Except
import JavaLint.Proofs.Tree.Push
import JavaLint.Scope.Resolution
/-!
# Trees that grow

What becomes of a tree when declarations are attached one after the other: the
old nodes stay what they are, and the new ones are numbered in order.

## Main definitions

- `Tree.Grows` — a tree with more declarations, all of a kind
- `Tree.declaration?` — what a node declares, apart from its place in the tree
- `Tree.pushAll`, `Tree.attachedAll` — a list of declarations, each with its parent
- `Tree.Attachable` — the lists that can be attached
- `Tree.childDeclarations` — what the children of a node declare

## Main statements

- `Tree.pushAll_eq_ok_iff` — when a list is attached, and what comes of it
- `Tree.declaration?_attachedAll`, `Tree.parent?_attachedAll`, `Tree.children_attachedAll`,
  `Tree.childDeclarations_attachedAll` — the tree that results
-/

namespace JavaLint.Tree

variable {P Q : Declaration → Prop} {t t' t'' : Tree} {id parent : NodeId} {node : TreeNode}
  {decl : Declaration} {kind : NodeKind}

/-! ## Growth -/

/-- The second tree is the first one with declarations attached one after the
    other, each of which `P` holds for. -/
inductive Grows (P : Declaration → Prop) : Tree → Tree → Prop
  | refl (t : Tree) : Grows P t t
  | push {t t' t'' : Tree} {parent id : NodeId} {decl : Declaration} :
      Grows P t t' → P decl → t'.push parent decl = .ok (t'', id) → Grows P t t''

theorem Grows.trans (h : Grows P t t') (h' : Grows P t' t'') : Grows P t t'' := by
  induction h' with
  | refl => exact h
  | push _ hdecl hpush ih => exact .push ih hdecl hpush

theorem Grows.mono (h : Grows P t t') (hPQ : ∀ decl, P decl → Q decl) : Grows Q t t' := by
  induction h with
  | refl => exact .refl _
  | push _ hdecl hpush ih => exact .push ih (hPQ _ hdecl) hpush

theorem Grows.built (h : Grows P t t') (ht : t.Built) : t'.Built := by
  induction h with
  | refl => exact ht
  | push _ _ hpush ih => exact .push ih hpush

theorem kind_of_get?_ofUnit {unit : String} (h : (ofUnit unit).get? id = some node) :
    node.kind = .compilationUnit := by
  have hid : id = root := Nat.lt_one_iff.1 (lt_size_of_get? h)
  rw [hid] at h
  rw [← Option.some.inj h]
  rfl

/-- A node of the larger tree is one of the smaller tree or one of the
    declarations that were attached. -/
theorem Grows.get? (h : Grows P t t') (hid : t'.get? id = some node) :
    P node.toDeclaration ∨
      ∃ old, t.get? id = some old ∧ old.toDeclaration = node.toDeclaration := by
  -- an attachment changes no old declaration, only the list of children of one node
  induction h generalizing id node with
  | refl => exact .inr ⟨node, hid, rfl⟩
  | push _ hdecl hpush ih =>
    obtain ⟨-, -, -, rfl, -⟩ := push_eq_ok_iff.1 hpush
    rw [get?_attached] at hid
    split at hid
    · rw [← Option.some.inj hid]
      exact .inl hdecl
    · split at hid
      · obtain ⟨old, hold, rfl⟩ := Option.map_eq_some_iff.1 hid
        have hsmall := ih hold
        exact hsmall
      · exact ih hid

/-! ## What nodes declare -/

/-- What a node declares, apart from its place in the tree. -/
def declaration? (t : Tree) (id : NodeId) : Option Declaration :=
  (t.get? id).map TreeNode.toDeclaration

theorem kind?_eq (t : Tree) (id : NodeId) : t.kind? id = (t.declaration? id).map (·.kind) := by
  rw [kind?, declaration?, Option.map_map]
  rfl

theorem exists_declaration?_of_kind? (h : t.kind? id = some kind) :
    ∃ decl, t.declaration? id = some decl ∧ decl.kind = kind := by
  rw [kind?_eq] at h
  exact Option.map_eq_some_iff.1 h

theorem lt_size_of_declaration? (h : t.declaration? id = some decl) : id < t.size := by
  obtain ⟨node, hnode, -⟩ := Option.map_eq_some_iff.1 h
  exact lt_size_of_get? hnode

theorem lt_size_of_kind? (h : t.kind? id = some kind) : id < t.size := by
  obtain ⟨decl, hdecl, -⟩ := exists_declaration?_of_kind? h
  exact lt_size_of_declaration? hdecl

theorem declaration?_attached : (t.attached parent decl).declaration? id =
    if id = t.size then some decl else t.declaration? id := by
  unfold declaration?
  rw [get?_attached]
  split
  · rfl
  · split
    · cases t.get? id <;> rfl
    · rfl

theorem kind?_attached :
    (t.attached parent decl).kind? id = if id = t.size then some decl.kind else t.kind? id := by
  rw [kind?_eq, declaration?_attached, kind?_eq]
  split <;> rfl

/-! ## Lists of declarations -/

/-- Attaches declarations one after the other, each below its own parent. -/
def pushAll (t : Tree) (entries : List (NodeId × Declaration)) : Except TreeError Tree :=
  entries.foldlM (fun t (parent, decl) => Prod.fst <$> t.push parent decl) t

/-- The tree with a list of declarations. -/
def attachedAll (t : Tree) (entries : List (NodeId × Declaration)) : Tree :=
  entries.foldl (fun t (parent, decl) => t.attached parent decl) t

/-- A list of declarations that a tree with `size` nodes can take: each one has a
    name, is no compilation unit, and has a parent that exists by then. -/
def Attachable (size : Nat) : List (NodeId × Declaration) → Prop
  | [] => True
  | (parent, decl) :: rest =>
    (parent < size ∧ decl.kind ≠ .compilationUnit ∧ decl.ident.isEmpty = false) ∧
      Attachable (size + 1) rest

variable {entries rest : List (NodeId × Declaration)} {size : Nat}

theorem attachedAll_cons :
    t.attachedAll ((parent, decl) :: entries) = (t.attached parent decl).attachedAll entries :=
  rfl

theorem pushAll_singleton : t.pushAll [(parent, decl)] = Prod.fst <$> t.push parent decl :=
  bind_pure (m := Except TreeError) _

/-- A list is attached if it can be, and not at all otherwise. -/
theorem pushAll_eq_ok_iff :
    t.pushAll entries = .ok t' ↔ Attachable t.size entries ∧ t' = t.attachedAll entries := by
  induction entries generalizing t with
  | nil => exact ⟨fun h => ⟨trivial, (Except.ok.inj h).symm⟩, fun h => congrArg _ h.2.symm⟩
  | cons e rest ih =>
    obtain ⟨parent, decl⟩ := e
    rw [pushAll, List.foldlM_cons, Except.bind_eq_ok_iff]
    constructor
    · rintro ⟨t₁, hfirst, hrest⟩
      obtain ⟨⟨t₂, id⟩, hpush, rfl⟩ := Except.map_eq_ok_iff.1 hfirst
      obtain ⟨hparent, hkind, hident, rfl, -⟩ := push_eq_ok_iff.1 hpush
      obtain ⟨hattachable, heq⟩ := ih.1 hrest
      rw [size_attached] at hattachable
      exact ⟨⟨⟨hparent, hkind, hident⟩, hattachable⟩, heq⟩
    · rintro ⟨⟨⟨hparent, hkind, hident⟩, hattachable⟩, heq⟩
      refine ⟨t.attached parent decl, ?_, ih.2 ⟨size_attached ▸ hattachable, heq⟩⟩
      exact Except.map_eq_ok_iff.2 ⟨_, push_eq_ok_iff.2 ⟨hparent, hkind, hident, rfl, rfl⟩, rfl⟩

theorem grows_of_pushAll (h : t.pushAll entries = .ok t') (hP : ∀ e ∈ entries, P e.2) :
    t.Grows P t' := by
  refine List.foldlM_eq_ok_induction (P := fun t' => t.Grows P t') h (.refl t) ?_
  rintro ⟨parent, decl⟩ hmem t₁ t₂ hstep hgrows
  obtain ⟨⟨t₃, id⟩, hpush, rfl⟩ := Except.map_eq_ok_iff.1 hstep
  exact .push hgrows (hP _ hmem) hpush

theorem Attachable.lt_size (h : Attachable size entries) {i : Nat}
    (hi : entries[i]? = some (parent, decl)) : parent < size + i := by
  induction entries generalizing size i with
  | nil => simp at hi
  | cons e entries ih =>
    cases i with
    | zero =>
      obtain rfl := Option.some.inj hi
      exact h.1.1
    | succ i =>
      rw [List.getElem?_cons_succ] at hi
      exact Nat.lt_of_lt_of_eq (ih h.2 hi) (Nat.add_right_comm size 1 i)

@[simp] theorem size_attachedAll : (t.attachedAll entries).size = t.size + entries.length := by
  induction entries generalizing t with
  | nil => rfl
  | cons e entries ih =>
    rw [attachedAll_cons, ih, size_attached, List.length_cons, Nat.add_assoc, Nat.add_comm 1]

/-- An observation that an attachment settles for the new node, and leaves as it
    is for all others, is settled by a list for each of its nodes. -/
theorem observe_attachedAll {β : Type} {observe : Tree → NodeId → Option β}
    {of : NodeId × Declaration → β}
    (hattached : ∀ t parent decl id, observe (t.attached parent decl) id =
      if id = t.size then some (of (parent, decl)) else observe t id)
    (hnone : ∀ t id, t.size ≤ id → observe t id = none) :
    observe (t.attachedAll entries) id =
      if id < t.size then observe t id else (entries[id - t.size]?).map of := by
  induction entries generalizing t with
  | nil =>
    split
    · rfl
    · next hlt => exact hnone t id (Nat.not_lt.1 hlt)
  | cons e entries ih =>
    obtain ⟨parent, decl⟩ := e
    rw [attachedAll_cons, ih, hattached, size_attached]
    rcases Nat.lt_trichotomy id t.size with hlt | rfl | hgt
    · rw [if_pos hlt, if_pos (Nat.lt_succ_of_lt hlt), if_neg (Nat.ne_of_lt hlt)]
    · rw [if_pos (Nat.lt_succ_self _), if_neg (Nat.lt_irrefl _), if_pos rfl, Nat.sub_self]
      rfl
    · obtain ⟨k, rfl⟩ := Nat.exists_eq_add_of_lt hgt
      have hfirst : t.size + k + 1 - t.size = k + 1 := by omega
      have hrest : t.size + k + 1 - (t.size + 1) = k := by omega
      rw [if_neg (Nat.not_lt.2 (by omega)), if_neg (Nat.not_lt_of_gt hgt), hfirst, hrest,
        List.getElem?_cons_succ]

theorem declaration?_eq_none (h : t.size ≤ id) : t.declaration? id = none := by
  rw [declaration?, get?_eq_none h, Option.map_none]

theorem parent?_eq_none (h : t.size ≤ id) : t.parent? id = none := by
  rw [parent?, get?_eq_none h, Option.bind_none]

theorem children_eq_nil (h : t.size ≤ id) : t.children id = [] := by
  rw [children, get?_eq_none h]

theorem Built.attachedAll (h : t.Built) (hentries : Attachable t.size entries) :
    (t.attachedAll entries).Built :=
  (grows_of_pushAll (pushAll_eq_ok_iff.2 ⟨hentries, rfl⟩) (P := fun _ => True)
    fun _ _ => trivial).built h

theorem declaration?_attachedAll : (t.attachedAll entries).declaration? id =
    if id < t.size then t.declaration? id else (entries[id - t.size]?).map Prod.snd :=
  observe_attachedAll (fun _ _ _ _ => declaration?_attached) fun _ _ => declaration?_eq_none

theorem parent?_attachedAll : (t.attachedAll entries).parent? id =
    if id < t.size then t.parent? id else (entries[id - t.size]?).map Prod.fst :=
  observe_attachedAll (fun _ _ _ _ => parent?_attached) fun _ _ => parent?_eq_none

theorem kind?_attachedAll : (t.attachedAll entries).kind? id =
    if id < t.size then t.kind? id else (entries[id - t.size]?).map (·.2.kind) := by
  rw [kind?_eq, declaration?_attachedAll, kind?_eq]
  split
  · rfl
  · rw [Option.map_map]
    rfl

theorem declaration?_attachedAll_of_eq_some (h : t.declaration? id = some decl) :
    (t.attachedAll entries).declaration? id = some decl := by
  rw [declaration?_attachedAll, if_pos (lt_size_of_declaration? h), h]

theorem kind?_attachedAll_of_eq_some (h : t.kind? id = some kind) :
    (t.attachedAll entries).kind? id = some kind := by
  rw [kind?_attachedAll, if_pos (lt_size_of_kind? h), h]

theorem parent?_attachedAll_of_eq_some (h : t.parent? id = some parent) :
    (t.attachedAll entries).parent? id = some parent := by
  rw [parent?_attachedAll, if_pos (lt_size_of_parent? h), h]

/-- The indices that the entries with a given parent get, the first entry getting `first`. -/
def newChildren (parent : NodeId) : NodeId → List (NodeId × Declaration) → List NodeId
  | _, [] => []
  | first, (owner, _) :: rest =>
    if owner = parent then first :: newChildren parent (first + 1) rest
    else newChildren parent (first + 1) rest

theorem mem_newChildren {first : NodeId} : id ∈ newChildren parent first entries ↔
    ∃ i decl, id = first + i ∧ entries[i]? = some (parent, decl) := by
  induction entries generalizing first with
  | nil => simp [newChildren]
  | cons e entries ih =>
    obtain ⟨owner, decl⟩ := e
    have hrest : (∃ i decl, id = first + 1 + i ∧ entries[i]? = some (parent, decl)) ↔
        ∃ i decl', id = first + (i + 1) ∧ ((owner, decl) :: entries)[i + 1]? = some (parent, decl') := by
      simp only [Nat.add_assoc, Nat.add_comm 1, List.getElem?_cons_succ]
    rw [← Nat.or_exists_add_one, ← hrest, newChildren]
    split
    · next howner => simp [ih, howner]
    · next howner => simp [ih, howner]

theorem newChildren_eq_range' {first : NodeId} (h : ∀ e ∈ entries, e.1 = parent) :
    newChildren parent first entries = List.range' first entries.length := by
  induction entries generalizing first with
  | nil => rfl
  | cons e entries ih =>
    obtain ⟨howner, hrest⟩ := List.forall_mem_cons.1 h
    rw [newChildren, if_pos howner, ih hrest, List.length_cons, List.range'_succ]

/-- The new nodes come after the old children of their parents. -/
theorem children_attachedAll (h : Attachable t.size entries) :
    (t.attachedAll entries).children id = t.children id ++ newChildren id t.size entries := by
  induction entries generalizing t with
  | nil => exact (List.append_nil _).symm
  | cons e entries ih =>
    obtain ⟨owner, decl⟩ := e
    rw [attachedAll_cons, ih (size_attached ▸ h.2), children_attached h.1.1, size_attached,
      newChildren]
    by_cases howner : id = owner
    · rw [if_pos howner, if_pos howner.symm, List.append_assoc, List.singleton_append]
    · rw [if_neg howner, if_neg (Ne.symm howner)]

/-! ## What children declare -/

/-- What the children of a node declare. -/
def childDeclarations (t : Tree) (id : NodeId) : List Declaration :=
  (t.children id).filterMap t.declaration?

theorem childDeclarations_eq_nil (h : t.size ≤ id) : t.childDeclarations id = [] := by
  rw [childDeclarations, children_eq_nil h, List.filterMap_nil]

theorem childDeclarations_attached (ht : t.WellFormed) (hparent : parent < t.size) :
    (t.attached parent decl).childDeclarations id =
      if id = parent then t.childDeclarations id ++ [decl] else t.childDeclarations id := by
  have hold : (t.children id).filterMap (t.attached parent decl).declaration? =
      t.childDeclarations id := by
    refine List.filterMap_congr fun c hc => ?_
    have hlt := lt_size_of_parent? (ht.mem_children.1 hc)
    rw [declaration?_attached, if_neg (Nat.ne_of_lt hlt)]
  rw [childDeclarations, children_attached hparent]
  split
  · rw [List.filterMap_append, hold, List.filterMap_cons_some, List.filterMap_nil]
    rw [declaration?_attached, if_pos rfl]
  · exact hold

/-- The new declarations come after those of the old children of their parents. -/
theorem childDeclarations_attachedAll (ht : t.WellFormed) (h : Attachable t.size entries) :
    (t.attachedAll entries).childDeclarations id =
      t.childDeclarations id ++ (entries.filter (·.1 == id)).map Prod.snd := by
  induction entries generalizing t with
  | nil => exact (List.append_nil _).symm
  | cons e entries ih =>
    obtain ⟨owner, decl⟩ := e
    rw [attachedAll_cons, ih (ht.attached h.1.1) (size_attached ▸ h.2),
      childDeclarations_attached ht h.1.1, List.filter_cons]
    by_cases howner : id = owner
    · simp [howner]
    · simp [howner, Ne.symm howner]

end JavaLint.Tree
