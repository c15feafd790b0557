import JavaLint.Tree
/-!
# Trees built by attaching declarations

Every tree starts as an empty compilation unit and grows by one declaration at
a time. This file says what one attachment changes and which invariant all the
trees built that way have in common.

## Main definitions

- `Tree.attached` — the tree with one more declaration
- `Tree.Built` — the trees that attachments lead to
- `Tree.WellFormed` — parents and children name each other, and parents come first

## Main statements

- `Tree.push_eq_ok_iff` — when an attachment succeeds, and what it results in
- `Tree.Built.wellFormed` — every tree that is built is well formed
-/

namespace JavaLint.Tree

variable {t t' : Tree} {parent id c : NodeId} {decl : Declaration} {node : TreeNode}

/-- The tree with a declaration as the last child of `parent`. -/
def attached (t : Tree) (parent : NodeId) (decl : Declaration) : Tree :=
  ⟨(t.nodes.modify parent fun node => { node with children := node.children.push t.size }).push
    { decl with parent := some parent }⟩

/-- An attachment succeeds if the parent exists, the declaration is no
    compilation unit and has a name. -/
theorem push_eq_ok_iff :
    t.push parent decl = .ok (t', id) ↔
      parent < t.size ∧ decl.kind ≠ .compilationUnit ∧ decl.ident.isEmpty = false ∧
        t' = t.attached parent decl ∧ id = t.size := by
  unfold push
  split
  · next h => simp [Nat.not_lt.2 h]
  · next h =>
    split
    · next hk => simp [hk]
    · next hk =>
      split
      · next hi => simp [hi]
      · next hi =>
        simp only [Except.ok.injEq, Prod.mk.injEq, Nat.not_le.1 h, Bool.not_eq_true _ ▸ hi, true_and,
          ne_eq, hk, not_false_eq_true]
        exact and_congr eq_comm eq_comm

@[simp] theorem size_attached : (t.attached parent decl).size = t.size + 1 := by
  simp [attached, size]

theorem get?_attached :
    (t.attached parent decl).get? id =
      if id = t.size then some { decl with parent := some parent }
      else if id = parent then
        (t.get? id).map fun node => { node with children := node.children.push t.size }
      else t.get? id := by
  unfold attached get?
  rw [Array.getElem?_push, Array.size_modify, Array.getElem?_modify]
  simp only [size, eq_comm]

theorem get?_eq_none (h : t.size ≤ id) : t.get? id = none :=
  Array.getElem?_eq_none h

theorem lt_size_of_get? (h : t.get? id = some node) : id < t.size :=
  (Array.getElem?_eq_some_iff.1 h).1

theorem get?_of_lt_size (h : id < t.size) : ∃ node, t.get? id = some node :=
  ⟨t.nodes[id], Array.getElem?_eq_getElem h⟩

theorem parent?_attached :
    (t.attached parent decl).parent? id =
      if id = t.size then some parent else t.parent? id := by
  unfold parent?
  rw [get?_attached]
  split
  · rfl
  · split
    · cases t.get? id <;> rfl
    · rfl

theorem children_attached (h : parent < t.size) :
    (t.attached parent decl).children id =
      if id = parent then t.children id ++ [t.size] else t.children id := by
  unfold children
  rw [get?_attached]
  by_cases hid : id = t.size
  -- the new node starts without children, like an index out of range
  · have hne : id ≠ parent := hid ▸ Nat.ne_of_gt h
    rw [if_pos hid, if_neg hne, get?_eq_none (Nat.le_of_eq hid.symm)]
  · rw [if_neg hid]
    by_cases hp : id = parent
    · obtain ⟨node, hnode⟩ := get?_of_lt_size h
      simp [hp, hnode]
    · rw [if_neg hp, if_neg hp]

/-- The trees that start as an empty compilation unit and grow by attachments. -/
inductive Built : Tree → Prop
  | ofUnit (unit : String) : Built (.ofUnit unit)
  | push {t t' : Tree} {parent id : NodeId} {decl : Declaration} :
      Built t → t.push parent decl = .ok (t', id) → Built t'

theorem Built.attached (h : t.Built) (hp : parent < t.size) (hk : decl.kind ≠ .compilationUnit)
    (hi : decl.ident.isEmpty = false) : (t.attached parent decl).Built :=
  .push h (push_eq_ok_iff.2 ⟨hp, hk, hi, rfl, rfl⟩)

/-- Node 0 is the only one without a parent. A parent has a smaller index than
    its children, and the children of a node are the nodes that name it as
    their parent, in the order of their indices. -/
structure WellFormed (t : Tree) : Prop where
  size_pos : 0 < t.size
  parent?_root : t.parent? root = none
  exists_parent {id : NodeId} : id < t.size → id ≠ root → ∃ p, t.parent? id = some p
  parent_lt {id p : NodeId} : t.parent? id = some p → p < id
  mem_children {c p : NodeId} : c ∈ t.children p ↔ t.parent? c = some p
  children_increase (p : NodeId) : (t.children p).Pairwise (· < ·)

theorem lt_size_of_parent? {p : NodeId} (h : t.parent? id = some p) : id < t.size := by
  obtain ⟨node, hnode, -⟩ := Option.bind_eq_some_iff.1 h
  exact lt_size_of_get? hnode

theorem wellFormed_ofUnit (unit : String) : (ofUnit unit).WellFormed := by
  have hsize : (ofUnit unit).size = 1 := rfl
  have hparent : ∀ id, (ofUnit unit).parent? id = none := by
    intro id
    rcases Nat.eq_zero_or_pos id with rfl | h
    · rfl
    · rw [parent?, get?_eq_none (hsize ▸ h)]
      rfl
  have hchildren : ∀ id, (ofUnit unit).children id = [] := by
    intro id
    rcases Nat.eq_zero_or_pos id with rfl | h
    · rfl
    · rw [children, get?_eq_none (hsize ▸ h)]
  refine ⟨by omega, hparent _, ?_, ?_, ?_, ?_⟩
  · intro id hlt hne
    exact absurd (Nat.lt_one_iff.1 (hsize ▸ hlt)) hne
  · intro id p h
    simp [hparent] at h
  · intro c p
    simp [hparent, hchildren]
  · intro p
    simp [hchildren]

/-- An attachment keeps a tree well formed. -/
theorem WellFormed.attached (h : t.WellFormed) (hp : parent < t.size) :
    (t.attached parent decl).WellFormed where
  size_pos := by simp
  parent?_root := by
    have hroot : root ≠ t.size := Nat.ne_of_lt h.size_pos
    rw [parent?_attached, if_neg hroot]
    exact h.parent?_root
  exists_parent {id} hlt hne := by
    rw [parent?_attached]
    split
    · exact ⟨parent, rfl⟩
    · next hid =>
      rw [size_attached] at hlt
      exact h.exists_parent (Nat.lt_of_le_of_ne (Nat.le_of_lt_succ hlt) hid) hne
  parent_lt {id p} hid := by
    rw [parent?_attached] at hid
    split at hid
    · next heq =>
      rw [← Option.some.inj hid, heq]
      exact hp
    · exact h.parent_lt hid
  mem_children {c p} := by
    -- the new node is a child of `parent` alone, and no old node changes its parent
    have hnew : ∀ q, t.size ∉ t.children q := fun q hq =>
      Nat.lt_irrefl _ (lt_size_of_parent? (h.mem_children.1 hq))
    rw [children_attached hp, parent?_attached]
    by_cases hc : c = t.size
    · subst hc
      by_cases hpp : p = parent
      · simp [hpp]
      · simp [hpp, Ne.symm hpp, hnew]
    · by_cases hpp : p = parent
      · simp [hpp, hc, h.mem_children]
      · simp [hpp, hc, h.mem_children]
  children_increase p := by
    rw [children_attached hp]
    split
    · refine List.pairwise_append.2 ⟨h.children_increase p, List.pairwise_singleton _ _, ?_⟩
      intro a ha b hb
      rw [List.mem_singleton.1 hb]
      exact lt_size_of_parent? (h.mem_children.1 ha)
    · exact h.children_increase p

/-- Every tree that is built by attachments is well formed. -/
theorem Built.wellFormed (h : t.Built) : t.WellFormed := by
  induction h with
  | ofUnit unit => exact wellFormed_ofUnit unit
  | push _ hpush ih =>
    obtain ⟨hp, -, -, rfl, -⟩ := push_eq_ok_iff.1 hpush
    exact ih.attached hp

end JavaLint.Tree
