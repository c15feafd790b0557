import JavaLint.Proofs.Tree.Attempts
/-!
# The depth-first order of a tree

The traversal of a tree keeps the nodes it has still to visit in a list. The list
runs empty, and what was visited until then are all nodes, each of them once, in the
order of recursion. So the first node with a name is well defined, and found.

## Main definitions

- `Tree.Traverses` — a traversal to its end, without a bound on its length
- `Tree.Names` — a node with a given name

## Main statements

- `Tree.WellFormed.traverses_iff` — a traversal ends, and lists the subtrees of its nodes
- `Tree.WellFormed.subtree_infix_preorder` — a subtree is not interrupted
- `Tree.preorder_spec` — the depth-first order, and what is found in it
-/

namespace JavaLint.Tree

variable {t : Tree} {a b c p id : NodeId} {pending visited : List NodeId} {ident : String}

/-! ## Traversals -/

/-- From the pending nodes on, the nodes of `visited` are visited, and then no node is
    pending any more. The first pending node is the next one, and its children come
    before those that are pending already. -/
inductive Traverses (t : Tree) : List NodeId → List NodeId → Prop
  | done : Traverses t [] []
  | visit {id : NodeId} {pending visited : List NodeId} :
      Traverses t (t.children id ++ pending) visited → Traverses t (id :: pending) (id :: visited)

theorem WellFormed.traverses_subtrees (h : t.WellFormed) (hp : ∀ id ∈ pending, id < t.size) :
    t.Traverses pending (pending.flatMap t.subtree) := by
  -- each visit leaves one node less in the subtrees of the pending nodes
  induction hlength : (pending.flatMap t.subtree).length using Nat.strongRecOn
    generalizing pending with
  | ind n ih =>
    cases pending with
    | nil => exact .done
    | cons id pending =>
      obtain ⟨hid, hrest⟩ := List.forall_mem_cons.1 hp
      rw [h.flatMap_subtree_cons hid] at hlength ⊢
      exact .visit (ih _ (hlength ▸ Nat.lt_succ_self _) (h.lt_size_of_mem_next hrest) rfl)

/-- A traversal comes to an end, and has then visited the subtrees of the pending nodes. -/
theorem WellFormed.traverses_iff (h : t.WellFormed) (hp : ∀ id ∈ pending, id < t.size) :
    t.Traverses pending visited ↔ visited = pending.flatMap t.subtree := by
  constructor
  · intro htraverses
    induction htraverses with
    | done => rfl
    | visit _ ih =>
      obtain ⟨hid, hrest⟩ := List.forall_mem_cons.1 hp
      rw [h.flatMap_subtree_cons hid, ← ih (h.lt_size_of_mem_next hrest)]
  · rintro rfl
    exact h.traverses_subtrees hp

theorem WellFormed.traverses_root_iff (h : t.WellFormed) :
    t.Traverses [root] visited ↔ visited = t.preorder := by
  have hroot : ∀ id ∈ [root], id < t.size := fun id hid => List.mem_singleton.1 hid ▸ h.size_pos
  rw [h.traverses_iff hroot, List.flatMap_singleton, h.preorder_eq_subtree]

/-! ## Subtrees -/

/-- The children of a node are those that name it as their parent, in the order in which
    they were attached. -/
theorem WellFormed.children_eq_filter (h : t.WellFormed) (p : NodeId) :
    t.children p = (List.range t.size).filter fun c => t.parent? c = some p := by
  have hrange : ((List.range t.size).filter fun c => t.parent? c = some p).Pairwise (· < ·) :=
    List.pairwise_lt_range.filter _
  have hne : ∀ {ids : List NodeId}, ids.Pairwise (· < ·) → ids.Nodup := fun hids =>
    hids.imp Nat.ne_of_lt
  refine List.Perm.eq_of_pairwise (fun a b _ _ hab hba => absurd hab (Nat.lt_asymm hba))
    (h.children_increase p) hrange ?_
  refine (List.perm_ext_iff_of_nodup (hne (h.children_increase p)) (hne hrange)).2 fun c => ?_
  rw [h.mem_children, List.mem_filter, List.mem_range, decide_eq_true_iff]
  exact ⟨fun hc => ⟨lt_size_of_parent? hc, hc⟩, And.right⟩

theorem WellFormed.mem_subtree (h : t.WellFormed) (ha : a < t.size) :
    b ∈ t.subtree a ↔ t.Under a b := by
  refine ⟨h.under_of_mem_flatten, fun hb => h.mem_flatten_of_under hb ?_⟩
  rcases hb with rfl | hb
  · exact Nat.lt_add_of_pos_right h.size_pos
  · obtain ⟨p, hp, -⟩ := h.exists_parent_of_mem_ancestors hb
    exact Nat.lt_add_left a (lt_size_of_parent? hp)

/-- The nodes of a subtree are visited one after the other. -/
theorem WellFormed.subtree_infix_preorder (h : t.WellFormed) (hid : id < t.size) :
    t.subtree id <:+: t.preorder := by
  induction id using Nat.strongRecOn with
  | ind id ih =>
    by_cases hroot : id = root
    · have hwhole : t.preorder = t.subtree id := hroot ▸ h.preorder_eq_subtree
      exact hwhole ▸ List.infix_rfl
    · obtain ⟨p, hp⟩ := h.exists_parent hid hroot
      have hlt : p < id := h.parent_lt hp
      have hsize : p < t.size := Nat.lt_trans hlt hid
      have hbelow : t.subtree id <:+: (t.children p).flatMap t.subtree :=
        List.infix_flatMap_of_mem (h.mem_children.2 hp) t.subtree
      have habove : (t.children p).flatMap t.subtree <:+: t.subtree p := by
        rw [h.subtree_eq hsize]
        exact (List.suffix_cons _ _).isInfix
      exact (hbelow.trans habove).trans (ih p hlt hsize)

/-- A node is visited after its ancestors. -/
theorem WellFormed.sublist_preorder_of_mem_ancestors (h : t.WellFormed) (ha : a ∈ t.ancestors b) :
    [a, b].Sublist t.preorder := by
  obtain ⟨p, hp, -⟩ := h.exists_parent_of_mem_ancestors ha
  have hsize : a < t.size := Nat.lt_trans (h.lt_of_mem_ancestors ha) (lt_size_of_parent? hp)
  have hb : b ∈ t.subtree a := (h.mem_subtree hsize).2 (.inr ha)
  have hinfix := h.subtree_infix_preorder hsize
  rw [h.subtree_eq hsize] at hb hinfix
  have hne : b ≠ a := Nat.ne_of_gt (h.lt_of_mem_ancestors ha)
  exact ((List.singleton_sublist.2 ((List.mem_cons.1 hb).resolve_left hne)).cons_cons a).trans
    hinfix.sublist

theorem WellFormed.preorder_perm_range (h : t.WellFormed) : t.preorder.Perm (List.range t.size) := by
  refine (List.perm_ext_iff_of_nodup h.preorder_nodup List.nodup_range).2 fun id => ?_
  rw [h.mem_preorder, List.mem_range]

/-! ## Names -/

/-- The node exists and has the given name. -/
def Names (t : Tree) (id : NodeId) (ident : String) : Prop :=
  ∃ node, t.get? id = some node ∧ node.ident = ident

theorem any_ident_iff : (t.get? id).any (·.ident == ident) = true ↔ t.Names id ident := by
  simp [Names, Option.any_eq_true]

theorem Names.lt_size (h : t.Names id ident) : id < t.size :=
  let ⟨_, hnode, _⟩ := h
  lt_size_of_get? hnode

theorem find?_eq_some_iff : t.find? ident = some id ↔
    t.Names id ident ∧ ∃ before after, t.preorder = before ++ id :: after ∧
      ∀ b ∈ before, ¬ t.Names b ident := by
  unfold find?
  simp only [List.find?_eq_some_iff_append, Bool.not_eq_true', ← Bool.not_eq_true, any_ident_iff]

theorem WellFormed.find?_eq_none_iff (h : t.WellFormed) :
    t.find? ident = none ↔ ∀ id, ¬ t.Names id ident := by
  unfold find?
  simp only [List.find?_eq_none, any_ident_iff, h.mem_preorder]
  exact ⟨fun hnone id hid => hnone id hid.lt_size hid, fun hnone id _ => hnone id⟩

/-! ## The order as a whole -/

/-- The traversal of a tree comes to an end. It has then visited every node once, in the
    order of recursion: a node, and then the subtrees of its children, which stand in the
    order in which they were attached. So a node comes after its ancestors, and its subtree
    is not interrupted. A name is found at the first node that has it, if there is one. -/
theorem preorder_spec (h : t.Built) :
    t.preorder.Perm (List.range t.size) ∧
      (∀ visited, t.Traverses [root] visited ↔ visited = t.preorder) ∧
      t.preorder = t.subtree root ∧
      (∀ id, id < t.size →
        t.subtree id = id :: (t.children id).flatMap t.subtree ∧
        t.children id = ((List.range t.size).filter fun c => t.parent? c = some id) ∧
        (∀ b, b ∈ t.subtree id ↔ t.Under id b) ∧ t.subtree id <:+: t.preorder) ∧
      (∀ a b, a ∈ t.ancestors b → [a, b].Sublist t.preorder) ∧
      ∀ ident,
        (∀ id, t.find? ident = some id ↔
          t.Names id ident ∧ ∃ before after, t.preorder = before ++ id :: after ∧
            ∀ b ∈ before, ¬ t.Names b ident) ∧
        (t.find? ident = none ↔ ∀ id, ¬ t.Names id ident) := by
  have hwf := h.wellFormed
  refine ⟨hwf.preorder_perm_range, fun visited => hwf.traverses_root_iff, hwf.preorder_eq_subtree,
    fun id hid => ⟨hwf.subtree_eq hid, hwf.children_eq_filter id, fun b => hwf.mem_subtree hid,
      hwf.subtree_infix_preorder hid⟩,
    fun a b => hwf.sublist_preorder_of_mem_ancestors, fun ident => ⟨fun id => find?_eq_some_iff,
      hwf.find?_eq_none_iff⟩⟩

/-- A class with a method `m` and a field `x`. The parameter of the method, also with the
    name `x`, is attached after both. -/
def lateParameter : List Attempt :=
  [⟨0, ⟨.type .classType, "A", ⟨1, 7⟩, 6, {}⟩⟩, ⟨1, ⟨.method, "m", ⟨1, 16⟩, 15, {}⟩⟩,
    ⟨1, ⟨.field, "x", ⟨1, 32⟩, 31, {}⟩⟩, ⟨2, ⟨.parameter .formal, "x", ⟨1, 22⟩, 21, {}⟩⟩]

/-- The parameter, node 4, is visited before the field, node 3, and found by their name. -/
theorem preorder_spec_lateParameter :
    ∃ t, ((ofUnit "A.java").attempts lateParameter).1 = t ∧ t.Built ∧
      t.preorder = [0, 1, 2, 4, 3] ∧ t.Traverses [root] [0, 1, 2, 4, 3] ∧
      t.subtree 2 = [2, 4] ∧ [1, 4].Sublist t.preorder ∧ t.find? "x" = some 4 ∧
      ∃ before after, t.preorder = before ++ 4 :: after ∧ ∀ b ∈ before, ¬ t.Names b "x" := by
  have hbuilt := (Built.ofUnit "A.java").attempts lateParameter
  have horder : ((ofUnit "A.java").attempts lateParameter).1.preorder = [0, 1, 2, 4, 3] := rfl
  have hfound : ((ofUnit "A.java").attempts lateParameter).1.find? "x" = some 4 := by decide
  obtain ⟨-, htraverses, -, -, hsublist, hfind⟩ := preorder_spec hbuilt
  exact ⟨_, rfl, hbuilt, horder, (htraverses _).2 horder.symm, rfl, hsublist 1 4 (by decide),
    hfound, (((hfind "x").1 4).1 hfound).2⟩

end JavaLint.Tree
