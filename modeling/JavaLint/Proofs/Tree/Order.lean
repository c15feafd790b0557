import JavaLint.Proofs.Tree.Push
import Mathlib.Data.List.Basic
/-!
# Ancestors and depth-first order

The queries on trees are bounded by the number of nodes. In a well-formed tree
the bounds are never reached: ancestors follow the parents up to the root, and
the depth-first order is the recursive one.

## Main definitions

- `Tree.Under` — a node or one of its ancestors
- `Tree.subtree` — the recursive depth-first order below a node
- `Tree.Before` — the order of nodes in a source text, said by ancestors and siblings

## Main statements

- `Tree.WellFormed.ancestors_eq` — the ancestors of a node are its parent and its ancestors
- `Tree.WellFormed.preorder_eq_subtree` — the bounded traversal is the recursive one
- `Tree.WellFormed.preorder_pairwise`, `Tree.WellFormed.mem_preorder` — it visits each node once,
  in order
-/

namespace JavaLint.Tree

variable {t : Tree} {a b c x y p id : NodeId}

/-! ## Ancestors -/

theorem climb_root (h : t.WellFormed) (n : Nat) : t.climb n root = [] := by
  cases n with
  | zero => rfl
  | succ n => rw [climb, h.parent?_root]

/-- Parents have smaller indices, so a bound not below the index is never reached. -/
theorem WellFormed.climb_eq (h : t.WellFormed) {m n : Nat} (hm : id ≤ m) (hn : id ≤ n) :
    t.climb m id = t.climb n id := by
  induction m generalizing n id with
  | zero =>
    have hid : id = root := Nat.le_zero.1 hm
    rw [hid, climb_root h, climb_root h]
  | succ m ih =>
    cases n with
    | zero =>
      have hid : id = root := Nat.le_zero.1 hn
      rw [hid, climb_root h, climb_root h]
    | succ n =>
      rw [climb, climb]
      cases hp : t.parent? id with
      | none => rfl
      | some p =>
        have hlt : p < id := h.parent_lt hp
        exact congrArg (p :: ·)
          (ih (Nat.le_of_lt_succ (Nat.lt_of_lt_of_le hlt hm))
            (Nat.le_of_lt_succ (Nat.lt_of_lt_of_le hlt hn)))

/-- The strict ancestors of a node are its parent and the ancestors of that. -/
theorem WellFormed.ancestors_eq (h : t.WellFormed) (id : NodeId) :
    t.ancestors id = match t.parent? id with
      | none => []
      | some p => p :: t.ancestors p := by
  obtain ⟨n, hn⟩ : ∃ n, t.size = n + 1 := Nat.exists_eq_succ_of_ne_zero (Nat.ne_of_gt h.size_pos)
  unfold ancestors
  rw [hn, climb]
  cases hp : t.parent? id with
  | none => rfl
  | some p =>
    have hle : p ≤ n := Nat.le_of_lt_succ (Nat.lt_of_lt_of_le
      (Nat.lt_trans (h.parent_lt hp) (lt_size_of_parent? hp)) (Nat.le_of_eq hn))
    exact congrArg (p :: ·) (h.climb_eq hle (Nat.le_succ_of_le hle))

theorem WellFormed.ancestors_of_parent? (h : t.WellFormed) (hp : t.parent? id = some p) :
    t.ancestors id = p :: t.ancestors p := by
  rw [h.ancestors_eq, hp]

theorem WellFormed.exists_parent_of_mem_ancestors (h : t.WellFormed) (ha : a ∈ t.ancestors b) :
    ∃ p, t.parent? b = some p ∧ (a = p ∨ a ∈ t.ancestors p) := by
  rw [h.ancestors_eq] at ha
  split at ha
  · simp at ha
  · next p hp => exact ⟨p, hp, List.mem_cons.1 ha⟩

theorem WellFormed.lt_of_mem_ancestors (h : t.WellFormed) (ha : a ∈ t.ancestors b) : a < b := by
  induction b using Nat.strongRecOn with
  | ind b ih =>
    obtain ⟨p, hp, rfl | hap⟩ := h.exists_parent_of_mem_ancestors ha
    · exact h.parent_lt hp
    · exact Nat.lt_trans (ih p (h.parent_lt hp) hap) (h.parent_lt hp)

/-- `x` is `a` or one of its ancestors. -/
def Under (t : Tree) (x a : NodeId) : Prop :=
  a = x ∨ x ∈ t.ancestors a

theorem Under.refl (t : Tree) (a : NodeId) : t.Under a a :=
  Or.inl rfl

theorem WellFormed.le_of_under (h : t.WellFormed) (hx : t.Under x a) : x ≤ a := by
  rcases hx with rfl | hx
  · exact Nat.le_refl _
  · exact Nat.le_of_lt (h.lt_of_mem_ancestors hx)

theorem WellFormed.mem_ancestors_iff (h : t.WellFormed) (hp : t.parent? b = some p) :
    a ∈ t.ancestors b ↔ t.Under a p := by
  rw [h.ancestors_of_parent? hp, List.mem_cons]
  exact or_congr_left eq_comm

/-- What is under a child is below its parent. -/
theorem WellFormed.mem_ancestors_of_under (h : t.WellFormed) (hc : t.parent? c = some p)
    (hb : t.Under c b) : p ∈ t.ancestors b := by
  induction b using Nat.strongRecOn with
  | ind b ih =>
    rcases hb with rfl | hb
    · exact (h.mem_ancestors_iff hc).2 (Under.refl t p)
    · obtain ⟨q, hq, hcq⟩ := h.exists_parent_of_mem_ancestors hb
      exact (h.mem_ancestors_iff hq).2 (Or.inr (ih q (h.parent_lt hq) (hcq.imp_left Eq.symm)))

/-- The way down from an ancestor goes through one of its children. -/
theorem WellFormed.exists_child_under (h : t.WellFormed) (ha : a ∈ t.ancestors b) :
    ∃ c ∈ t.children a, t.Under c b := by
  induction b using Nat.strongRecOn with
  | ind b ih =>
    obtain ⟨p, hp, rfl | hap⟩ := h.exists_parent_of_mem_ancestors ha
    · exact ⟨b, h.mem_children.2 hp, Under.refl t b⟩
    · obtain ⟨c, hc, hcp⟩ := ih p (h.parent_lt hp) hap
      exact ⟨c, hc, Or.inr ((h.mem_ancestors_iff hp).2 hcp)⟩

theorem WellFormed.root_under (h : t.WellFormed) (hid : id < t.size) : t.Under root id := by
  induction id using Nat.strongRecOn with
  | ind id ih =>
    by_cases h0 : id = root
    · exact Or.inl h0
    · obtain ⟨p, hp⟩ := h.exists_parent hid h0
      have hlt : p < id := h.parent_lt hp
      exact Or.inr ((h.mem_ancestors_iff hp).2 (ih p hlt (Nat.lt_trans hlt hid)))

/-! ## The recursive depth-first order -/

/-- A node, then the subtrees of its children, down to a given depth. -/
def flatten (t : Tree) : Nat → NodeId → List NodeId
  | 0, _ => []
  | depth + 1, id => id :: (t.children id).flatMap (t.flatten depth)

/-- The nodes of the subtree below a node, depth first: the node, then the
    subtrees of its children. -/
def subtree (t : Tree) (id : NodeId) : List NodeId :=
  t.flatten t.size id

theorem WellFormed.lt_size_of_mem_children (h : t.WellFormed) (hc : c ∈ t.children p) :
    c < t.size :=
  lt_size_of_parent? (h.mem_children.1 hc)

/-- Indices grow on the way down, so a depth that reaches the last index reaches all. -/
theorem WellFormed.flatten_eq (h : t.WellFormed) {m n : Nat} (hid : id < t.size)
    (hm : t.size ≤ id + m) (hn : t.size ≤ id + n) : t.flatten m id = t.flatten n id := by
  induction m generalizing n id with
  | zero => exact absurd hm (Nat.not_le.2 hid)
  | succ m ih =>
    cases n with
    | zero => exact absurd hn (Nat.not_le.2 hid)
    | succ n =>
      rw [flatten, flatten]
      refine congrArg (id :: ·) (List.flatMap_congr fun c hc => ?_)
      have hlt : id < c := h.parent_lt (h.mem_children.1 hc)
      have hle : id + 1 ≤ c := hlt
      refine ih (h.lt_size_of_mem_children hc) (Nat.le_trans hm ?_) (Nat.le_trans hn ?_)
      · rw [← Nat.add_assoc, Nat.add_right_comm]
        exact Nat.add_le_add_right hle m
      · rw [← Nat.add_assoc, Nat.add_right_comm]
        exact Nat.add_le_add_right hle n

/-- The subtree below a node is the node and the subtrees below its children. -/
theorem WellFormed.subtree_eq (h : t.WellFormed) (hid : id < t.size) :
    t.subtree id = id :: (t.children id).flatMap t.subtree := by
  have hle : t.size ≤ id + (t.size + 1) :=
    Nat.le_trans (Nat.le_succ _) (Nat.le_add_left _ _)
  unfold subtree
  rw [h.flatten_eq hid (Nat.le_add_left _ _) hle, flatten]

theorem WellFormed.under_of_mem_flatten (h : t.WellFormed) {n : Nat} (hb : b ∈ t.flatten n a) :
    t.Under a b := by
  induction n generalizing a with
  | zero => simp [flatten] at hb
  | succ n ih =>
    rw [flatten, List.mem_cons, List.mem_flatMap] at hb
    rcases hb with hb | ⟨c, hc, hb⟩
    · exact Or.inl hb
    · exact Or.inr (h.mem_ancestors_of_under (h.mem_children.1 hc) (ih hb))

theorem WellFormed.mem_flatten_of_under (h : t.WellFormed) {n : Nat} (ha : t.Under a b)
    (hn : b < a + n) : b ∈ t.flatten n a := by
  induction n generalizing a with
  | zero => exact absurd (h.le_of_under ha) (Nat.not_le.2 hn)
  | succ n ih =>
    rw [flatten, List.mem_cons, List.mem_flatMap]
    rcases ha with rfl | ha
    · exact Or.inl rfl
    · obtain ⟨c, hc, hcb⟩ := h.exists_child_under ha
      have hlt : a + 1 ≤ c := h.parent_lt (h.mem_children.1 hc)
      refine Or.inr ⟨c, hc, ih hcb (Nat.lt_of_lt_of_le hn ?_)⟩
      rw [← Nat.add_assoc, Nat.add_right_comm]
      exact Nat.add_le_add_right hlt n

/-! ## The order of nodes -/

/-- The order of nodes in a source text: an ancestor comes before what is below
    it, and of two siblings the first one, with all below it, comes before the
    other one with all below that. -/
inductive Before (t : Tree) : NodeId → NodeId → Prop
  | ancestor {a b : NodeId} : a ∈ t.ancestors b → Before t a b
  | sibling {p x y a b : NodeId} : [x, y].Sublist (t.children p) → t.Under x a → t.Under y b →
      Before t a b

/-- Two children of a node have nothing below them in common. -/
theorem WellFormed.eq_of_under_siblings (h : t.WellFormed) (hx : t.parent? x = some p)
    (hy : t.parent? y = some p) (hxa : t.Under x a) (hya : t.Under y a) : x = y := by
  have hirrefl : ∀ {u v : NodeId}, t.parent? u = some p → t.parent? v = some p →
      u ∉ t.ancestors v := by
    intro u v hu hv huv
    exact Nat.lt_irrefl _ (Nat.lt_of_lt_of_le (h.parent_lt hu)
      (h.le_of_under ((h.mem_ancestors_iff hv).1 huv)))
  induction a using Nat.strongRecOn with
  | ind a ih =>
    rcases hxa with rfl | hxa
    · rcases hya with hya | hya
      · exact hya
      · exact absurd hya (hirrefl hy hx)
    · rcases hya with rfl | hya
      · exact absurd hxa (hirrefl hx hy)
      · obtain ⟨q, hq, -⟩ := h.exists_parent_of_mem_ancestors hxa
        exact ih q (h.parent_lt hq) ((h.mem_ancestors_iff hq).1 hxa)
          ((h.mem_ancestors_iff hq).1 hya)

theorem WellFormed.not_before_self (h : t.WellFormed) (a : NodeId) : ¬ t.Before a a := by
  rintro (ha | ⟨hsub, hx, hy⟩)
  · exact Nat.lt_irrefl _ (h.lt_of_mem_ancestors ha)
  · next p x y =>
    have hxp : x ∈ t.children p := hsub.subset (List.mem_cons_self ..)
    have hyp : y ∈ t.children p := hsub.subset (List.mem_cons_of_mem _ (List.mem_cons_self ..))
    have hlt : x < y :=
      List.pairwise_iff_forall_sublist.1 (h.children_increase p) hsub
    exact Nat.ne_of_lt hlt
      (h.eq_of_under_siblings (h.mem_children.1 hxp) (h.mem_children.1 hyp) hx hy)

/-- The recursive order lists nodes in the order of the source text. -/
theorem WellFormed.flatten_pairwise (h : t.WellFormed) (n : Nat) (a : NodeId) :
    (t.flatten n a).Pairwise t.Before := by
  induction n generalizing a with
  | zero => exact List.Pairwise.nil
  | succ n ih =>
    refine List.pairwise_cons.2 ⟨?_, List.pairwise_flatMap.2 ⟨fun c _ => ih c, ?_⟩⟩
    · intro b hb
      obtain ⟨c, hc, hb⟩ := List.mem_flatMap.1 hb
      exact .ancestor (h.mem_ancestors_of_under (h.mem_children.1 hc) (h.under_of_mem_flatten hb))
    · refine List.pairwise_iff_forall_sublist.2 fun hsub u hu v hv => ?_
      exact .sibling hsub (h.under_of_mem_flatten hu) (h.under_of_mem_flatten hv)

theorem WellFormed.nodup_of_pairwise_before (h : t.WellFormed) {ids : List NodeId}
    (hids : ids.Pairwise t.Before) : ids.Nodup := by
  refine hids.imp ?_
  rintro a b hab rfl
  exact h.not_before_self a hab

/-! ## The traversal -/

variable {pending : List NodeId}

/-- The children of the first pending node take its place. -/
theorem WellFormed.flatMap_subtree_cons (h : t.WellFormed) (hid : id < t.size)
    (pending : List NodeId) :
    (id :: pending).flatMap t.subtree = id :: (t.children id ++ pending).flatMap t.subtree := by
  rw [List.flatMap_cons, h.subtree_eq hid, List.flatMap_append]
  rfl

theorem WellFormed.lt_size_of_mem_next (h : t.WellFormed) (hp : ∀ c ∈ pending, c < t.size) :
    ∀ c ∈ t.children id ++ pending, c < t.size :=
  fun c hc => (List.mem_append.1 hc).elim h.lt_size_of_mem_children (hp c)

/-- The bounded traversal lists the subtrees of the pending nodes as far as its bound goes. -/
theorem WellFormed.visit_eq (h : t.WellFormed) (fuel : Nat) (pending : List NodeId)
    (hp : ∀ id ∈ pending, id < t.size) :
    t.visit fuel pending = (pending.flatMap t.subtree).take fuel := by
  induction fuel generalizing pending with
  | zero => rfl
  | succ fuel ih =>
    cases pending with
    | nil => rfl
    | cons id rest =>
      obtain ⟨hid, hrest⟩ := List.forall_mem_cons.1 hp
      rw [visit, ih _ (h.lt_size_of_mem_next hrest), h.flatMap_subtree_cons hid]
      rfl

theorem WellFormed.mem_subtree_root (h : t.WellFormed) : id ∈ t.subtree root ↔ id < t.size := by
  constructor
  · intro hid
    rcases h.under_of_mem_flatten hid with rfl | hid
    · exact h.size_pos
    · obtain ⟨p, hp, -⟩ := h.exists_parent_of_mem_ancestors hid
      exact lt_size_of_parent? hp
  · intro hid
    exact h.mem_flatten_of_under (h.root_under hid) ((Nat.zero_add t.size).symm ▸ hid)

/-- The traversal of a whole tree is the recursive depth-first order. -/
theorem WellFormed.preorder_eq_subtree (h : t.WellFormed) : t.preorder = t.subtree root := by
  have hroot : ∀ id ∈ [root], id < t.size := fun id hid =>
    List.mem_singleton.1 hid ▸ h.size_pos
  have hnodup : (t.subtree root).Nodup := h.nodup_of_pairwise_before (h.flatten_pairwise _ _)
  have hlength : (t.subtree root).length ≤ t.size := by
    have hsub : t.subtree root ⊆ List.range t.size := fun id hid =>
      List.mem_range.2 (h.mem_subtree_root.1 hid)
    simpa using hnodup.length_le_of_subset hsub
  unfold preorder
  rw [h.visit_eq _ _ hroot, List.flatMap_singleton, List.take_of_length_le hlength]

theorem WellFormed.mem_preorder (h : t.WellFormed) : id ∈ t.preorder ↔ id < t.size := by
  rw [h.preorder_eq_subtree, h.mem_subtree_root]

theorem WellFormed.preorder_pairwise (h : t.WellFormed) : t.preorder.Pairwise t.Before := by
  rw [h.preorder_eq_subtree]
  exact h.flatten_pairwise _ _

theorem WellFormed.preorder_nodup (h : t.WellFormed) : t.preorder.Nodup :=
  h.nodup_of_pairwise_before h.preorder_pairwise

end JavaLint.Tree
