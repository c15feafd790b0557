import JavaLint.Override
import JavaLint.Proofs.Tree.Agreement
import JavaLint.Proofs.Tree.Attempts
/-!
# What is final about a node

A tree grows by new nodes, and an old node by new children. So whatever is asked
about an old node, apart from its children, has the same answer for good.

## Main definitions

- `Tree.Extends` — a tree with further nodes, and with further children of the old ones
- `Tree.SameAnswers` — what is asked about a node has the same answers in two trees

## Main statements

- `Tree.extends_attempts` — attempts to attach declarations extend a tree
- `Tree.Extends.sameAnswers` — an extended tree says the same of the old nodes
- `Tree.attempts_sameAnswers` — what is said of a node is final once it is attached
-/

namespace JavaLint.Tree

variable {t t' t'' : Tree} {parent id : NodeId} {decl : Declaration}

/-! ## Extended trees -/

/-- The second tree has all nodes of the first one, with further children at the end
    that are new, and perhaps further nodes. -/
structure Extends (t t' : Tree) : Prop where
  size_le : t.size ≤ t'.size
  exists_later {id : NodeId} {node : TreeNode} : t.get? id = some node →
    ∃ later : Array NodeId, (∀ c ∈ later, t.size ≤ c) ∧
      t'.get? id = some { node with children := node.children ++ later }

namespace Extends

theorem refl (t : Tree) : t.Extends t where
  size_le := Nat.le_refl _
  exists_later {id node} hnode := by
    refine ⟨#[], fun c hc => absurd hc (Array.not_mem_empty c), ?_⟩
    rw [Array.append_empty]
    exact hnode

theorem trans (h : t.Extends t') (h' : t'.Extends t'') : t.Extends t'' where
  size_le := Nat.le_trans h.size_le h'.size_le
  exists_later {id node} hnode := by
    obtain ⟨first, hfirst, hnode'⟩ := h.exists_later hnode
    obtain ⟨second, hsecond, hnode''⟩ := h'.exists_later hnode'
    refine ⟨first ++ second, fun c hc => ?_, ?_⟩
    · rcases Array.mem_append.1 hc with hc | hc
      · exact hfirst c hc
      · exact Nat.le_trans h.size_le (hsecond c hc)
    · rw [hnode'', Array.append_assoc]

end Extends

theorem extends_attached (t : Tree) (parent : NodeId) (decl : Declaration) :
    t.Extends (t.attached parent decl) where
  size_le := by
    rw [size_attached]
    exact Nat.le_succ _
  exists_later {id node} hnode := by
    have hid : id ≠ t.size := Nat.ne_of_lt (lt_size_of_get? hnode)
    rw [get?_attached, if_neg hid, hnode]
    split
    · refine ⟨#[t.size], fun c hc => ?_, ?_⟩
      · exact Nat.le_of_eq (Array.mem_singleton.1 hc).symm
      · rw [Array.append_singleton]
        rfl
    · refine ⟨#[], fun c hc => absurd hc (Array.not_mem_empty c), ?_⟩
      rw [Array.append_empty]

/-- A rejected attempt leaves the tree as it is, any other one attaches a node. -/
theorem extends_attempt (t : Tree) (a : Attempt) : t.Extends (t.attempt a).1 := by
  rcases t.attempt_cases a with ⟨e, -, ha⟩ | ⟨-, ha⟩
  · rw [ha]
    exact .refl t
  · rw [ha]
    exact t.extends_attached a.parent a.decl

theorem extends_attempts (t : Tree) (as : List Attempt) : t.Extends (t.attempts as).1 := by
  induction as generalizing t with
  | nil => exact .refl t
  | cons a as ih =>
    rw [attempts_cons]
    exact (t.extends_attempt a).trans (ih _)

/-! ## Answers -/

/-- What is asked about a node, apart from its children, has the same answers in two
    trees: what it declares (its kind, name, position, offset and modifiers), what is
    above it, its scope, and whether it is or belongs to an overriding method. -/
structure SameAnswers (t t' : Tree) (id : NodeId) : Prop where
  declaration?_eq : t'.declaration? id = t.declaration? id
  parent?_eq : t'.parent? id = t.parent? id
  ancestors_eq : t'.ancestors id = t.ancestors id
  resolvedScope_eq : t'.resolvedScope id = t.resolvedScope id
  isOverriding_eq : t'.isOverriding id = t.isOverriding id
  nearestMethod?_eq : t'.nearestMethod? id = t.nearestMethod? id
  belongsToOverride_eq : t'.belongsToOverride id = t.belongsToOverride id

theorem isOverriding_eq_any (t : Tree) (id : NodeId) :
    t.isOverriding id = (t.declaration? id).any fun decl =>
      decl.kind == .method && decl.modifiers.annotations.any Annotation.isOverrideMarker := by
  rw [isOverriding, declaration?, Option.any_map]

theorem nearestMethod?_eq_filter (t : Tree) (id : NodeId) :
    t.nearestMethod? id = (t.parent? id).filter fun parent =>
      (t.kind? parent).any fun kind => kind == .method || kind == .constructor := by
  rw [nearestMethod?]
  cases t.parent? id with
  | none => rfl
  | some parent =>
    rw [Option.filter_some, kind?, Option.any_map]

namespace Extends

theorem declaration?_eq (h : t.Extends t') (hid : id < t.size) :
    t'.declaration? id = t.declaration? id := by
  obtain ⟨node, hnode⟩ := get?_of_lt_size hid
  obtain ⟨later, -, hnode'⟩ := h.exists_later hnode
  rw [declaration?, hnode', declaration?, hnode]
  rfl

theorem kind?_eq (h : t.Extends t') (hid : id < t.size) : t'.kind? id = t.kind? id := by
  rw [Tree.kind?_eq, h.declaration?_eq hid, Tree.kind?_eq]

theorem parent?_eq (h : t.Extends t') (hid : id < t.size) : t'.parent? id = t.parent? id := by
  obtain ⟨node, hnode⟩ := get?_of_lt_size hid
  obtain ⟨later, -, hnode'⟩ := h.exists_later hnode
  rw [parent?, hnode', parent?, hnode]
  rfl

theorem exists_children_eq (h : t.Extends t') (hid : id < t.size) :
    ∃ later, t'.children id = t.children id ++ later ∧ ∀ c ∈ later, t.size ≤ c := by
  obtain ⟨node, hnode⟩ := get?_of_lt_size hid
  obtain ⟨later, hlater, hnode'⟩ := h.exists_later hnode
  refine ⟨later.toList, ?_, fun c hc => hlater c (Array.mem_toList_iff.1 hc)⟩
  rw [children, hnode', children, hnode]
  exact Array.toList_append

theorem isOverriding_eq (h : t.Extends t') (hid : id < t.size) :
    t'.isOverriding id = t.isOverriding id := by
  rw [isOverriding_eq_any, h.declaration?_eq hid, isOverriding_eq_any]

/-- A well-formed tree and one that extends it agree at the old nodes. -/
theorem agreeOn (h : t.Extends t') (ht : t.WellFormed) : AgreeOn (· < t.size) t t' where
  kind?_eq hid := (h.kind?_eq hid).symm
  visibility?_eq {id} hid := by
    have hvisibility := congrArg (Option.map fun decl : Declaration => decl.modifiers.visibility)
      (h.declaration?_eq hid).symm
    unfold declaration? at hvisibility
    rwa [Option.map_map, Option.map_map] at hvisibility
  parent?_eq hid := (h.parent?_eq hid).symm
  parent_mem hid hp := Nat.lt_trans (ht.parent_lt hp) hid

theorem ancestors_eq (h : t.Extends t') (ht : t.WellFormed) (ht' : t'.WellFormed)
    (hid : id < t.size) : t'.ancestors id = t.ancestors id := by
  have hbound : t'.climb t'.size id = t'.climb t.size id :=
    ht'.climb_eq (Nat.le_of_lt (Nat.lt_of_lt_of_le hid h.size_le)) (Nat.le_of_lt hid)
  rw [ancestors, hbound, ← (h.agreeOn ht).climb_eq _ hid, ancestors]

theorem nearestMethod?_eq (h : t.Extends t') (ht : t.WellFormed) (hid : id < t.size) :
    t'.nearestMethod? id = t.nearestMethod? id := by
  rw [nearestMethod?_eq_filter, h.parent?_eq hid, nearestMethod?_eq_filter]
  cases hp : t.parent? id with
  | none => rfl
  | some p =>
    have hlt : p < t.size := Nat.lt_trans (ht.parent_lt hp) hid
    rw [Option.filter_some, h.kind?_eq hlt, Option.filter_some]

/-- An extended tree says the same of the old nodes. -/
theorem sameAnswers (h : t.Extends t') (ht : t.WellFormed) (ht' : t'.WellFormed)
    (hid : id < t.size) : t.SameAnswers t' id where
  declaration?_eq := h.declaration?_eq hid
  parent?_eq := h.parent?_eq hid
  ancestors_eq := h.ancestors_eq ht ht' hid
  resolvedScope_eq := ((h.agreeOn ht).resolvedScope_eq
    (fun _ ha => (h.ancestors_eq ht ht' ha).symm) hid).symm
  isOverriding_eq := h.isOverriding_eq hid
  nearestMethod?_eq := h.nearestMethod?_eq ht hid
  belongsToOverride_eq := by
    rw [belongsToOverride, h.nearestMethod?_eq ht hid, belongsToOverride]
    cases hm : t.nearestMethod? id with
    | none => rfl
    | some m =>
      rw [nearestMethod?_eq_filter] at hm
      have hp : t.parent? id = some m := (Option.filter_eq_some_iff.1 hm).1
      have hlt : m < t.size := Nat.lt_trans (ht.parent_lt hp) hid
      rw [Option.any_some, h.isOverriding_eq hlt, Option.any_some]

end Extends

/-- What is said of a node is final once it is attached: whatever is attempted
    afterwards, and wherever in the tree, the answers about the node are those from
    before. Its children stay in front, and new nodes that have it as their parent
    come after them. -/
theorem attempts_sameAnswers (h : t.Built) (as : List Attempt) (hid : id < t.size) :
    t.SameAnswers (t.attempts as).1 id ∧
      ∃ later, (t.attempts as).1.children id = t.children id ++ later ∧
        ∀ c, c ∈ later ↔ t.size ≤ c ∧ (t.attempts as).1.parent? c = some id := by
  have hextends := t.extends_attempts as
  have hwf := h.wellFormed
  have hwf' := (h.attempts as).wellFormed
  refine ⟨hextends.sameAnswers hwf hwf' hid, ?_⟩
  obtain ⟨later, hchildren, hlater⟩ := hextends.exists_children_eq hid
  refine ⟨later, hchildren, fun c => ?_⟩
  rw [← hwf'.mem_children, hchildren, List.mem_append]
  constructor
  · exact fun hc => ⟨hlater c hc, .inr hc⟩
  · rintro ⟨hnew, hc | hc⟩
    · -- the old children are old nodes
      exact absurd (lt_size_of_parent? (hwf.mem_children.1 hc)) (Nat.not_lt.2 hnew)
    · exact hc

/-- A parameter of a method that is there already, one of a method that is not, and
    another class. -/
def lateAttempts : List Attempt :=
  [⟨2, ⟨.parameter .formal, "x", ⟨3, 14⟩, 36, {}⟩⟩, ⟨9, ⟨.parameter .formal, "y", ⟨4, 14⟩, 50, {}⟩⟩,
    ⟨0, ⟨.type .classType, "B", ⟨6, 7⟩, 70, {}⟩⟩]

theorem attempts_sameAnswers_lateAttempts :
    ∃ t, ((ofUnit "A.java").attempts mixedAttempts).1 = t ∧ t.Built ∧ 2 < t.size ∧
      t.SameAnswers (t.attempts lateAttempts).1 2 ∧ t.children 2 = [] ∧
      (t.attempts lateAttempts).1.children 2 = [3] ∧
      ∃ later, (t.attempts lateAttempts).1.children 2 = t.children 2 ++ later ∧
        ∀ c, c ∈ later ↔ t.size ≤ c ∧ (t.attempts lateAttempts).1.parent? c = some 2 := by
  have hbuilt := (Built.ofUnit "A.java").attempts mixedAttempts
  have hid : 2 < ((ofUnit "A.java").attempts mixedAttempts).1.size := by decide
  obtain ⟨hsame, hlater⟩ := attempts_sameAnswers hbuilt lateAttempts hid
  exact ⟨_, rfl, hbuilt, hid, hsame, by decide, by decide, hlater⟩

end JavaLint.Tree
