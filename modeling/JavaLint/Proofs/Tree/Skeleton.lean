import JavaLint.Proofs.Except
import JavaLint.Proofs.Tree.Agreement
/-!
# Trees with the same skeleton

Scopes and the order of the nodes depend on the kinds and visibilities of the
nodes and on how the nodes hang together. Trees that agree in these agree in all
of that, whatever names, places and annotations their nodes have.

## Main definitions

- `Tree.SameSkeleton` — trees whose nodes have the same kinds, visibilities, parents and children
- `Tree.Matches` — trees whose nodes hang together in the same way, with related declarations

## Main statements

- `Tree.SameSkeleton.preorder_eq` — the nodes come in the same order
- `Tree.SameSkeleton.resolvedScope_eq` — the nodes have the same scopes
- `Tree.Matches.leads_push` — related declarations are attached alike
-/

namespace JavaLint

/-- What a node has besides its name, its place and its annotations. -/
structure TreeNode.Skeleton where
  kind : NodeKind
  visibility : Option Scope
  parent : Option NodeId
  children : Array NodeId

/-- The skeleton of a node. -/
def TreeNode.skeleton (n : TreeNode) : Skeleton :=
  ⟨n.kind, n.modifiers.visibility, n.parent, n.children⟩

namespace Tree

variable {t t' : Tree} {id : NodeId}

/-- Two trees whose nodes have the same skeletons. -/
def SameSkeleton (t t' : Tree) : Prop :=
  ∀ id, (t.get? id).map TreeNode.skeleton = (t'.get? id).map TreeNode.skeleton

namespace SameSkeleton

theorem size_eq (h : t.SameSkeleton t') : t.size = t'.size := by
  have hlt : ∀ {t t' : Tree}, t.SameSkeleton t' → t.size ≤ t'.size := by
    intro t t' h
    refine Nat.not_lt.1 fun hlt => ?_
    obtain ⟨node, hnode⟩ := get?_of_lt_size hlt
    have hnone := h t'.size
    rw [hnode, get?_eq_none (Nat.le_refl t'.size)] at hnone
    cases hnone
  exact Nat.le_antisymm (hlt h) (hlt fun id => (h id).symm)

theorem kind?_eq (h : t.SameSkeleton t') (id : NodeId) : t.kind? id = t'.kind? id := by
  have hkind := congrArg (Option.map TreeNode.Skeleton.kind) (h id)
  rwa [Option.map_map, Option.map_map] at hkind

theorem parent?_eq (h : t.SameSkeleton t') (id : NodeId) : t.parent? id = t'.parent? id := by
  have hparent := congrArg (Option.bind · TreeNode.Skeleton.parent) (h id)
  rwa [Option.bind_map, Option.bind_map] at hparent

theorem children_eq (h : t.SameSkeleton t') (id : NodeId) : t.children id = t'.children id := by
  have hnode := h id
  unfold children
  cases hn : t.get? id with
  | none =>
    rw [hn, Option.map_none, eq_comm, Option.map_eq_none_iff] at hnode
    rw [hnode]
  | some node =>
    rw [hn, Option.map_some, eq_comm, Option.map_eq_some_iff] at hnode
    obtain ⟨node', hn', hskeleton⟩ := hnode
    rw [hn']
    exact congrArg (fun s => s.children.toList) hskeleton.symm

theorem visit_eq (h : t.SameSkeleton t') (fuel : Nat) (pending : List NodeId) :
    t.visit fuel pending = t'.visit fuel pending := by
  induction fuel generalizing pending with
  | zero => rfl
  | succ fuel ih =>
    cases pending with
    | nil => rfl
    | cons id pending => rw [visit, visit, h.children_eq, ih]

theorem preorder_eq (h : t.SameSkeleton t') : t.preorder = t'.preorder := by
  rw [preorder, h.visit_eq, h.size_eq, preorder]

theorem agreeOn (h : t.SameSkeleton t') : AgreeOn (fun _ => True) t t' where
  kind?_eq {id} _ := h.kind?_eq id
  visibility?_eq {id} _ := by
    have hvisibility := congrArg (Option.map TreeNode.Skeleton.visibility) (h id)
    rwa [Option.map_map, Option.map_map] at hvisibility
  parent?_eq {id} _ := h.parent?_eq id
  parent_mem _ _ := trivial

theorem ancestors_eq (h : t.SameSkeleton t') (id : NodeId) : t.ancestors id = t'.ancestors id := by
  rw [ancestors, h.agreeOn.climb_eq _ trivial, h.size_eq, ancestors]

theorem resolvedScope_eq (h : t.SameSkeleton t') (id : NodeId) :
    t.resolvedScope id = t'.resolvedScope id :=
  h.agreeOn.resolvedScope_eq (fun a _ => h.ancestors_eq a) trivial

end SameSkeleton

/-! ## Related declarations -/

/-- Two trees with the same parents and children, and with related declarations. -/
structure Matches (R : Declaration → Declaration → Prop) (t t' : Tree) : Prop where
  size_eq : t.size = t'.size
  declaration {id : NodeId} {n n' : TreeNode} : t.get? id = some n → t'.get? id = some n' →
    R n.toDeclaration n'.toDeclaration
  parent {id : NodeId} {n n' : TreeNode} : t.get? id = some n → t'.get? id = some n' →
    n.parent = n'.parent
  children {id : NodeId} {n n' : TreeNode} : t.get? id = some n → t'.get? id = some n' →
    n.children = n'.children

variable {R : Declaration → Declaration → Prop} {decl decl' : Declaration} {parent : NodeId}
  {n : TreeNode}

theorem Matches.exists_get? (h : t.Matches R t') (hn : t.get? id = some n) :
    ∃ n', t'.get? id = some n' ∧ R n.toDeclaration n'.toDeclaration := by
  obtain ⟨n', hn'⟩ := get?_of_lt_size (h.size_eq ▸ lt_size_of_get? hn)
  exact ⟨n', hn', h.declaration hn hn'⟩

theorem Matches.sameSkeleton (h : t.Matches R t')
    (hR : ∀ d d', R d d' → d.kind = d'.kind ∧ d.modifiers.visibility = d'.modifiers.visibility) :
    t.SameSkeleton t' := by
  intro id
  cases hn : t.get? id with
  | none =>
    have hsize : t'.size ≤ id := h.size_eq ▸ Array.getElem?_eq_none_iff.1 hn
    rw [get?_eq_none hsize]
  | some n =>
    obtain ⟨n', hn', hrelated⟩ := h.exists_get? hn
    obtain ⟨hkind, hvisibility⟩ := hR _ _ hrelated
    rw [hn', Option.map_some, Option.map_some, TreeNode.skeleton, TreeNode.skeleton, hkind,
      hvisibility, h.parent hn hn', h.children hn hn']

theorem Matches.attached (h : t.Matches R t') (hR : R decl decl') :
    (t.attached parent decl).Matches R (t'.attached parent decl') := by
  -- a node of the new trees is the new one, its parent, or one that stays
  have hcases : ∀ {id : NodeId} {m m' : TreeNode}, (t.attached parent decl).get? id = some m →
      (t'.attached parent decl').get? id = some m' →
      R m.toDeclaration m'.toDeclaration ∧ m.parent = m'.parent ∧ m.children = m'.children := by
    intro id m m' hm hm'
    rw [get?_attached] at hm hm'
    rw [← h.size_eq] at hm'
    split at hm
    · next hid =>
      rw [if_pos hid] at hm'
      obtain rfl := Option.some.inj hm
      obtain rfl := Option.some.inj hm'
      exact ⟨hR, rfl, rfl⟩
    · next hid =>
      rw [if_neg hid] at hm'
      split at hm
      · next hparent =>
        rw [if_pos hparent] at hm'
        obtain ⟨n, hn, rfl⟩ := Option.map_eq_some_iff.1 hm
        obtain ⟨n', hn', rfl⟩ := Option.map_eq_some_iff.1 hm'
        have hdecl := h.declaration hn hn'
        have hsame := h.parent hn hn'
        have hchildren := congrArg (fun ids : Array NodeId => ids.push t.size) (h.children hn hn')
        exact ⟨hdecl, hsame, hchildren⟩
      · next hparent =>
        rw [if_neg hparent] at hm'
        exact ⟨h.declaration hm hm', h.parent hm hm', h.children hm hm'⟩
  refine ⟨?_, fun hm hm' => (hcases hm hm').1, fun hm hm' => (hcases hm hm').2.1,
    fun hm hm' => (hcases hm hm').2.2⟩
  rw [size_attached, size_attached, h.size_eq]

/-- Related declarations are attached alike. -/
theorem Matches.leads_push (h : t.Matches R t') (hR : R decl decl') (hkind : decl.kind = decl'.kind)
    (hident : decl.ident ≠ "" → decl'.ident ≠ "") :
    Except.Leads (fun r r' => r.1.Matches R r'.1 ∧ r.2 = r'.2) (t.push parent decl)
      (t'.push parent decl') := by
  rintro ⟨t₁, id⟩ hpush
  obtain ⟨hparent, hunit, hempty, rfl, rfl⟩ := push_eq_ok_iff.1 hpush
  have hne : decl.ident ≠ "" := fun h => by rw [h] at hempty; cases hempty
  have hempty' : decl'.ident.isEmpty = false :=
    Bool.eq_false_iff.2 fun h => hident hne (String.isEmpty_iff.1 h)
  exact ⟨_, push_eq_ok_iff.2 ⟨h.size_eq ▸ hparent, hkind ▸ hunit, hempty', rfl, rfl⟩,
    h.attached hR, h.size_eq⟩

end Tree

end JavaLint
