import JavaLint.Override
import JavaLint.Proofs.Except
import JavaLint.Proofs.Tree.Skeleton
/-!
# Trees without positions

What a tree says about its nodes does not depend on the lines and columns that
they stand at. This file forgets these and shows that nothing else is lost.

## Main definitions

- `Tree.unplaced` — a tree in which all lines and columns are the same

## Main statements

- `Tree.push_unplaced` — declarations are attached without regard to positions
- `Tree.preorder_unplaced`, `Tree.resolvedScope_unplaced`, `Tree.belongsToOverride_unplaced` — what
  is asked of a tree
-/

namespace JavaLint

/-- The position that stands for all of them. -/
def Position.nowhere : Position := ⟨0, 1⟩

/-- An annotation without its position. -/
def Annotation.unplaced (a : Annotation) : Annotation :=
  { a with position := .nowhere }

/-- Modifiers without the positions of the annotations. -/
def Modifiers.unplaced (m : Modifiers) : Modifiers :=
  { m with annotations := m.annotations.map Annotation.unplaced }

/-- A declaration without its positions. The offset stays. -/
def Declaration.unplaced (d : Declaration) : Declaration :=
  { d with position := .nowhere, modifiers := d.modifiers.unplaced }

/-- A node without its positions. -/
def TreeNode.unplaced (n : TreeNode) : TreeNode :=
  { n with toDeclaration := n.toDeclaration.unplaced }

namespace Tree

variable {t t' : Tree} {parent id : NodeId} {decl : Declaration}

/-- A tree without its positions. -/
def unplaced (t : Tree) : Tree :=
  ⟨t.nodes.map TreeNode.unplaced⟩

/-! ## Attaching -/

theorem get?_unplaced (t : Tree) (id : NodeId) :
    t.unplaced.get? id = (t.get? id).map TreeNode.unplaced :=
  Array.getElem?_map

@[simp] theorem size_unplaced (t : Tree) : t.unplaced.size = t.size :=
  Array.size_map

theorem unplaced_attached (t : Tree) (parent : NodeId) (decl : Declaration) :
    (t.attached parent decl).unplaced = t.unplaced.attached parent decl.unplaced := by
  have hget : ∀ id, (t.attached parent decl).unplaced.get? id =
      (t.unplaced.attached parent decl.unplaced).get? id := by
    intro id
    rw [get?_unplaced, get?_attached, get?_attached, size_unplaced, get?_unplaced]
    split
    · rfl
    · split
      · rw [Option.map_map, Option.map_map]
        rfl
      · rfl
  exact congrArg Tree.mk (Array.ext_getElem? hget)

/-- A declaration is attached without regard to positions. -/
theorem push_unplaced (h : t.push parent decl = .ok (t', id)) :
    t.unplaced.push parent decl.unplaced = .ok (t'.unplaced, id) := by
  obtain ⟨hparent, hkind, hident, rfl, rfl⟩ := push_eq_ok_iff.1 h
  refine push_eq_ok_iff.2 ⟨?_, hkind, hident, unplaced_attached t parent decl, ?_⟩
  · rwa [size_unplaced]
  · rw [size_unplaced]

/-! ## Asking -/

/-- Positions are no part of the skeleton. -/
theorem sameSkeleton_unplaced (t : Tree) : t.unplaced.SameSkeleton t := by
  intro id
  rw [get?_unplaced, Option.map_map]
  rfl

/-- The nodes come in the same order. -/
theorem preorder_unplaced (t : Tree) : t.unplaced.preorder = t.preorder :=
  t.sameSkeleton_unplaced.preorder_eq

/-- The scope of a node does not depend on positions. -/
theorem resolvedScope_unplaced (t : Tree) (id : NodeId) :
    t.unplaced.resolvedScope id = t.resolvedScope id :=
  t.sameSkeleton_unplaced.resolvedScope_eq id

theorem isOverriding_unplaced (t : Tree) (id : NodeId) :
    t.unplaced.isOverriding id = t.isOverriding id := by
  have hmarker : Annotation.isOverrideMarker ∘ Annotation.unplaced = Annotation.isOverrideMarker :=
    rfl
  rw [isOverriding, get?_unplaced, isOverriding]
  cases t.get? id with
  | none => rfl
  | some node =>
    change (node.kind == .method && (node.modifiers.annotations.map _).any _) = _
    rw [List.any_map, hmarker]
    rfl

/-- Whether an overriding method declares a node does not depend on positions. -/
theorem belongsToOverride_unplaced (t : Tree) (id : NodeId) :
    t.unplaced.belongsToOverride id = t.belongsToOverride id := by
  have hmethod : t.unplaced.nearestMethod? id = t.nearestMethod? id := by
    rw [nearestMethod?, t.sameSkeleton_unplaced.parent?_eq, nearestMethod?]
    cases t.parent? id with
    | none => rfl
    | some parent =>
      dsimp only
      rw [get?_unplaced, Option.any_map]
      rfl
  have hoverriding : t.unplaced.isOverriding = t.isOverriding := funext t.isOverriding_unplaced
  rw [belongsToOverride, hmethod, hoverriding, belongsToOverride]

end Tree

end JavaLint
