import JavaLint.Proofs.Tree.Order
import JavaLint.Scope.Resolution
import Mathlib.Data.List.Find
/-!
# Trees that agree at some nodes

The resolved scope of a node is decided by the kinds and visibilities of the node
and of what is above it. Two trees that agree in these at a set of nodes give the
nodes the same scopes, whatever else there is in the trees.

## Main definitions

- `Tree.AgreeOn` — the nodes of a set are of the same kinds and visibilities in two trees

## Main statements

- `Tree.AgreeOn.climb_eq` — the nodes have the same ancestors
- `Tree.AgreeOn.resolvedScope_eq` — the nodes have the same scopes
-/

namespace JavaLint.Tree

variable {P : NodeId → Prop} {t t' : Tree} {a id : NodeId} {above : List NodeId}

/-- The visibility keyword of a node. -/
def visibility? (t : Tree) (id : NodeId) : Option (Option Scope) :=
  (t.get? id).map (·.modifiers.visibility)

theorem declaredScope_eq_getD (t : Tree) (id : NodeId) :
    t.declaredScope id = ((t.kind? id).bind fun kind => (t.visibility? id).map fun visibility =>
      visibility.getD (implicitScope kind ((t.parent? id).bind t.kind?))).getD .priv := by
  unfold declaredScope visibility?
  have hkind : t.kind? id = (t.get? id).map (·.kind) := rfl
  rw [hkind]
  cases t.get? id <;> rfl

/-- At the nodes of a set, with each of which the parent belongs to the set as well,
    two trees have the same kinds, visibilities and parents. -/
structure AgreeOn (P : NodeId → Prop) (t t' : Tree) : Prop where
  kind?_eq {id : NodeId} : P id → t.kind? id = t'.kind? id
  visibility?_eq {id : NodeId} : P id → t.visibility? id = t'.visibility? id
  parent?_eq {id : NodeId} : P id → t.parent? id = t'.parent? id
  parent_mem {id p : NodeId} : P id → t.parent? id = some p → P p

namespace AgreeOn

theorem climb_eq (h : AgreeOn P t t') (fuel : Nat) (hid : P id) :
    t.climb fuel id = t'.climb fuel id := by
  induction fuel generalizing id with
  | zero => rfl
  | succ fuel ih =>
    rw [climb, climb, ← h.parent?_eq hid]
    cases hp : t.parent? id with
    | none => rfl
    | some p => exact congrArg _ (ih (h.parent_mem hid hp))

theorem mem_of_mem_climb (h : AgreeOn P t t') (fuel : Nat) (hid : P id)
    (ha : a ∈ t.climb fuel id) : P a := by
  induction fuel generalizing id with
  | zero => exact absurd ha List.not_mem_nil
  | succ fuel ih =>
    rw [climb] at ha
    cases hp : t.parent? id with
    | none =>
      rw [hp] at ha
      exact absurd ha List.not_mem_nil
    | some p =>
      rw [hp] at ha
      rcases List.mem_cons.1 ha with rfl | ha
      · exact h.parent_mem hid hp
      · exact ih (h.parent_mem hid hp) ha

theorem mem_of_mem_ancestors (h : AgreeOn P t t') (hid : P id) (ha : a ∈ t.ancestors id) : P a :=
  h.mem_of_mem_climb t.size hid ha

theorem declaredScope_eq (h : AgreeOn P t t') (hid : P id) :
    t.declaredScope id = t'.declaredScope id := by
  have hcontainer : (t.parent? id).bind t.kind? = (t'.parent? id).bind t'.kind? := by
    rw [← h.parent?_eq hid]
    exact Option.bind_congr fun p hp => h.kind?_eq (h.parent_mem hid hp)
  rw [declaredScope_eq_getD, declaredScope_eq_getD, h.kind?_eq hid, h.visibility?_eq hid, hcontainer]

theorem scopeAround_eq (h : AgreeOn P t t') (soFar : Option Scope) (habove : ∀ a ∈ above, P a) :
    t.scopeAround soFar above = t'.scopeAround soFar above := by
  induction above generalizing soFar with
  | nil => rfl
  | cons a above ih =>
    obtain ⟨ha, habove⟩ := List.forall_mem_cons.1 habove
    rw [scopeAround, scopeAround, h.kind?_eq ha, h.declaredScope_eq ha]
    simp only [ih _ habove]

variable (hancestors : ∀ a, P a → t.ancestors a = t'.ancestors a)

include hancestors

theorem nearestMember?_eq (h : AgreeOn P t t') (hid : P id) :
    t.nearestMember? id = t'.nearestMember? id := by
  unfold nearestMember?
  rw [← hancestors id hid]
  refine List.find?_congr fun a ha => ?_
  rcases List.mem_cons.1 ha with rfl | ha
  · rw [h.kind?_eq hid]
  · rw [h.kind?_eq (h.mem_of_mem_ancestors hid ha)]

theorem resolvedScope_eq (h : AgreeOn P t t') (hid : P id) :
    t.resolvedScope id = t'.resolvedScope id := by
  unfold resolvedScope
  rw [← h.nearestMember?_eq hancestors hid]
  cases hm : t.nearestMember? id with
  | none => rfl
  | some m =>
    have hmem : m ∈ id :: t.ancestors id := List.mem_of_find?_eq_some hm
    have hP : P m := by
      rcases List.mem_cons.1 hmem with rfl | hmem
      · exact hid
      · exact h.mem_of_mem_ancestors hid hmem
    dsimp only
    rw [← hancestors m hP, ← h.declaredScope_eq hP,
      h.scopeAround_eq none fun a ha => h.mem_of_mem_ancestors hP ha]

end AgreeOn

end JavaLint.Tree
