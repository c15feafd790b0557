import JavaLint.CheckSet
import JavaLint.Naming.ParameterName
import JavaLint.Proofs.StableSort
import JavaLint.Proofs.Tree.Order
/-!
# What the check of parameter names reports

The verdict on a node passes through the dispatch by token, the resolved scope,
the override marker and the pattern. This file says which nodes come out of a
whole inspection, what is said of each, and in which order.

## Main definitions

- `Tree.HasMarkedParent` — a node directly below a method with an override marker
- `ParameterName.Reported` — the nodes that the check has to report

## Main statements

- `ParameterName.inspect_reports_exactly` — an inspection reports those nodes, each once, by place
-/

namespace JavaLint

/-- The parent of the node is a method that carries an override marker. -/
def Tree.HasMarkedParent (t : Tree) (id : NodeId) : Prop :=
  ∃ parent node, t.parent? id = some parent ∧ t.get? parent = some node ∧ node.kind = .method ∧
    ∃ a ∈ node.modifiers.annotations, a.isOverrideMarker = true

theorem Tree.isOverriding_iff {t : Tree} {id : NodeId} :
    t.isOverriding id = true ↔
      ∃ node, t.get? id = some node ∧ node.kind = .method ∧
        ∃ a ∈ node.modifiers.annotations, a.isOverrideMarker = true := by
  simp [isOverriding, Option.any_eq_true]

theorem Tree.belongsToOverride_iff {t : Tree} {id : NodeId} :
    t.belongsToOverride id = true ↔ t.HasMarkedParent id := by
  unfold belongsToOverride nearestMethod? HasMarkedParent
  cases hp : t.parent? id with
  | none => simp
  | some parent =>
    simp only [Option.some.injEq, exists_and_left, exists_eq_left']
    rw [← Tree.isOverriding_iff]
    split
    · rfl
    · next h =>
      -- a node that is no method carries no marker that counts
      have hno : t.isOverriding parent ≠ true := by
        intro ho
        obtain ⟨node, hnode, hkind, -⟩ := Tree.isOverriding_iff.1 ho
        simp [hnode, hkind] at h
      simp [hno]

namespace ParameterName

/-- The nodes that the check has to report: the formal parameters in the range
    of scopes that are not left out as belonging to an overriding method and
    whose names do not match the pattern. -/
structure Reported (p : ParameterName) (t : Tree) (id : NodeId) (node : TreeNode) : Prop where
  get?_eq : t.get? id = some node
  kind_eq : node.kind = .parameter .formal
  in_range : p.rule.filter.accepts (t.resolvedScope id) = true
  not_left_out : ¬ (p.rule.ignoreOverridden = true ∧ t.HasMarkedParent id)
  mismatch : p.rule.pattern.accepts node.ident = false

variable {p : ParameterName} {t : Tree} {id : NodeId} {node : TreeNode} {path : String}

theorem covers_iff :
    p.covers t id = true ↔ p.rule.filter.accepts (t.resolvedScope id) = true ∧
      ¬ (p.rule.ignoreOverridden = true ∧ t.HasMarkedParent id) := by
  simp only [covers, Bool.and_eq_true, Bool.not_eq_true', Bool.and_eq_false_iff,
    ← Tree.belongsToOverride_iff, not_and_or, Bool.not_eq_true]

/-- The verdict on a node, with the node that it is about. -/
def found? (p : ParameterName) (t : Tree) (id : NodeId) : Option (NodeId × TreeNode) :=
  (t.get? id).bind fun node =>
    if node.kind = .parameter .formal && p.covers t id && !p.rule.pattern.accepts node.ident then
      some (id, node)
    else none

theorem found?_eq_some_iff {id' : NodeId} :
    p.found? t id = some (id', node) ↔ id' = id ∧ p.Reported t id node := by
  unfold found?
  rw [Option.bind_eq_some_iff]
  constructor
  · rintro ⟨n, hn, h⟩
    split at h
    · next hc =>
      obtain ⟨rfl, rfl⟩ := Prod.mk.inj (Option.some.inj h)
      simp only [Bool.and_eq_true, decide_eq_true_eq, Bool.not_eq_true'] at hc
      obtain ⟨hrange, hout⟩ := covers_iff.1 hc.1.2
      exact ⟨rfl, hn, hc.1.1, hrange, hout, hc.2⟩
    · simp at h
  · rintro ⟨rfl, h⟩
    refine ⟨node, h.get?_eq, if_pos ?_⟩
    simp [h.kind_eq, covers_iff.2 ⟨h.in_range, h.not_left_out⟩, h.mismatch]

theorem violation?_eq (p : ParameterName) (t : Tree) (path : String) (id : NodeId) :
    p.violation? ⟨path, t⟩ id = (p.found? t id).map fun n => p.violationAt ⟨path, t⟩ n.2 := by
  unfold violation? found?
  cases t.get? id with
  | none => rfl
  | some node =>
    simp only [Option.bind_some]
    split <;> rfl

/-- The set of this one check. -/
def alone (p : ParameterName) : CheckSet :=
  ⟨#[p.toCheck], ⟨[(.parameterDef, [0])]⟩⟩

theorem ofRegistrations_alone (p : ParameterName) :
    CheckSet.ofRegistrations [{ check := p.toCheck }] = .ok p.alone :=
  rfl

/-- Only parameters are handed to the check, and it has nothing to say about other nodes. -/
theorem atNode_alone (p : ParameterName) (t : Tree) (path : String) (id : NodeId) :
    p.alone.atNode ⟨path, t⟩ id = (p.violation? ⟨path, t⟩ id).toList := by
  unfold CheckSet.atNode
  cases hnode : t.get? id with
  | none => simp [violation?, hnode]
  | some node =>
    by_cases hk : node.kind.token = .parameterDef
    · have hd : p.alone.dispatch.get? node.kind.token = some [0] := by
        rw [hk]
        rfl
      have hc : p.alone.checks[0]? = some p.toCheck := rfl
      have he : p.toCheck.evaluate = p.violation? := rfl
      simp only [hd, Option.getD_some, List.filterMap_cons, List.filterMap_nil, hc,
        Option.bind_some, he]
      cases p.violation? ⟨path, t⟩ id <;> rfl
    -- a node with another token is no formal parameter either
    · have hd : p.alone.dispatch.get? node.kind.token = none := by
        simp [Dispatch.get?, alone, List.lookup_cons, beq_eq_false_iff_ne.2 hk]
      have hkind : node.kind ≠ .parameter .formal := fun he => hk (he ▸ rfl)
      simp [hd, violation?, hnode, hkind]

/-- The nodes that the check finds, in depth-first order. -/
def foundAll (p : ParameterName) (t : Tree) : List (NodeId × TreeNode) :=
  t.preorder.filterMap (p.found? t)

theorem mem_foundAll (h : t.WellFormed) :
    (id, node) ∈ p.foundAll t ↔ p.Reported t id node := by
  simp only [foundAll, List.mem_filterMap, found?_eq_some_iff, h.mem_preorder]
  constructor
  · rintro ⟨_, -, rfl, hr⟩
    exact hr
  · intro hr
    exact ⟨id, Tree.lt_size_of_get? hr.get?_eq, rfl, hr⟩

theorem foundAll_pairwise (h : t.WellFormed) :
    (p.foundAll t).Pairwise fun a b => t.Before a.1 b.1 := by
  refine List.Pairwise.filterMap _ ?_ h.preorder_pairwise
  rintro a b hab ⟨a', na⟩ ha ⟨b', nb⟩ hb
  obtain ⟨rfl, -⟩ := found?_eq_some_iff.1 ha
  obtain ⟨rfl, -⟩ := found?_eq_some_iff.1 hb
  exact hab

theorem foundAll_nodup (h : t.WellFormed) : (p.foundAll t).Nodup := by
  refine (foundAll_pairwise h).imp ?_
  rintro a b hab rfl
  exact h.not_before_self _ hab

/-- An inspection sorts the violations at the nodes that the check finds. -/
theorem inspect_alone (p : ParameterName) (t : Tree) (path : String) :
    p.alone.inspect ⟨path, t⟩ =
      ((p.foundAll t).map fun n => p.violationAt ⟨path, t⟩ n.2).mergeSort
        fun a b => (a.comparePosition b).isLE := by
  have hraw : t.preorder.flatMap (p.alone.atNode ⟨path, t⟩) =
      (p.foundAll t).map fun n => p.violationAt ⟨path, t⟩ n.2 := by
    rw [foundAll, List.map_filterMap]
    induction t.preorder with
    | nil => rfl
    | cons id rest ih =>
      rw [List.flatMap_cons, List.filterMap_cons, ih, atNode_alone, violation?_eq]
      cases p.found? t id <;> rfl
  rw [CheckSet.inspect, hraw]

/-- Two nodes by place, those at one place in the order of the source text. -/
def InOrder (t : Tree) (a b : NodeId × TreeNode) : Prop :=
  a.2.position.line < b.2.position.line ∨
    a.2.position.line = b.2.position.line ∧
      (a.2.position.column < b.2.position.column ∨
        a.2.position.column = b.2.position.column ∧ t.Before a.1 b.1)

/-- The check of parameter names can always be set up alone. An inspection then
    yields one violation for each node that it has to report and nothing else,
    ordered by line and column, and at one place in depth-first order. -/
theorem inspect_reports_exactly (p : ParameterName) (h : t.Built) (path : String) :
    ∃ set, CheckSet.ofRegistrations [{ check := p.toCheck }] = .ok set ∧
      ∃ nodes : List (NodeId × TreeNode),
        nodes.Nodup ∧ (∀ id node, (id, node) ∈ nodes ↔ p.Reported t id node) ∧
        nodes.Pairwise (InOrder t) ∧
        set.inspect ⟨path, t⟩ = nodes.map fun n =>
          .ofMessage "SC101" "parameter-name" p.severity
            { file := path, line := n.2.position.line, column := n.2.position.column,
              offset := n.2.offset, length := n.2.ident.utf8ByteSize }
            "name.invalidPattern" [n.2.ident, p.rule.pattern.source] := by
  have hwf := h.wellFormed
  let f : NodeId × TreeNode → Violation := fun n => p.violationAt ⟨path, t⟩ n.2
  let le : NodeId × TreeNode → NodeId × TreeNode → Bool :=
    fun a b => ((f a).comparePosition (f b)).isLE
  have hperm := List.mergeSort_perm (p.foundAll t) le
  have hstable := pairwise_mergeSort_stable le
    (fun _ _ _ => Violation.comparePosition_trans)
    (fun _ _ => Violation.comparePosition_total _ _) (foundAll_pairwise (p := p) hwf)
  -- the nodes are sorted along with their violations, so that ties are ties of nodes
  refine ⟨p.alone, p.ofRegistrations_alone, (p.foundAll t).mergeSort le, ?_, ?_, ?_, ?_⟩
  · refine hperm.nodup_iff.2 ((foundAll_pairwise hwf).imp ?_)
    rintro a b hab rfl
    exact hwf.not_before_self _ hab
  · intro id node
    rw [hperm.mem_iff, mem_foundAll hwf]
  · refine hstable.imp ?_
    rintro a b ⟨hle, hties⟩
    simp only [le, Violation.comparePosition_isLE_iff] at hle hties
    have hla : (f a).location.line = a.2.position.line := rfl
    have hlb : (f b).location.line = b.2.position.line := rfl
    have hca : (f a).location.column = a.2.position.column := rfl
    have hcb : (f b).location.column = b.2.position.column := rfl
    rw [hla, hlb, hca, hcb] at hle hties
    rcases hle with hlt | ⟨heq, hle⟩
    · exact Or.inl hlt
    · rcases Nat.lt_or_eq_of_le hle with hlt | hcol
      · exact Or.inr ⟨heq, Or.inl hlt⟩
      · exact Or.inr ⟨heq, Or.inr ⟨hcol, hties (Or.inr ⟨heq.symm, Nat.le_of_eq hcol.symm⟩)⟩⟩
  · rw [inspect_alone]
    have hmap : ∀ a ∈ p.foundAll t, ∀ b ∈ p.foundAll t, le a b = ((f a).comparePosition (f b)).isLE :=
      fun _ _ _ _ => rfl
    exact (List.map_mergeSort hmap).symm

/-- A parameter without a method, and one of a marked method in the body of an
    anonymous class that is reported at the same place. -/
def namesakes : Tree :=
  ((((Tree.ofUnit "A.java").attached 0 ⟨.parameter .formal, "Orphan", ⟨3, 7⟩, 40, {}⟩).attached 0
    ⟨.anonymousClass, "Runnable", ⟨2, 1⟩, 20, {}⟩).attached 2
    ⟨.method, "run", ⟨2, 9⟩, 28, { annotations := [⟨"Override", ⟨2, 1⟩⟩] }⟩).attached 3
    ⟨.parameter .formal, "Orphan", ⟨3, 7⟩, 40, {}⟩

/-- The check that takes no name but `h`. -/
def onlyH : ParameterName :=
  { rule := { pattern := ⟨"h", .concat (.look .textStart)
      (.concat (.chars (.single 'h')) (.look .textEnd))⟩ } }

theorem inspect_reports_exactly_namesakes :
    namesakes.Built ∧
      ∃ set, CheckSet.ofRegistrations [{ check := onlyH.toCheck }] = .ok set ∧
        ∃ nodes : List (NodeId × TreeNode),
          nodes.Nodup ∧ (∀ id node, (id, node) ∈ nodes ↔ onlyH.Reported namesakes id node) ∧
          nodes.Pairwise (InOrder namesakes) ∧
          set.inspect ⟨"A.java", namesakes⟩ = nodes.map fun n =>
            .ofMessage "SC101" "parameter-name" .error
              { file := "A.java", line := n.2.position.line, column := n.2.position.column,
                offset := n.2.offset, length := n.2.ident.utf8ByteSize }
              "name.invalidPattern" [n.2.ident, "h"] := by
  have hbuilt : namesakes.Built := by
    refine .attached (.attached (.attached (.attached (.ofUnit "A.java") ?_ ?_ ?_) ?_ ?_ ?_)
      ?_ ?_ ?_) ?_ ?_ ?_
    all_goals decide
  exact ⟨hbuilt, inspect_reports_exactly onlyH hbuilt "A.java"⟩

end ParameterName

end JavaLint
