import JavaLint.Proofs.Naming.Inspection
import JavaLint.Proofs.Scope.Resolution
/-!
# What scopes and override markers leave out

The settings of the check of parameter names for scopes and for overriding
methods only ever take violations away. An inspection with them yields what an
inspection without them yields, in the same order, less the violations of the
parameters that the settings leave out.

## Main definitions

- `ParameterName.unrestricted` — the check without these settings
- `ParameterName.LeavesOut` — the parameters that the settings leave out
- `ParameterName.Widens` — another check whose settings leave out less

## Main statements

- `ParameterName.foundAll_eq_filter` — the check finds what it finds without these settings, less
  what they leave out
- `ParameterName.inspect_leaves_out` — the same of whole inspections, and what follows when
  settings are widened
-/

namespace JavaLint

theorem ScopeFilter.accepts_iff {filter : ScopeFilter} {scope : Scope} :
    filter.accepts scope = true ↔
      (∀ e, filter.excluded = some e → ¬ scope.isIn e = true) ∧
        ∀ f, filter.floor = some f → scope.isIn f = true := by
  obtain ⟨floor, excluded⟩ := filter
  cases floor <;> cases excluded <;> simp [accepts]

namespace ParameterName

variable {p q : ParameterName} {u : SourceUnit} {t : Tree} {id : NodeId} {node : TreeNode}

/-- The check without restrictions on scopes and on overriding methods. -/
def unrestricted (p : ParameterName) : ParameterName :=
  { p with rule.filter := {}, rule.ignoreOverridden := false }

/-- The settings leave out a parameter whose resolved scope is at least as visible
    as the excluded one or less visible than the floor, and, if parameters of
    overriding methods are ignored, one whose parent is a method with an override
    marker. -/
def LeavesOut (p : ParameterName) (t : Tree) (id : NodeId) : Prop :=
  (∃ e, p.rule.filter.excluded = some e ∧ (t.resolvedScope id).isIn e = true) ∨
    (∃ f, p.rule.filter.floor = some f ∧ ¬ (t.resolvedScope id).isIn f = true) ∨
    p.rule.ignoreOverridden = true ∧ t.HasMarkedParent id

theorem covers_iff_not_leavesOut : p.covers t id = true ↔ ¬ p.LeavesOut t id := by
  rw [covers_iff, ScopeFilter.accepts_iff]
  simp only [LeavesOut, not_or, not_exists, not_and, not_not]
  tauto

instance (p : ParameterName) (t : Tree) (id : NodeId) : Decidable (p.LeavesOut t id) :=
  decidable_of_iff (¬ p.covers t id = true) (by rw [covers_iff_not_leavesOut, not_not])

/-- The check reports the nodes that it reports without the settings, less those
    that they leave out. -/
theorem reported_iff :
    p.Reported t id node ↔ p.unrestricted.Reported t id node ∧ ¬ p.LeavesOut t id := by
  rw [← covers_iff_not_leavesOut, covers_iff]
  constructor
  · exact fun h => ⟨⟨h.get?_eq, h.kind_eq, rfl, by simp [unrestricted], h.mismatch⟩, h.in_range,
      h.not_left_out⟩
  · rintro ⟨h, hrange, hmarker⟩
    exact ⟨h.get?_eq, h.kind_eq, hrange, hmarker, h.mismatch⟩

theorem found?_eq_filter (p : ParameterName) (t : Tree) (id : NodeId) :
    p.found? t id = (p.unrestricted.found? t id).filter fun n => ¬ p.LeavesOut t n.1 := by
  refine Option.ext fun ⟨id', node⟩ => ?_
  rw [Option.filter_eq_some_iff, found?_eq_some_iff, found?_eq_some_iff, reported_iff,
    decide_eq_true_eq]
  constructor
  · rintro ⟨rfl, h⟩
    exact ⟨⟨rfl, h.1⟩, h.2⟩
  · rintro ⟨⟨rfl, h⟩, hkept⟩
    exact ⟨rfl, h, hkept⟩

/-- In depth-first order the check finds what it finds without the settings, less
    what they leave out. -/
theorem foundAll_eq_filter (p : ParameterName) (t : Tree) :
    p.foundAll t = (p.unrestricted.foundAll t).filter fun n => ¬ p.LeavesOut t n.1 := by
  unfold foundAll
  rw [List.filter_filterMap]
  exact List.filterMap_congr fun id _ => p.found?_eq_filter t id

/-- Which of two nodes comes first is decided by the places of their violations. -/
def byPlace (p : ParameterName) (u : SourceUnit) (a b : NodeId × TreeNode) : Bool :=
  ((p.violationAt u a.2).comparePosition (p.violationAt u b.2)).isLE

/-- The nodes that the check finds, in the order of their violations. -/
def inOrder (p : ParameterName) (u : SourceUnit) : List (NodeId × TreeNode) :=
  (p.foundAll u.tree).mergeSort (p.byPlace u)

theorem inspect_eq_map_inOrder (p : ParameterName) (u : SourceUnit) :
    p.alone.inspect u = (p.inOrder u).map fun n => p.violationAt u n.2 := by
  rw [inspect_alone p u.tree u.path]
  exact (List.map_mergeSort (f := fun n : NodeId × TreeNode => p.violationAt u n.2)
    fun _ _ _ _ => rfl).symm

/-- Leaving nodes out changes nothing in the order of the others. -/
theorem inOrder_eq_filter (p : ParameterName) (u : SourceUnit) :
    p.inOrder u = (p.unrestricted.inOrder u).filter fun n => ¬ p.LeavesOut u.tree n.1 := by
  have hfilter := filter_mergeSort (p.byPlace u) (fun _ _ _ => Violation.comparePosition_trans)
    (fun _ _ => Violation.comparePosition_total _ _) (fun n => decide ¬ p.LeavesOut u.tree n.1)
    (p.unrestricted.foundAll u.tree)
  rw [inOrder, foundAll_eq_filter, ← hfilter]
  rfl

/-! ## Wider settings -/

/-- `p.Widens q`: the check `q` is `p` with a less visible floor or none, a more
    visible excluded scope or none, the parameters of overriding methods not
    ignored, or several of these. -/
structure Widens (p q : ParameterName) : Prop where
  pattern_eq : q.rule.pattern = p.rule.pattern
  severity_eq : q.severity = p.severity
  floor_isIn (g : Scope) : q.rule.filter.floor = some g →
    ∃ f, p.rule.filter.floor = some f ∧ f.isIn g = true
  isIn_excluded (d : Scope) : q.rule.filter.excluded = some d →
    ∃ e, p.rule.filter.excluded = some e ∧ d.isIn e = true
  ignoreOverridden : q.rule.ignoreOverridden = true → p.rule.ignoreOverridden = true

/-- Without the settings there is no difference. -/
theorem Widens.unrestricted_eq (h : p.Widens q) : q.unrestricted = p.unrestricted := by
  obtain ⟨⟨pattern, filter, ignoreOverridden⟩, severity⟩ := p
  obtain ⟨⟨pattern', filter', ignoreOverridden'⟩, severity'⟩ := q
  obtain rfl : pattern' = pattern := h.pattern_eq
  obtain rfl : severity' = severity := h.severity_eq
  rfl

/-- Wider settings leave out nothing else. -/
theorem Widens.leavesOut (h : p.Widens q) (hq : q.LeavesOut t id) : p.LeavesOut t id := by
  rcases hq with ⟨d, hd, hscope⟩ | ⟨g, hg, hscope⟩ | ⟨hignore, hmarker⟩
  · obtain ⟨e, he, hle⟩ := h.isIn_excluded d hd
    exact .inl ⟨e, he, Scope.isIn_trans hscope hle⟩
  · obtain ⟨f, hf, hle⟩ := h.floor_isIn g hg
    exact .inr (.inl ⟨f, hf, fun hin => hscope (Scope.isIn_trans hin hle)⟩)
  · exact .inr (.inr ⟨h.ignoreOverridden hignore, hmarker⟩)

/-- Wider settings never lose a violation. -/
theorem Widens.inspect_sublist (h : p.Widens q) (u : SourceUnit) :
    (p.alone.inspect u).Sublist (q.alone.inspect u) := by
  have hviolation : (fun n : NodeId × TreeNode => q.violationAt u n.2) =
      fun n => p.violationAt u n.2 := by
    funext n
    rw [violationAt, violationAt, h.pattern_eq, h.severity_eq]
  rw [inspect_eq_map_inOrder, inspect_eq_map_inOrder, inOrder_eq_filter p, inOrder_eq_filter q,
    h.unrestricted_eq, hviolation]
  refine List.Sublist.map _ (List.monotone_filter_right _ fun n hkept => ?_)
  simp only [decide_eq_true_eq] at hkept ⊢
  exact fun hq => hkept (h.leavesOut hq)

/-- The excluded scope wins, whatever the floor. -/
theorem not_reported_of_excluded {e : Scope} (he : p.rule.filter.excluded = some e)
    (hscope : (t.resolvedScope id).isIn e = true) : ¬ p.Reported t id node := by
  rw [reported_iff]
  exact fun h => h.2 (.inl ⟨e, he, hscope⟩)

theorem mem_inOrder (h : u.tree.WellFormed) :
    (id, node) ∈ p.inOrder u ↔ p.Reported u.tree id node := by
  rw [inOrder, List.mem_mergeSort, mem_foundAll h]

/-- The settings for scopes and overriding methods take violations away and do
    nothing else. The inspection by a check with any of these settings yields what
    the one without them yields, one violation after the other and in the same
    order, less the violations of the parameters that the settings leave out. So
    the excluded scope wins whatever the floor, and a less visible floor, no excluded
    scope or parameters of overriding methods that count never lose a violation. -/
theorem inspect_leaves_out (p : ParameterName) (u : SourceUnit) :
    (∀ q : ParameterName, CheckSet.ofRegistrations [{ check := q.toCheck }] = .ok q.alone) ∧
      (∃ nodes : List (NodeId × TreeNode),
        (∀ n ∈ nodes, p.unrestricted.Reported u.tree n.1 n.2) ∧
        (u.tree.Built → nodes.Nodup ∧
          ∀ id node, p.unrestricted.Reported u.tree id node → (id, node) ∈ nodes) ∧
        p.unrestricted.alone.inspect u = nodes.map (fun n => p.violationAt u n.2) ∧
        p.alone.inspect u =
          (nodes.filter fun n => ¬ p.LeavesOut u.tree n.1).map fun n => p.violationAt u n.2) ∧
      (∀ e, p.rule.filter.excluded = some e → ∀ id node,
        (u.tree.resolvedScope id).isIn e = true → ¬ p.Reported u.tree id node) ∧
      ∀ q, p.Widens q → (p.alone.inspect u).Sublist (q.alone.inspect u) := by
  refine ⟨ofRegistrations_alone, ⟨p.unrestricted.inOrder u, ?_, ?_, ?_, ?_⟩, ?_, ?_⟩
  · rintro ⟨id, node⟩ hn
    obtain ⟨id', -, hfound⟩ := List.mem_filterMap.1 (List.mem_mergeSort.1 hn)
    obtain ⟨rfl, hreported⟩ := found?_eq_some_iff.1 hfound
    exact hreported
  · intro hbuilt
    have hwf := hbuilt.wellFormed
    have hnodup : (p.unrestricted.inOrder u).Nodup :=
      (List.mergeSort_perm _ _).nodup_iff.2 (foundAll_nodup hwf)
    exact ⟨hnodup, fun _ _ => (mem_inOrder hwf).2⟩
  · exact inspect_eq_map_inOrder p.unrestricted u
  · rw [inspect_eq_map_inOrder, inOrder_eq_filter]
  · exact fun e he id node hscope => not_reported_of_excluded he hscope
  · exact fun q h => h.inspect_sublist u

/-- A public class with four methods of one parameter each: a public method, one
    without a visibility keyword, a private one, and one with an override marker. -/
def fourMethods : Tree :=
  (((((((((Tree.ofUnit "A.java").attached 0
    ⟨.type .classType, "A", ⟨1, 14⟩, 13, { visibility := some .pub }⟩).attached 1
    ⟨.method, "m", ⟨2, 17⟩, 31, { visibility := some .pub }⟩).attached 2
    ⟨.parameter .formal, "M", ⟨2, 23⟩, 37, {}⟩).attached 1
    ⟨.method, "n", ⟨3, 10⟩, 50, {}⟩).attached 4
    ⟨.parameter .formal, "N", ⟨3, 16⟩, 56, {}⟩).attached 1
    ⟨.method, "o", ⟨4, 18⟩, 70, { visibility := some .priv }⟩).attached 6
    ⟨.parameter .formal, "O", ⟨4, 24⟩, 76, {}⟩).attached 1
    ⟨.method, "p", ⟨5, 20⟩, 95, { annotations := [⟨"Override", ⟨5, 5⟩⟩] }⟩).attached 8
    ⟨.parameter .formal, "P", ⟨5, 26⟩, 101, {}⟩

/-- The check that takes no name but `h`, from package scope up to protected,
    without the parameters of overriding methods. -/
def onlyHInside : ParameterName :=
  { onlyH with
    rule.filter := { floor := some .pack, excluded := some .pub }, rule.ignoreOverridden := true }

theorem inspect_leaves_out_fourMethods :
    fourMethods.Built ∧ onlyHInside.rule.filter.excluded = some .pub ∧
      (fourMethods.resolvedScope 3).isIn .pub = true ∧ onlyHInside.Widens onlyH ∧
      (∃ nodes : List (NodeId × TreeNode), nodes.Nodup ∧
        (∀ id node, (id, node) ∈ nodes ↔ onlyHInside.unrestricted.Reported fourMethods id node) ∧
        onlyHInside.unrestricted.alone.inspect ⟨"A.java", fourMethods⟩ =
          nodes.map (fun n => onlyHInside.violationAt ⟨"A.java", fourMethods⟩ n.2) ∧
        onlyHInside.alone.inspect ⟨"A.java", fourMethods⟩ =
          (nodes.filter fun n => ¬ onlyHInside.LeavesOut fourMethods n.1).map
            fun n => onlyHInside.violationAt ⟨"A.java", fourMethods⟩ n.2) ∧
      (∀ node, ¬ onlyHInside.Reported fourMethods 3 node) ∧
      (onlyHInside.alone.inspect ⟨"A.java", fourMethods⟩).Sublist
        (onlyH.alone.inspect ⟨"A.java", fourMethods⟩) := by
  have hbuilt : fourMethods.Built := by
    refine .attached (.attached (.attached (.attached (.attached (.attached (.attached (.attached
      (.attached (.ofUnit "A.java") ?_ ?_ ?_) ?_ ?_ ?_) ?_ ?_ ?_) ?_ ?_ ?_) ?_ ?_ ?_) ?_ ?_ ?_)
      ?_ ?_ ?_) ?_ ?_ ?_) ?_ ?_ ?_
    all_goals decide
  have hscope : (fourMethods.resolvedScope 3).isIn .pub = true := by decide
  have hwider : onlyHInside.Widens onlyH :=
    ⟨rfl, rfl, nofun, nofun, nofun⟩
  obtain ⟨-, ⟨nodes, hsound, hcomplete, hall, hkept⟩, hwins, hlose⟩ :=
    inspect_leaves_out onlyHInside ⟨"A.java", fourMethods⟩
  obtain ⟨hnodup, hmem⟩ := hcomplete hbuilt
  exact ⟨hbuilt, rfl, hscope, hwider,
    ⟨nodes, hnodup, fun id node => ⟨hsound (id, node), hmem id node⟩, hall, hkept⟩,
    fun node => hwins .pub rfl 3 node hscope, hlose onlyH hwider⟩

example : [3, 5, 7, 9].filter (fun id => ¬ onlyHInside.LeavesOut fourMethods id) = [5] := by decide

end ParameterName

end JavaLint
