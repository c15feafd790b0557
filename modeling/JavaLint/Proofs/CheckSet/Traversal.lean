import JavaLint.Proofs.Dispatch
import JavaLint.Proofs.StableSort
/-!
# The table against the plain traversal

Without a table one would visit each node once, in depth-first order, and hand
it to each check whose tokens include its own, in registration order. This file
shows that a set of checks does just that, and when there is such a set.

## Main definitions

- `Registration.IsHanded`, `Registration.verdict?` — the nodes for a check, and what it says of them
- `CheckSet.plainFindings` — the plain double loop over nodes and registrations
- `CheckSet.evaluations` — the pairs of check and node that an inspection evaluates
- `CheckSet.Refines` — a set of checks does what the plain double loop does

## Main statements

- `CheckSet.evaluations_eq` — the table yields the pairs of the plain double loop, in its order
- `CheckSet.ofRegistrations_refines_plainFindings` — a set of checks does what the plain double
  loop does, and an unacceptable token is the only obstacle to having one
-/

namespace JavaLint

namespace Registration

variable {r : Registration} {u : SourceUnit} {id : NodeId} {node : TreeNode}

/-- The check of a registration is handed a node if it asks for the node's token. -/
def IsHanded (r : Registration) (u : SourceUnit) (id : NodeId) : Prop :=
  ∃ node, u.tree.get? id = some node ∧ r.Asks node.kind.token

instance (r : Registration) (u : SourceUnit) (id : NodeId) : Decidable (r.IsHanded u id) :=
  decidable_of_iff ((u.tree.get? id).any fun node => decide (r.Asks node.kind.token)) (by
    simp [IsHanded, Option.any_eq_true])

theorem isHanded_iff_asks (hnode : u.tree.get? id = some node) :
    r.IsHanded u id ↔ r.Asks node.kind.token := by
  simp [IsHanded, hnode]

theorem not_isHanded_of_get?_eq_none (hnode : u.tree.get? id = none) : ¬ r.IsHanded u id := by
  simp [IsHanded, hnode]

/-- What the check of a registration says of a node, if the node is handed to it. -/
def verdict? (r : Registration) (u : SourceUnit) (id : NodeId) : Option Violation :=
  if r.IsHanded u id then r.check.evaluate u id else none

end Registration

namespace CheckSet

variable {rs : List Registration} {s : CheckSet} {u : SourceUnit} {id : NodeId}

/-- What one finds without a table: each node is visited once, in depth-first
    order, and handed to each check that asks for its token, in registration order. -/
def plainFindings (rs : List Registration) (u : SourceUnit) : List Violation :=
  u.tree.preorder.flatMap fun id => rs.filterMap fun r => r.verdict? u id

/-- The numbers of the checks that a node is handed to, by the table. -/
def handed (s : CheckSet) (u : SourceUnit) (id : NodeId) : List Nat :=
  match u.tree.get? id with
  | none => []
  | some node => (s.dispatch.get? node.kind.token).getD []

/-- The pairs of a check's number and a node that an inspection evaluates, in order. -/
def evaluations (s : CheckSet) (u : SourceUnit) : List (Nat × NodeId) :=
  u.tree.preorder.flatMap fun id => (s.handed u id).map (·, id)

/-- What a check says of a node. -/
def said? (s : CheckSet) (u : SourceUnit) (pair : Nat × NodeId) : Option Violation :=
  s.checks[pair.1]?.bind (·.evaluate u pair.2)

/-- What the checks say in the course of an inspection, each with its number. -/
def reports (s : CheckSet) (u : SourceUnit) : List (Nat × Violation) :=
  (s.evaluations u).filterMap fun pair => (s.said? u pair).map (pair.1, ·)

theorem atNode_eq_filterMap_said? (s : CheckSet) (u : SourceUnit) (id : NodeId) :
    s.atNode u id = ((s.handed u id).map (·, id)).filterMap (s.said? u) := by
  unfold atNode handed
  rw [List.filterMap_map]
  cases u.tree.get? id <;> rfl

/-- An inspection evaluates the pairs one after the other and sorts what is said. -/
theorem inspect_eq_mergeSort_said? (s : CheckSet) (u : SourceUnit) :
    s.inspect u = ((s.evaluations u).filterMap (s.said? u)).mergeSort
      fun a b => (a.comparePosition b).isLE := by
  rw [evaluations, List.filterMap_flatMap]
  simp only [← atNode_eq_filterMap_said?]
  rfl

theorem map_snd_reports (s : CheckSet) (u : SourceUnit) :
    (s.reports u).map Prod.snd = (s.evaluations u).filterMap (s.said? u) := by
  simp [reports, List.map_filterMap, Function.comp_def]

/-! ## The pairs -/

theorem handed_eq (h : ofRegistrations rs = .ok s) (u : SourceUnit) (id : NodeId) :
    s.handed u id = (rs.zipIdx.filter fun r => r.1.IsHanded u id).map Prod.snd := by
  unfold handed
  cases hnode : u.tree.get? id with
  | none => simp [Registration.not_isHanded_of_get?_eq_none hnode]
  | some node =>
    simp only [(tabulates_of_ofRegistrations h).get?_eq, Registration.isHanded_iff_asks hnode]

/-- The table yields the pairs of the plain double loop, in its order. -/
theorem evaluations_eq (h : ofRegistrations rs = .ok s) (u : SourceUnit) :
    s.evaluations u = u.tree.preorder.flatMap fun id =>
      (rs.zipIdx.filter fun r => r.1.IsHanded u id).map fun r => (r.2, id) := by
  unfold evaluations
  refine List.flatMap_congr fun id _ => ?_
  rw [handed_eq h, List.map_map]
  rfl

/-- No check evaluates a node twice. -/
theorem evaluations_nodup (h : ofRegistrations rs = .ok s) (hu : u.tree.WellFormed) :
    (s.evaluations u).Nodup := by
  rw [evaluations_eq h]
  refine List.pairwise_flatMap.2 ⟨fun id _ => ?_, hu.preorder_nodup.imp ?_⟩
  · -- at one node the numbers of the checks increase
    refine List.pairwise_map.2 (List.Pairwise.filter _ ?_)
    refine List.pairwise_iff_getElem.2 fun i j hi hj hij heq => Nat.ne_of_lt hij ?_
    simpa using congrArg Prod.fst heq
  · intro id id' hne x hx y hy heq
    obtain ⟨r, -, rfl⟩ := List.mem_map.1 hx
    obtain ⟨r', -, rfl⟩ := List.mem_map.1 hy
    exact hne (congrArg Prod.snd heq)

/-! ## The findings -/

theorem said?_eq_evaluate (h : ofRegistrations rs = .ok s) {r : Registration × Nat}
    (hr : r ∈ rs.zipIdx) (u : SourceUnit) (id : NodeId) :
    s.said? u (r.2, id) = r.1.check.evaluate u id := by
  rw [said?, (serves_of_ofRegistrations h).getElem?_checks,
    List.mem_zipIdx_iff_getElem?.1 hr, Option.map_some, Option.bind_some]

/-- The reports of an inspection are the verdicts of the plain double loop. -/
theorem reports_eq (h : ofRegistrations rs = .ok s) (u : SourceUnit) :
    s.reports u = u.tree.preorder.flatMap fun id =>
      rs.zipIdx.filterMap fun r => (r.1.verdict? u id).map (r.2, ·) := by
  rw [reports, evaluations_eq h, List.filterMap_flatMap]
  refine List.flatMap_congr fun id _ => ?_
  rw [List.filterMap_map, List.filterMap_filter]
  refine List.filterMap_congr fun r hr => ?_
  rw [Function.comp_apply, said?_eq_evaluate h hr, Registration.verdict?]
  by_cases hhanded : r.1.IsHanded u id
  · simp [hhanded]
  · simp [hhanded]

theorem inspect_eq_mergeSort_plainFindings (h : ofRegistrations rs = .ok s) (u : SourceUnit) :
    s.inspect u = (plainFindings rs u).mergeSort fun a b => (a.comparePosition b).isLE := by
  have hplain : ∀ id, (rs.zipIdx.filterMap fun r => (r.1.verdict? u id).map (r.2, ·)).map Prod.snd =
      rs.filterMap fun r => r.verdict? u id := by
    intro id
    conv_rhs => rw [← List.zipIdx_map_fst 0 rs, List.filterMap_map]
    simp [List.map_filterMap, Function.comp_def]
  rw [inspect_eq_mergeSort_said?, ← map_snd_reports, reports_eq h, List.map_flatMap, plainFindings]
  simp only [hplain]

/-- `Refines s rs`: the set of checks does by its table what the plain double
    loop over the nodes and the registrations does. -/
structure Refines (s : CheckSet) (rs : List Registration) : Prop where
  /-- An inspection yields what the plain double loop finds, stably sorted by place. -/
  sortsStably (u : SourceUnit) : Violation.SortsStably (plainFindings rs u) (s.inspect u)
  /-- What is sorted is said in the evaluations, and in nothing else. -/
  inspect_eq (u : SourceUnit) :
    s.inspect u = ((s.evaluations u).filterMap (s.said? u)).mergeSort
      fun a b => (a.comparePosition b).isLE
  /-- The evaluations are those of the plain double loop, in its order. -/
  evaluations_eq (u : SourceUnit) :
    s.evaluations u = u.tree.preorder.flatMap fun id =>
      (rs.zipIdx.filter fun r => r.1.IsHanded u id).map fun r => (r.2, id)
  /-- No check evaluates a node twice. -/
  evaluations_nodup {u : SourceUnit} : u.tree.Built → (s.evaluations u).Nodup
  /-- Every node is visited once, in the order of the source text. -/
  visits_once {u : SourceUnit} : u.tree.Built → u.tree.preorder.Nodup ∧
    (∀ id, id ∈ u.tree.preorder ↔ id < u.tree.size) ∧ u.tree.preorder.Pairwise u.tree.Before
  /-- The table has no index without a check. -/
  index_lt : ∀ entry ∈ s.dispatch.entries, ∀ i ∈ entry.2, i < s.checks.size

theorem refines_of_ofRegistrations (h : ofRegistrations rs = .ok s) : s.Refines rs where
  sortsStably u := by
    rw [inspect_eq_mergeSort_plainFindings h]
    exact Violation.sortsStably_mergeSort _
  inspect_eq := inspect_eq_mergeSort_said? s
  evaluations_eq := evaluations_eq h
  evaluations_nodup hu := evaluations_nodup h hu.wellFormed
  visits_once hu :=
    ⟨hu.wellFormed.preorder_nodup, fun _ => hu.wellFormed.mem_preorder,
      hu.wellFormed.preorder_pairwise⟩
  index_lt := (tabulates_of_ofRegistrations h).lt_size

/-- The set of a list of registrations does what the plain double loop over them
    does. There is no such set just if some configured token is not acceptable;
    the error then names the first such token of the first such registration. -/
theorem ofRegistrations_refines_plainFindings (rs : List Registration) :
    (∀ s, ofRegistrations rs = .ok s → s.Refines rs) ∧
      ((∃ e, ofRegistrations rs = .error e) ↔
        ∃ r ∈ rs, ∃ token ∈ r.configured, token ∉ r.check.acceptable) ∧
      ∀ e, ofRegistrations rs = .error e ↔ ∃ before r after, rs = before ++ r :: after ∧
        (∀ r' ∈ before, ∀ token ∈ r'.configured, token ∈ r'.check.acceptable) ∧
          ∃ token, r.Refuses token ∧ e = .unacceptableToken r.check.name token := by
  refine ⟨fun s => refines_of_ofRegistrations, ?_, fun e => ofRegistrations_eq_error_iff⟩
  have hno : (∃ e, ofRegistrations rs = .error e) ↔ ¬ ∃ s, ofRegistrations rs = .ok s := by
    cases ofRegistrations rs <;> simp
  rw [hno, exists_ofRegistrations_iff]
  simp only [not_forall, exists_prop]

/-- A check that reports each node that it is handed. It can be configured for
    methods and parameters, and needs the parameters. -/
def recorder : Check :=
  { name := "recorder", code := "REC", acceptable := [.methodDef, .parameterDef]
    required := [.parameterDef]
    evaluate := fun u id => (u.tree.get? id).map fun node =>
      .ofMessage "REC" "recorder" .info (u.location node) Message.invalidPattern [node.ident] }

/-- The second registration lists a token twice, and one that is required anyway. -/
theorem ofRegistrations_refines_plainFindings_recorder :
    (∃ s, ofRegistrations [{ check := recorder },
        { check := recorder, tokens := some [.methodDef, .parameterDef, .methodDef] }] = .ok s ∧
      s.Refines [{ check := recorder },
        { check := recorder, tokens := some [.methodDef, .parameterDef, .methodDef] }]) ∧
      ofRegistrations [{ check := recorder },
        { check := recorder, tokens := some [.methodDef, .lambda, .classDef] }] =
          .error (.unacceptableToken "recorder" .lambda) := by
  refine ⟨⟨_, rfl, (ofRegistrations_refines_plainFindings _).1 _ rfl⟩, ?_⟩
  refine ((ofRegistrations_refines_plainFindings _).2.2 _).2 ?_
  refine ⟨[_], _, [], rfl, by decide, .lambda, ⟨by decide, [.methodDef], [.classDef], rfl, ?_⟩, rfl⟩
  decide

end CheckSet

end JavaLint
