import JavaLint.Java.Frontend
import JavaLint.Proofs.CheckSet.Traversal
import JavaLint.Proofs.Config.Checks
import JavaLint.Proofs.Java.Extraction
import JavaLint.Proofs.Naming.Inspection
import JavaLint.Proofs.Run.Basic
/-!
# Runs that check the names of parameters

A run of checks of parameter names on a Java source reports the parameters that
one of its checks has to report in the tree of the source.

## Main definitions

- `Run.Setup.ChecksParameterNames` — setups that check the names of parameters only
- `Run.Setup.Enables` — the checks of a setup that the configuration leaves enabled
- `Java.treeOf` — the tree of a source text, given a grammar

## Main statements

- `Checks.reportsUnderPath_of_ofConfig` — the checks of a configuration report under the
  path of the source unit
- `Run.mem_checkSource_iff` — what a run reports on a source text
-/

namespace JavaLint

/-- A registered check of parameter names is handed all parameters. -/
theorem Registration.wants_parameterDef {r : Registration} {p : ParameterName} {tokens : List Token}
    (hr : r.check = p.toCheck) (h : r.wanted = .ok tokens) : r.Wants .parameterDef := by
  rw [wants_iff_of_wanted h, hr]
  exact .inr (List.mem_singleton_self _)

namespace ParameterName

variable {p : ParameterName} {t : Tree} {path : String} {id : NodeId} {v : Violation}

theorem violation?_eq_some_iff :
    p.violation? ⟨path, t⟩ id = some v ↔
      ∃ node, p.Reported t id node ∧ v = p.violationAt ⟨path, t⟩ node := by
  rw [violation?_eq, Option.map_eq_some_iff]
  constructor
  · rintro ⟨⟨id', node⟩, hfound, rfl⟩
    exact ⟨node, (found?_eq_some_iff.1 hfound).2, rfl⟩
  · rintro ⟨node, hreported, rfl⟩
    exact ⟨(id, node), found?_eq_some_iff.2 ⟨rfl, hreported⟩, rfl⟩

theorem reportsUnderPath_toCheck (p : ParameterName) : p.toCheck.ReportsUnderPath := by
  intro u id v h
  obtain ⟨node, -, rfl⟩ := violation?_eq_some_iff.1 h
  rfl

end ParameterName

/-- A registered check of parameter names is handed all nodes that it has something to say of. -/
theorem Registration.verdict?_eq {r : Registration} {p : ParameterName} (hp : r.check = p.toCheck)
    (path : String) (t : Tree) (id : NodeId) :
    r.verdict? ⟨path, t⟩ id = p.violation? ⟨path, t⟩ id := by
  unfold verdict?
  split
  · rw [hp]
    rfl
  · next hnot =>
    cases hv : p.violation? ⟨path, t⟩ id with
    | none => rfl
    | some v =>
      obtain ⟨node, hreported, -⟩ := ParameterName.violation?_eq_some_iff.1 hv
      have hasks : r.Asks .parameterDef := .inr (hp ▸ List.mem_singleton_self _)
      exact absurd ⟨node, hreported.get?_eq, hreported.kind_eq ▸ hasks⟩ hnot

namespace Checks

variable {c : Config} {only : Option (List String)}

/-- The checks of a configuration report under the path of the source unit. -/
theorem reportsUnderPath_of_ofConfig {regs : List Registration} (h : ofConfig c only = .ok regs) :
    ∀ reg ∈ regs, reg.check.ReportsUnderPath := by
  intro reg hreg
  obtain ⟨p, hp⟩ := exists_toCheck_of_mem_ofConfig h hreg
  rw [hp]
  exact p.reportsUnderPath_toCheck

end Checks

/-- The tree of a source text with the concrete syntax tree that `grammar` has for it. -/
def Java.treeOf (grammar : List Char → Cst) (unit source : String) (tabWidth : Nat) :
    Except TreeError Tree :=
  (Source.ofText source tabWidth.toUInt64).declarations unit (grammar source.toList)

theorem Java.treeOf_of_parseWith {grammar : List Char → Cst} {unit source : String} {tabWidth : Nat}
    {t : Tree} (h : parseWith grammar unit source tabWidth.toUInt64 = .ok t) :
    treeOf grammar unit source tabWidth = .ok t :=
  declarations_of_parseWith h

namespace Run

variable {directory path source : String} {setup : Setup} {r : Run} {vs : List Violation}
  {grammar : List Char → Java.Cst}

/-- A setup that does nothing but check the names of parameters in Java sources,
    by any number of checks. -/
structure Setup.ChecksParameterNames (setup : Setup) (grammar : List Char → Java.Cst) : Prop where
  frontend_eq : setup.frontend = some (Java.frontendWith grammar)
  exists_toCheck : ∀ r ∈ setup.registrations, ∃ p : ParameterName, r.check = p.toCheck

/-- A check of parameter names belongs to a setup, and the configuration leaves it enabled. -/
def Setup.Enables (setup : Setup) (p : ParameterName) : Prop :=
  setup.config.isEnabled ParameterName.name = true ∧
    ∃ r ∈ setup.registrations, r.check = p.toCheck

theorem Setup.ChecksParameterNames.mem_enabled_iff (h : setup.ChecksParameterNames grammar)
    {reg : Registration} :
    reg ∈ setup.enabled ↔ reg ∈ setup.registrations ∧
      ∃ p : ParameterName, reg.check = p.toCheck ∧ setup.Enables p := by
  unfold enabled
  rw [List.mem_filter]
  refine and_congr_right fun hmem => ?_
  obtain ⟨p, hp⟩ := h.exists_toCheck reg hmem
  have hname : reg.check.name = ParameterName.name := by
    rw [hp]
    rfl
  rw [hname]
  exact ⟨fun hen => ⟨p, hp, hen, reg, hmem, hp⟩, fun ⟨_, _, hen, _⟩ => hen⟩

/-- A run of checks of parameter names reports on a source text what one of its
    enabled checks has to report in the tree of the text. -/
theorem mem_checkSource_iff (hs : setup.ChecksParameterNames grammar)
    (hr : ofSetup directory setup = .ok r) (hvs : r.checkSource path source = .ok vs) :
    ∃ tree, Java.treeOf grammar ((Path.fileName? path).getD "") source
        setup.config.checker.tabWidth = .ok tree ∧
      ∀ v, v ∈ vs ↔ ∃ p id node, setup.Enables p ∧ p.Reported tree id node ∧
        v = withConfiguredSeverity setup.config (p.violationAt ⟨path, tree⟩ node) := by
  obtain ⟨hfrontend, hconfig, hchecks⟩ := ofSetup_eq_ok hr
  obtain ⟨tree, hparse, rfl⟩ := checkSource_eq_ok_iff.1 hvs
  rw [hs.frontend_eq, Option.some.injEq] at hfrontend
  rw [← hfrontend, hconfig] at hparse
  have htree := Java.treeOf_of_parseWith hparse
  have hwf := (Java.Source.built_declarations htree).wellFormed
  refine ⟨tree, htree, fun v => ?_⟩
  rw [hconfig, List.mem_map]
  simp only [CheckSet.mem_inspect_iff hchecks (u := ⟨path, tree⟩) hwf, hs.mem_enabled_iff]
  constructor
  · rintro ⟨v, ⟨id, node, hnode, reg, ⟨hreg, p, hp, henabled⟩, -, heval⟩, rfl⟩
    rw [hp] at heval
    obtain ⟨node', hreported, rfl⟩ := ParameterName.violation?_eq_some_iff.1 heval
    exact ⟨p, id, node', henabled, hreported, rfl⟩
  · rintro ⟨p, id, node, henabled, hreported, rfl⟩
    obtain ⟨hen, reg, hreg, hp⟩ := henabled
    have hmem := hs.mem_enabled_iff.2 ⟨hreg, p, hp, hen, reg, hreg, hp⟩
    -- a registration in the set has a valid selection of tokens, to which the required one belongs
    obtain ⟨tokens, hwanted⟩ := (CheckSet.serves_of_ofRegistrations hchecks).exists_wanted hmem
    refine ⟨_, ⟨id, node, hreported.get?_eq, reg, ⟨hreg, p, hp, hen, reg, hreg, hp⟩, ?_, ?_⟩, rfl⟩
    · rw [hreported.kind_eq]
      exact Registration.wants_parameterDef hp hwanted
    · rw [hp]
      exact ParameterName.violation?_eq_some_iff.2 ⟨node, hreported, rfl⟩

end Run

end JavaLint
