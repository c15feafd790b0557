import Mathlib
import JavaLint.Proofs.CheckSet.Traversal
import JavaLint.Proofs.Config.Checks
import JavaLint.Proofs.Run.Findings
/-!
# What the settings of one check do to a run

A configuration decides at three places over a check: it registers it, it leaves it
enabled, and it sets the severity of what is found under the name of the check. If the
violations of each check carry its name, then all three together touch the violations
with that name only, whichever of the checks with the name reports them.

## Main definitions

- `Check.SignsViolations` — the violations of a check carry its name
- `Findings.filterMap` — findings with their violations changed or left out one by one
- `Run.Setup.Builds` — a setup with the checks of a configuration and further ones makes a run

## Main statements

- `CheckSet.inspect_filter` — what is found without some checks
- `Run.findings_filterMap` — what comes out where each file adds other violations
- `Run.findings_of_check_settings` — another severity, and a check switched off
-/

namespace JavaLint

/-- The violations of a check carry its name. -/
def Check.SignsViolations (c : Check) : Prop :=
  ∀ u id v, c.evaluate u id = some v → v.check = c.name

theorem ParameterName.signsViolations_toCheck (p : ParameterName) : p.toCheck.SignsViolations := by
  intro u id v h
  obtain ⟨node, -, rfl⟩ := violation?_eq_some_iff.1 h
  rfl

theorem Checks.signsViolations_of_ofConfig {c : Config} {only : Option (List String)}
    {regs : List Registration} (h : ofConfig c only = .ok regs) :
    ∀ reg ∈ regs, reg.check.SignsViolations := by
  intro reg hreg
  obtain ⟨p, hp⟩ := exists_toCheck_of_mem_ofConfig h hreg
  rw [hp]
  exact p.signsViolations_toCheck

theorem FileError.check_violation (cause : FileError) (path : String) :
    (cause.violation path).check = brokenFileCheck := by
  cases cause <;> rfl

/-! ## Changed findings -/

/-- What is done to violations one by one leaves each where it is, or leaves it out. -/
def Violation.KeepsPlaces (g : Violation → Option Violation) : Prop :=
  ∀ v w, g v = some w → w.location = v.location

namespace Findings

variable {g : Violation → Option Violation}

/-- The findings with their violations changed or left out one by one. -/
def filterMap (f : Findings) (g : Violation → Option Violation) : Findings :=
  { f with violations := f.violations.filterMap g }

/-- Violations can be changed or left out before or after sorting. -/
theorem sort_filterMap (hg : Violation.KeepsPlaces g) (f : Findings) :
    (f.filterMap g).sort = f.sort.filterMap g := by
  have hplace : ∀ a b a' b' : Violation, g a = some a' → g b = some b' →
      (a'.comparePlace b').isLE = (a.comparePlace b).isLE := by
    intro a b a' b' ha hb
    unfold Violation.comparePlace Violation.comparePosition
    rw [hg a a' ha, hg b b' hb]
  have hsort := filterMap_mergeSort (fun a b : Violation => (a.comparePlace b).isLE)
    (fun _ _ _ => Std.TransCmp.isLE_trans) Violation.comparePlace_total hplace f.violations
  exact congrArg (Findings.mk · f.filesChecked) hsort.symm

end Findings

namespace CheckSet

variable {rs : List Registration} {s s' : CheckSet}

/-- Without the checks of some names, one finds what carries other names. -/
theorem plainFindings_filter (hrs : ∀ r ∈ rs, r.check.SignsViolations) (p : String → Bool)
    (u : SourceUnit) :
    plainFindings (rs.filter fun r => p r.check.name) u =
      (plainFindings rs u).filter fun v => p v.check := by
  unfold plainFindings
  rw [List.filter_flatMap]
  refine List.flatMap_congr fun id _ => ?_
  rw [List.filterMap_filter, List.filter_filterMap]
  refine List.filterMap_congr fun r hr => ?_
  cases hverdict : r.verdict? u id with
  | none => simp
  | some v =>
    have hname : v.check = r.check.name := by
      unfold Registration.verdict? at hverdict
      split at hverdict
      · exact hrs r hr u id v hverdict
      · cases hverdict
    simp [Option.filter, hname]

theorem inspect_filter (hrs : ∀ r ∈ rs, r.check.SignsViolations) (p : String → Bool)
    (hs : ofRegistrations rs = .ok s)
    (hs' : ofRegistrations (rs.filter fun r => p r.check.name) = .ok s') (u : SourceUnit) :
    s'.inspect u = (s.inspect u).filter fun v => p v.check := by
  rw [inspect_eq_mergeSort_plainFindings hs', inspect_eq_mergeSort_plainFindings hs,
    plainFindings_filter hrs, filter_mergeSort]
  · exact fun _ _ _ => Violation.comparePosition_trans
  · exact Violation.comparePosition_total

theorem exists_ofRegistrations_filter (hs : ofRegistrations rs = .ok s) (p : Registration → Bool) :
    ∃ s', ofRegistrations (rs.filter p) = .ok s' := by
  have hall := exists_ofRegistrations_iff.1 ⟨s, hs⟩
  exact exists_ofRegistrations_iff.2 fun r hr => hall r (List.mem_filter.1 hr).1

end CheckSet

namespace Run

variable {directory : String} {setup : Setup} {r r' : Run} {c c' : Config} {checks' : CheckSet}
  {g : Violation → Option Violation}

/-- A setup with another configuration and other checks. -/
def Setup.withChecks (setup : Setup) (c : Config) (regs : List Registration) : Setup :=
  { setup with config := c, registrations := regs }

/-- If the other configuration says the same of files, the run differs in its checks only. -/
theorem ofSetup_withChecks {regs regs' : List Registration}
    (hr : ofSetup directory (setup.withChecks c regs) = .ok r) (hchecker : c'.checker = c.checker)
    (hchecks : CheckSet.ofRegistrations (setup.withChecks c' regs').enabled = .ok checks') :
    ofSetup directory (setup.withChecks c' regs') = .ok { r with checks := checks', config := c' } := by
  obtain ⟨frontend, excludes, checks, hfrontend, hexcludes, -, rfl⟩ := ofSetup_eq_ok_iff.1 hr
  refine ofSetup_eq_ok_iff.2 ⟨frontend, excludes, checks', hfrontend, ?_, hchecks, ?_⟩
  · unfold Setup.patterns Setup.withChecks at hexcludes ⊢
    rw [hchecker]
    exact hexcludes
  · unfold Setup.assemble extensions Setup.withChecks
    dsimp only
    rw [hchecker]

/-- What a file adds is changed along with what the checks find, apart from the mark of a
    file that cannot be checked. -/
theorem violations_filterMap (hchecker : c'.checker = r.config.checker)
    (hinspect : ∀ u, (checks'.inspect u).map (withConfiguredSeverity c') =
      ((r.checks.inspect u).map (withConfiguredSeverity r.config)).filterMap g)
    (hbroken : ∀ v, v.check = brokenFileCheck → g v = some v) (file : SourceFile) :
    ({ r with checks := checks', config := c' } : Run).violations file =
      (r.violations file).filterMap g := by
  have hmark : ∀ cause : FileError,
      [cause.violation file.path] = [cause.violation file.path].filterMap g := by
    intro cause
    rw [List.filterMap_cons, hbroken _ (cause.check_violation file.path)]
    rfl
  -- a mark stays as it is, whether the bytes are no text or the text has no tree
  unfold violations checkFile
  cases String.fromUTF8? file.bytes with
  | none => exact hmark .notText
  | some text =>
    unfold checkSource
    dsimp only
    rw [hchecker]
    cases r.frontend.parse ((Path.fileName? file.path).getD "") text
        r.config.checker.tabWidth.toUInt64 with
    | error e => exact hmark (.unparsable e)
    | ok tree => exact hinspect ⟨file.path, tree⟩

/-- Where each file adds the same violations, changed or left out one by one, so do the
    findings. -/
theorem findings_filterMap (h : ∀ file, r'.violations file = (r.violations file).filterMap g)
    (hg : Violation.KeepsPlaces g) (hselection : r'.selection = r.selection) (hr : r.strict = false)
    (hr' : r'.strict = false) (t : FileTree) :
    r'.findings t = (r.findings t).map (·.filterMap g) := by
  have hsame : r'.files t = r.files t := by
    unfold Run.files
    rw [hselection]
  cases hfiles : r.files t with
  | error e =>
    rw [findings, findings, hsame, hfiles]
    rfl
  | ok files =>
    have hjoined : r'.joined files = (r.joined files).filterMap g := by
      unfold joined Findings.filterMap
      dsimp only
      rw [List.filterMap_flatMap, funext h]
    rw [findings_of_lenient hr' (hsame.trans hfiles), findings_of_lenient hr hfiles, hjoined,
      Findings.sort_filterMap hg]
    rfl

/-- If a run with other checks and another configuration changes or leaves out what the
    checks find, one by one, then it does so with the findings. -/
theorem findings_reconfigured (hlenient : r.strict = false) (hchecker : c'.checker = r.config.checker)
    (hg : Violation.KeepsPlaces g) (hbroken : ∀ v, v.check = brokenFileCheck → g v = some v)
    (hinspect : ∀ u, (checks'.inspect u).map (withConfiguredSeverity c') =
      ((r.checks.inspect u).map (withConfiguredSeverity r.config)).filterMap g) (t : FileTree) :
    ({ r with checks := checks', config := c' } : Run).findings t =
      (r.findings t).map (·.filterMap g) :=
  findings_filterMap (violations_filterMap hchecker hinspect hbroken) hg rfl hlenient hlenient t

/-- With the checks of a configuration, and others in front of and behind them, a setup
    makes a run. -/
def Setup.Builds (setup : Setup) (directory : String) (only : Option (List String))
    (before after : List Registration) (c : Config) (r : Run) : Prop :=
  ∃ regs, Checks.ofConfig c only = .ok regs ∧
    ofSetup directory (setup.withChecks c (before ++ regs ++ after)) = .ok r

variable {only : Option (List String)} {before after : List Registration} {name : String}

/-- Another severity of a check shows in the violations with its name, and nowhere else. -/
theorem Setup.Builds.withSeverity (h : setup.Builds directory only before after c r)
    (hlenient : r.strict = false) (hname : name ≠ brokenFileCheck) (severity : Severity) :
    ∃ r', setup.Builds directory only before after (c.withSeverity name severity) r' ∧
      ∀ t, r'.findings t = (r.findings t).map fun f =>
        { f with violations := f.violations.map fun v =>
            if v.check = name then { v with severity } else v } := by
  obtain ⟨regs, hregs, hr⟩ := h
  obtain ⟨-, hconfig, hchecks⟩ := ofSetup_eq_ok hr
  have hconfig : r.config = c := hconfig
  have hchecker : (c.withSeverity name severity).checker = r.config.checker :=
    hconfig ▸ rfl
  have henabled : (setup.withChecks (c.withSeverity name severity) (before ++ regs ++ after)).enabled =
      (setup.withChecks c (before ++ regs ++ after)).enabled :=
    List.filter_congr fun _ _ => Config.isEnabled_withSeverity
  rw [← henabled] at hchecks
  refine ⟨_, ⟨regs, (Checks.ofConfig_withSeverity c only name severity).trans hregs,
    ofSetup_withChecks hr rfl hchecks⟩, fun t => ?_⟩
  let change : Violation → Violation := fun v => if v.check = name then { v with severity } else v
  have hplaces : Violation.KeepsPlaces (some ∘ change) := by
    rintro v w ⟨⟩
    unfold change
    split <;> rfl
  have hbroken : ∀ v : Violation, v.check = brokenFileCheck → (some ∘ change) v = some v :=
    fun v hv => congrArg some (if_neg fun heq => hname (heq.symm.trans hv))
  have hinspect : ∀ u, (r.checks.inspect u).map
      (withConfiguredSeverity (c.withSeverity name severity)) =
        ((r.checks.inspect u).map (withConfiguredSeverity r.config)).filterMap (some ∘ change) := by
    intro u
    rw [List.filterMap_eq_map, List.map_map, hconfig]
    refine List.map_congr_left fun v _ => ?_
    simp only [Function.comp_apply, withConfiguredSeverity_eq_getD, Config.severity?_withSeverity]
    unfold change
    split <;> rfl
  have hfindings := findings_reconfigured hlenient hchecker hplaces hbroken hinspect t
  unfold Findings.filterMap at hfindings
  rw [List.filterMap_eq_map] at hfindings
  exact hfindings

/-- Without a check one finds what carries other names, be it that the configuration asked
    for the check or that it was added. -/
theorem Setup.Builds.withoutCheck (h : setup.Builds directory only before after c r)
    (hlenient : r.strict = false) (hname : name ≠ brokenFileCheck)
    (hsigns : ∀ reg ∈ before ++ after, reg.check.SignsViolations) :
    ∃ r', setup.Builds directory only before after (c.withoutCheck name) r' ∧
      ∀ t, r'.findings t = (r.findings t).map fun f =>
        { f with violations := f.violations.filter fun v => v.check ≠ name } := by
  obtain ⟨regs, hregs, hr⟩ := h
  obtain ⟨-, hconfig, hchecks⟩ := ofSetup_eq_ok hr
  have hconfig : r.config = c := hconfig
  have hchecker : (c.withoutCheck name).checker = r.config.checker :=
    hconfig ▸ rfl
  -- the check goes from those of the configuration, and is switched off among the added ones
  let keeps : String → Bool := fun other => other ≠ name
  have henabled : (setup.withChecks (c.withoutCheck name)
      (before ++ regs.filter (fun reg => keeps reg.check.name) ++ after)).enabled =
        (setup.withChecks c (before ++ regs ++ after)).enabled.filter fun reg => keeps reg.check.name := by
    unfold Setup.enabled Setup.withChecks
    simp only [List.filter_append, List.filter_filter, Config.isEnabled_withoutCheck]
    unfold keeps
    simp [Bool.and_comm]
  have hsigned : ∀ reg ∈ (setup.withChecks c (before ++ regs ++ after)).enabled,
      reg.check.SignsViolations := by
    intro reg hreg
    have hmem : reg ∈ before ++ regs ++ after := (List.mem_filter.1 hreg).1
    rw [List.append_assoc, List.mem_append, List.mem_append] at hmem
    rcases hmem with hmem | hmem | hmem
    · exact hsigns reg (List.mem_append_left _ hmem)
    · exact Checks.signsViolations_of_ofConfig hregs reg hmem
    · exact hsigns reg (List.mem_append_right _ hmem)
  obtain ⟨checks', hchecks'⟩ := CheckSet.exists_ofRegistrations_filter hchecks
    fun reg => keeps reg.check.name
  refine ⟨_, ⟨_, Checks.ofConfig_withoutCheck hregs name,
    ofSetup_withChecks hr rfl ((congrArg _ henabled).trans hchecks')⟩, fun t => ?_⟩
  let select : Violation → Option Violation := Option.guard fun v => keeps v.check
  have hplaces : Violation.KeepsPlaces select := by
    intro v w hv
    rw [(Option.guard_eq_some_iff.1 hv).1]
  have hbroken : ∀ v : Violation, v.check = brokenFileCheck → select v = some v := by
    intro v hv
    refine Option.guard_eq_some_iff.2 ⟨rfl, decide_eq_true ?_⟩
    exact fun heq => hname (heq.symm.trans hv)
  have hinspect : ∀ u, (checks'.inspect u).map (withConfiguredSeverity (c.withoutCheck name)) =
      ((r.checks.inspect u).map (withConfiguredSeverity r.config)).filterMap select := by
    intro u
    have hseverity : withConfiguredSeverity (c.withoutCheck name) = withConfiguredSeverity c := by
      funext v
      rw [withConfiguredSeverity_eq_getD, withConfiguredSeverity_eq_getD, Config.severity?_withoutCheck]
    have hselect : ((fun v => keeps v.check) ∘ withConfiguredSeverity c) = fun v => keeps v.check := by
      funext v
      rw [Function.comp_apply, withConfiguredSeverity_eq_getD]
    rw [List.filterMap_eq_filter, List.filter_map, hconfig, hselect, hseverity,
      CheckSet.inspect_filter hsigned keeps hchecks hchecks']
  have hfindings := findings_reconfigured hlenient hchecker hplaces hbroken hinspect t
  unfold Findings.filterMap at hfindings
  rw [List.filterMap_eq_filter] at hfindings
  exact hfindings

/-- The settings of a check, other than that of broken files, touch the violations with its
    name only. A run with another severity of the check finds the same, with that severity
    wherever the name of the check stands; a run with the check switched off finds what
    carries other names. Both make a run wherever the old settings do. The marks of files
    that cannot be checked are among what stays. -/
theorem findings_of_check_settings (h : setup.Builds directory only before after c r)
    (hsigns : ∀ reg ∈ before ++ after, reg.check.SignsViolations)
    (hlenient : setup.failOnParseError.getD c.checker.failOnParseError = false)
    (hname : name ≠ brokenFileCheck) :
    (∀ severity, ∃ r', setup.Builds directory only before after (c.withSeverity name severity) r' ∧
      ∀ t, r'.findings t = (r.findings t).map fun f =>
        { f with violations := f.violations.map fun v =>
            if v.check = name then { v with severity } else v }) ∧
      (∃ r', setup.Builds directory only before after (c.withoutCheck name) r' ∧
        ∀ t, r'.findings t = (r.findings t).map fun f =>
          { f with violations := f.violations.filter fun v => v.check ≠ name }) ∧
      ∀ (cause : FileError) path, (cause.violation path).check ≠ name := by
  have hstrict : r.strict = false := by
    obtain ⟨regs, -, hr⟩ := h
    exact (strict_of_ofSetup hr).trans hlenient
  refine ⟨h.withSeverity hstrict hname, h.withoutCheck hstrict hname hsigns, fun cause path => ?_⟩
  rw [cause.check_violation]
  exact hname.symm

end Run

/-- A section that sets up the check that takes no name but `h`. -/
def onlyHSection : Section :=
  { options := .ofList [(NamingRule.formatKey, .string "h")] }

theorem ParameterName.ofSection_onlyHSection : ofSection onlyHSection = .ok onlyH := by
  have hpattern : NamePattern.ofSource "h" = .ok onlyH.rule.pattern := by cbv
  have hrule : NamingRule.ofSection onlyHSection defaultFormat = .ok onlyH.rule := by
    refine Except.bind_eq_ok_iff.2 ⟨some "h", rfl, ?_⟩
    exact Except.bind_eq_ok_iff.2 ⟨_, hpattern, rfl⟩
  exact Except.bind_eq_ok_iff.2 ⟨_, hrule, rfl⟩

/-- A configuration with that section. -/
def onlyHConfig : Config :=
  { checker := { extensions := [] }, checks := .ofList [(ParameterName.name, onlyHSection)] }

theorem Checks.ofConfig_onlyHConfig :
    ofConfig onlyHConfig none = .ok [{ check := ParameterName.onlyH.toCheck }] := by
  refine ofConfig_eq_ok_iff.2
    ⟨.recommended, [some { check := ParameterName.onlyH.toCheck }], rfl, ?_, rfl⟩
  refine congrArg (fun reg? => [reg?]) (Except.mapError_eq_ok_iff.2 ?_)
  exact Except.bind_eq_ok_iff.2 ⟨_, ParameterName.ofSection_onlyHSection, rfl⟩

/-- One check of parameter names is asked for by the configuration, another one is added. -/
theorem Run.findings_of_check_settings_onlyH :
    ∃ r, wordSetup.Builds "/" none [{ check := ParameterName.onlyH.toCheck }] [] onlyHConfig r ∧
      r.checks.checks.size = 2 ∧
      wordSetup.failOnParseError.getD onlyHConfig.checker.failOnParseError = false ∧
      ParameterName.name ≠ brokenFileCheck ∧
      ∃ r', wordSetup.Builds "/" none [{ check := ParameterName.onlyH.toCheck }] []
          (onlyHConfig.withoutCheck ParameterName.name) r' ∧
        r'.findings (wordTree "x".toUTF8) = (r.findings (wordTree "x".toUTF8)).map fun f =>
          { f with violations := f.violations.filter fun v => v.check ≠ ParameterName.name } := by
  have hbuilds : ∃ r, wordSetup.Builds "/" none [{ check := ParameterName.onlyH.toCheck }] []
      onlyHConfig r ∧ r.checks.checks.size = 2 :=
    ⟨_, ⟨_, Checks.ofConfig_onlyHConfig, rfl⟩, rfl⟩
  obtain ⟨r, hr, hsize⟩ := hbuilds
  have hsigns : ∀ reg ∈ [Registration.mk ParameterName.onlyH.toCheck none] ++ [],
      reg.check.SignsViolations := by
    rintro reg (_ | ⟨_, ⟨⟩⟩)
    exact ParameterName.signsViolations_toCheck _
  have hname : ParameterName.name ≠ brokenFileCheck := by decide
  obtain ⟨-, ⟨r', hr', hfindings⟩, -⟩ := findings_of_check_settings hr hsigns rfl hname
  exact ⟨r, hr, hsize, rfl, hname, r', hr', hfindings _⟩

end JavaLint
