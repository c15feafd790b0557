import JavaLint.Config.Checks
import JavaLint.Proofs.Except
/-!
# The settings of one check

A configuration says of each check whether it is enabled, and with which severity.
What it says of one check does not show in what it says of the others, nor in the
registrations that it asks for, apart from those that are switched off.

## Main definitions

- `Config.withSeverity` — a configuration with another severity of a check
- `Config.withoutCheck` — a configuration with a check switched off

## Main statements

- `Checks.exists_toCheck_of_mem_ofConfig` — the checks that a configuration can ask for
- `Checks.ofConfig_withSeverity` — severities have no part in the registrations
- `Checks.ofConfig_withoutCheck` — the registrations without those of a check
-/

namespace JavaLint

namespace Config

variable {c : Config} {name other : String} {severity : Severity}

/-- The configuration with a section changed; where there is none, an empty one is changed. -/
def withSection (c : Config) (name : String) (change : Section → Section) : Config :=
  { c with checks := c.checks.insert name (change ((c.section? name).getD {})) }

/-- The configuration with another severity of a check. -/
def withSeverity (c : Config) (name : String) (severity : Severity) : Config :=
  c.withSection name ({ · with severity := some severity })

/-- The configuration with a check switched off. -/
def withoutCheck (c : Config) (name : String) : Config :=
  c.withSection name ({ · with enabled := some false })

theorem section?_withSection (change : Section → Section) :
    (c.withSection name change).section? other =
      if other = name then some (change ((c.section? name).getD {})) else c.section? other :=
  KeyMap.get?_insert c.checks name _ other

theorem isEnabled_withSeverity : (c.withSeverity name severity).isEnabled other = c.isEnabled other := by
  unfold isEnabled withSeverity
  rw [section?_withSection]
  split
  · next h =>
    rw [h]
    cases c.section? name <;> rfl
  · rfl

theorem severity?_withSeverity :
    (c.withSeverity name severity).severity? other =
      if other = name then some severity else c.severity? other := by
  unfold severity? withSeverity
  rw [section?_withSection]
  split <;> rfl

theorem isEnabled_withoutCheck :
    (c.withoutCheck name).isEnabled other = (decide (other ≠ name) && c.isEnabled other) := by
  unfold isEnabled withoutCheck
  rw [section?_withSection]
  split
  · next h => simp [h]
  · next h => simp [h]

theorem severity?_withoutCheck : (c.withoutCheck name).severity? other = c.severity? other := by
  unfold severity? withoutCheck
  rw [section?_withSection]
  split
  · next h =>
    rw [h]
    cases c.section? name <;> rfl
  · rfl

end Config

namespace Checks

variable {c : Config} {only : Option (List String)} {name : String} {s base : Section}
  {reg : Registration} {regs : List Registration} {severity : Severity}

theorem check_of_withTokens {check : Check} (h : withTokens check s = .ok reg) :
    reg.check = check := by
  obtain ⟨tokens, -, h⟩ := Except.bind_eq_ok_iff.1 h
  split at h
  · rw [← Except.ok.inj h]
  · split at h
    · cases h
    · rw [← Except.ok.inj h]

/-- Every check that a section can set up is one of parameter names, and has the name that
    it was asked for by. -/
theorem exists_toCheck_of_build? (h : build? name s = .ok (some reg)) :
    name = ParameterName.name ∧ ∃ p : ParameterName, reg.check = p.toCheck := by
  unfold build? at h
  split at h
  · next hname =>
    obtain ⟨p, -, h⟩ := Except.bind_eq_ok_iff.1 h
    obtain ⟨reg', htokens, h⟩ := Except.bind_eq_ok_iff.1 h
    obtain rfl := Option.some.inj (Except.ok.inj h)
    exact ⟨hname, p, check_of_withTokens htokens⟩
  · cases h

theorem exists_toCheck_of_registration? (h : registration? c only name base = .ok (some reg)) :
    name = ParameterName.name ∧ ∃ p : ParameterName, reg.check = p.toCheck := by
  simp only [registration?] at h
  split at h
  · cases h
  · exact exists_toCheck_of_build? (Except.mapError_eq_ok_iff.1 h)

/-- The registrations that a configuration asks for are those of the sections of its preset. -/
theorem ofConfig_eq_ok_iff :
    ofConfig c only = .ok regs ↔ ∃ preset, ∃ found : List (Option Registration),
      Preset.ofConfig c = .ok preset ∧
        preset.sections.entries.map (fun e => registration? c only e.1 e.2) = found.map .ok ∧
          found.filterMap id = regs := by
  unfold ofConfig
  rw [Except.bind_eq_ok_iff]
  refine exists_congr fun preset => ?_
  rw [exists_and_left]
  refine and_congr_right fun _ => ?_
  rw [Except.bind_eq_ok_iff]
  refine exists_congr fun found => ?_
  rw [List.mapM_eq_ok_iff]
  exact and_congr_right fun _ => ⟨Except.ok.inj, congrArg _⟩

theorem exists_toCheck_of_mem_ofConfig (h : ofConfig c only = .ok regs) (hreg : reg ∈ regs) :
    ∃ p : ParameterName, reg.check = p.toCheck := by
  obtain ⟨preset, found, -, hfound, rfl⟩ := ofConfig_eq_ok_iff.1 h
  obtain ⟨_, hmem, rfl⟩ := List.mem_filterMap.1 hreg
  have hbuilt := List.mem_map_of_mem (f := Except.ok (ε := ConfigError)) hmem
  rw [← hfound, List.mem_map] at hbuilt
  obtain ⟨⟨name, base⟩, -, hbuilt⟩ := hbuilt
  exact (exists_toCheck_of_registration? hbuilt).2

/-! ## Changed sections -/

/-- A check does not look at the severity of its section, nor at whether it is enabled. -/
theorem build?_congr {s' : Section} (h : s.options = s'.options) : build? name s = build? name s' := by
  obtain ⟨enabled, severity, options⟩ := s
  obtain ⟨enabled', severity', options'⟩ := s'
  obtain rfl : options = options' := h
  rfl

theorem registration?_withSeverity (other : String) :
    registration? (c.withSeverity other severity) only name base = registration? c only name base := by
  have hsection : (sectionFor (c.withSeverity other severity) name base).enabled =
        (sectionFor c name base).enabled ∧
      (sectionFor (c.withSeverity other severity) name base).options =
        (sectionFor c name base).options := by
    unfold sectionFor Config.withSeverity
    rw [Config.section?_withSection]
    by_cases hname : name = other
    · rw [if_pos hname, hname]
      cases c.section? other <;> exact ⟨rfl, rfl⟩
    · rw [if_neg hname]
      exact ⟨rfl, rfl⟩
  simp only [registration?, hsection.1, build?_congr hsection.2]

theorem registration?_withoutCheck (other : String) :
    registration? (c.withoutCheck other) only name base =
      if name = other then .ok none else registration? c only name base := by
  unfold registration? sectionFor Config.withoutCheck
  rw [Config.section?_withSection]
  by_cases hname : name = other
  · rw [if_pos hname, if_pos hname]
    exact if_pos (Bool.or_true _)
  · rw [if_neg hname, if_neg hname]

/-- The severity of a check has no part in the registrations of a configuration. -/
theorem ofConfig_withSeverity (c : Config) (only : Option (List String)) (name : String)
    (severity : Severity) : ofConfig (c.withSeverity name severity) only = ofConfig c only := by
  unfold ofConfig
  simp only [registration?_withSeverity]
  rfl

/-- Without a check, a configuration asks for the registrations of all other ones. -/
theorem ofConfig_withoutCheck (h : ofConfig c only = .ok regs) (name : String) :
    ofConfig (c.withoutCheck name) only = .ok (regs.filter fun reg => reg.check.name ≠ name) := by
  obtain ⟨preset, found, hpreset, hfound, rfl⟩ := ofConfig_eq_ok_iff.1 h
  refine ofConfig_eq_ok_iff.2
    ⟨preset, found.map (·.filter fun reg => reg.check.name ≠ name), hpreset, ?_, ?_⟩
  · have hfilter : ∀ e ∈ preset.sections.entries,
        registration? (c.withoutCheck name) only e.1 e.2 =
          (registration? c only e.1 e.2).map (·.filter fun reg => reg.check.name ≠ name) := by
      intro e he
      have hmem := List.mem_map_of_mem (f := fun e => registration? c only e.1 e.2) he
      rw [hfound, List.mem_map] at hmem
      obtain ⟨reg?, -, hreg⟩ := hmem
      rw [registration?_withoutCheck, ← hreg]
      cases reg? with
      | none => exact ite_self _
      | some reg =>
        obtain ⟨hname, p, hp⟩ := exists_toCheck_of_registration? hreg.symm
        have hcheck : reg.check.name = e.1 := by
          rw [hp, hname]
          rfl
        by_cases hother : e.1 = name
        · simp [Except.map, Option.filter, hcheck, hother]
        · simp [Except.map, Option.filter, hcheck, hother]
    have hmap := congrArg (List.map (Except.map fun reg? : Option Registration =>
      reg?.filter fun reg => reg.check.name ≠ name)) hfound
    rw [List.map_map, List.map_map] at hmap
    rw [List.map_congr_left hfilter, List.map_map]
    exact hmap
  · rw [List.filterMap_map, List.filter_filterMap]
    rfl

end Checks

end JavaLint
