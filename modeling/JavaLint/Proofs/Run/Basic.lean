import JavaLint.Proofs.Dispatch
import JavaLint.Proofs.StableSort
import JavaLint.Run
/-!
# What a run says of a file

A file is either checked, or it cannot be read or parsed and one violation
stands for it. Whatever a file adds to the findings is reported under its path,
by line and column.

## Main definitions

- `Check.ReportsUnderPath` — checks that report under the path of the source unit
- `Run.Fails` — a file of a run that cannot be checked
- `Run.Yields` — the violations that a file adds to the findings

## Main statements

- `Run.ofSetup_eq_ok_iff` — when a setup makes a run, and which one
- `Run.yields_violations` — a file adds what checking its text yields, or one mark
- `Run.Yields.location_file_eq`, `Run.Yields.pairwise` — under its path, by line and column
-/

namespace JavaLint

/-- A check reports under the path of the source unit that it looks at. -/
def Check.ReportsUnderPath (c : Check) : Prop :=
  ∀ u id v, c.evaluate u id = some v → v.location.file = u.path

/-- A violation that stands for a file which cannot be checked. -/
structure Violation.MarksBroken (v : Violation) (path : String) : Prop where
  code_eq : v.code = "SC001"
  severity_eq : v.severity = .error
  file_eq : v.location.file = path

theorem FileError.marksBroken_violation (cause : FileError) (path : String) :
    (cause.violation path).MarksBroken path := by
  cases cause with
  | unreadable message => exact ⟨rfl, rfl, rfl⟩
  | unparsable cause => exact ⟨rfl, rfl, rfl⟩

namespace CheckSet

variable {rs : List Registration} {s : CheckSet} {u : SourceUnit} {v : Violation}

/-- What an inspection yields, one of the registered checks says of some node. -/
theorem exists_evaluate_of_mem_inspect (h : ofRegistrations rs = .ok s) (hv : v ∈ s.inspect u) :
    ∃ r ∈ rs, ∃ id, r.check.evaluate u id = some v := by
  rw [inspect, List.mem_mergeSort, List.mem_flatMap] at hv
  obtain ⟨id, -, hv⟩ := hv
  obtain ⟨node, -, r, hr, -, heval⟩ := (serves_of_ofRegistrations h).mem_atNode_iff.1 hv
  exact ⟨r, hr, id, heval⟩

theorem pairwise_inspect (s : CheckSet) (u : SourceUnit) :
    (s.inspect u).Pairwise fun a b => (a.comparePosition b).isLE = true := by
  apply List.pairwise_mergeSort
  · exact fun _ _ _ => Violation.comparePosition_trans
  · exact Violation.comparePosition_total

end CheckSet

namespace Run

variable {directory path source : String} {setup : Setup} {r : Run} {file : SourceFile}
  {vs : List Violation} {cause : FileError}

/-- The registrations of the checks that the configuration of a setup leaves enabled. -/
def Setup.enabled (setup : Setup) : List Registration :=
  setup.registrations.filter fun r => setup.config.isEnabled r.check.name

/-- The patterns of the files that a setup leaves out. -/
def Setup.patterns (setup : Setup) : List String :=
  setup.excludes ++ setup.config.checker.exclude

theorem glob_eq_ok_iff {text : String} {g : Glob} :
    glob text = .ok g ↔ Glob.parse? text = some g := by
  unfold glob
  split
  · next h => rw [h, Except.ok.injEq, Option.some.injEq]
  · next h => simp [h]

/-- The patterns that a list of texts writes. -/
theorem mem_of_mapM_glob {texts : List String} {gs : List Glob} (h : texts.mapM glob = .ok gs)
    {g : Glob} : g ∈ gs ↔ ∃ text ∈ texts, Glob.parse? text = some g := by
  simp only [List.mem_iff_of_mapM_eq_ok h, glob_eq_ok_iff]

/-- The run of a setup, given the parts of it that can be wrong. -/
def Setup.assemble (setup : Setup) (directory : String) (frontend : Frontend) (excludes : List Glob)
    (checks : CheckSet) : Run :=
  { selection :=
      { root := Path.join directory (setup.root.getD setup.config.checker.root)
        extensions := extensions setup.config frontend
        excludes, respectGitignore := setup.config.checker.respectGitignore }
    checks, frontend, config := setup.config
    strict := setup.failOnParseError.getD setup.config.checker.failOnParseError }

/-- A setup makes a run if it has a language, its patterns are well-formed and its
    checks can be combined. -/
theorem ofSetup_eq_ok_iff :
    ofSetup directory setup = .ok r ↔ ∃ frontend excludes checks,
      setup.frontend = some frontend ∧ setup.patterns.mapM glob = .ok excludes ∧
        CheckSet.ofRegistrations setup.enabled = .ok checks ∧
          setup.assemble directory frontend excludes checks = r := by
  unfold ofSetup
  cases hfrontend : setup.frontend with
  | none => exact ⟨nofun, fun ⟨_, _, _, h, _⟩ => nomatch h⟩
  | some frontend =>
    constructor
    · intro h
      obtain ⟨excludes, hexcludes, h⟩ := Except.bind_eq_ok_iff.1 h
      obtain ⟨checks, hchecks, h⟩ := Except.bind_eq_ok_iff.1 h
      exact ⟨frontend, excludes, checks, rfl, hexcludes, Except.mapError_eq_ok_iff.1 hchecks,
        Except.ok.inj h⟩
    · rintro ⟨_, excludes, checks, ⟨⟩, hexcludes, hchecks, h⟩
      refine Except.bind_eq_ok_iff.2 ⟨excludes, hexcludes, ?_⟩
      exact Except.bind_eq_ok_iff.2 ⟨checks, Except.mapError_eq_ok_iff.2 hchecks, congrArg _ h⟩

/-- What a run takes over from its setup. -/
theorem ofSetup_eq_ok (h : ofSetup directory setup = .ok r) :
    setup.frontend = some r.frontend ∧ r.config = setup.config ∧
      CheckSet.ofRegistrations setup.enabled = .ok r.checks := by
  obtain ⟨frontend, excludes, checks, hfrontend, -, hchecks, rfl⟩ := ofSetup_eq_ok_iff.1 h
  exact ⟨hfrontend, rfl, hchecks⟩

/-- The setup decides whether a run is strict, or else the configuration. -/
theorem strict_of_ofSetup (h : ofSetup directory setup = .ok r) :
    r.strict = setup.failOnParseError.getD setup.config.checker.failOnParseError := by
  obtain ⟨frontend, excludes, checks, -, -, -, rfl⟩ := ofSetup_eq_ok_iff.1 h
  rfl

theorem withConfiguredSeverity_eq_getD (c : Config) (v : Violation) :
    withConfiguredSeverity c v = { v with severity := (c.severity? v.check).getD v.severity } := by
  unfold withConfiguredSeverity
  cases c.severity? v.check <;> rfl

/-- The severity that is configured for a check changes nothing else. -/
theorem withConfiguredSeverity_eq (c : Config) (v : Violation) :
    ∃ severity, withConfiguredSeverity c v = { v with severity } :=
  ⟨_, withConfiguredSeverity_eq_getD c v⟩

@[simp]
theorem location_withConfiguredSeverity (c : Config) (v : Violation) :
    (withConfiguredSeverity c v).location = v.location := by
  obtain ⟨severity, h⟩ := withConfiguredSeverity_eq c v
  rw [h]

theorem checkSource_eq_ok_iff :
    r.checkSource path source = .ok vs ↔
      ∃ tree, r.frontend.parse ((Path.fileName? path).getD "") source
          r.config.checker.tabWidth.toUInt64 = .ok tree ∧
        (r.checks.inspect ⟨path, tree⟩).map (withConfiguredSeverity r.config) = vs := by
  unfold checkSource
  rw [Except.bind_eq_ok_iff]
  exact exists_congr fun tree => and_congr_right fun _ => ⟨Except.ok.inj, congrArg _⟩

theorem checkSource_eq_error_iff {e : ParseError} :
    r.checkSource path source = .error e ↔
      r.frontend.parse ((Path.fileName? path).getD "") source
        r.config.checker.tabWidth.toUInt64 = .error e := by
  unfold checkSource
  dsimp only
  rw [Except.bind_eq_error_iff]
  constructor
  · rintro (h | ⟨tree, -, hpure⟩)
    · exact h
    · cases hpure
  · exact Or.inl

/-- A file of a run cannot be checked. -/
inductive Fails (r : Run) (file : SourceFile) : FileError → Prop where
  /-- The bytes of the file are no text. -/
  | unreadable : String.fromUTF8? file.bytes = none → Fails r file .notText
  /-- The text of the file has no tree. -/
  | unparsable {text : String} {e : ParseError} : String.fromUTF8? file.bytes = some text →
      r.frontend.parse ((Path.fileName? file.path).getD "") text
        r.config.checker.tabWidth.toUInt64 = .error e →
      Fails r file (.unparsable e)

/-- What a file adds to the findings of a run that goes on. -/
inductive Yields (r : Run) (file : SourceFile) : List Violation → Prop where
  | checked {text : String} {found : List Violation} :
      String.fromUTF8? file.bytes = some text → r.checkSource file.path text = .ok found →
      Yields r file found
  | broken {cause : FileError} {mark : Violation} :
      Fails r file cause → mark.MarksBroken file.path → Yields r file [mark]

theorem checkFile_eq_error_iff : r.checkFile file = .error cause ↔ r.Fails file cause := by
  unfold checkFile
  cases htext : String.fromUTF8? file.bytes with
  | none =>
    constructor
    · rintro ⟨⟩
      exact .unreadable htext
    · rintro (_ | ⟨hsome, -⟩)
      · rfl
      · simp [htext] at hsome
  | some text =>
    dsimp only
    rw [Except.mapError_eq_error_iff]
    simp only [checkSource_eq_error_iff]
    constructor
    · rintro ⟨e, hparse, rfl⟩
      exact .unparsable htext hparse
    · rintro (hnone | ⟨hsome, hparse⟩)
      · simp [htext] at hnone
      · obtain rfl := Option.some.inj (htext.symm.trans hsome)
        exact ⟨_, hparse, rfl⟩

theorem exists_text_of_checkFile (h : r.checkFile file = .ok vs) :
    ∃ text, String.fromUTF8? file.bytes = some text ∧ r.checkSource file.path text = .ok vs := by
  unfold checkFile at h
  split at h
  · cases h
  · next text htext => exact ⟨text, htext, Except.mapError_eq_ok_iff.1 h⟩

theorem violations_of_fails (h : r.Fails file cause) :
    r.violations file = [cause.violation file.path] := by
  rw [violations, checkFile_eq_error_iff.2 h]

theorem yields_violations (r : Run) (file : SourceFile) : r.Yields file (r.violations file) := by
  cases hcheck : r.checkFile file with
  | ok vs =>
    obtain ⟨text, htext, hvs⟩ := exists_text_of_checkFile hcheck
    rw [violations, hcheck]
    exact .checked htext hvs
  | error cause =>
    have hfails := checkFile_eq_error_iff.1 hcheck
    rw [violations_of_fails hfails]
    exact .broken hfails (cause.marksBroken_violation file.path)

/-- A run of checks that report under the path of the source unit reports a file
    under its path. -/
theorem Yields.location_file_eq (hr : ofSetup directory setup = .ok r)
    (hchecks : ∀ reg ∈ setup.registrations, reg.check.ReportsUnderPath)
    (h : r.Yields file vs) : ∀ v ∈ vs, v.location.file = file.path := by
  cases h with
  | checked _ hvs =>
    obtain ⟨tree, -, rfl⟩ := checkSource_eq_ok_iff.1 hvs
    obtain ⟨-, -, hset⟩ := ofSetup_eq_ok hr
    rw [List.forall_mem_map]
    intro v hv
    obtain ⟨reg, hreg, id, heval⟩ := CheckSet.exists_evaluate_of_mem_inspect hset hv
    rw [location_withConfiguredSeverity]
    exact hchecks reg (List.mem_filter.1 hreg).1 _ id v heval
  | broken _ hmark => exact List.forall_mem_singleton.2 hmark.file_eq

/-- The violations of a file come by line and column. -/
theorem Yields.pairwise (h : r.Yields file vs) :
    vs.Pairwise fun a b => (a.comparePosition b).isLE = true := by
  cases h with
  | checked _ hvs =>
    obtain ⟨tree, -, rfl⟩ := checkSource_eq_ok_iff.1 hvs
    have hplace : ∀ v w : Violation,
        (withConfiguredSeverity r.config v).comparePosition (withConfiguredSeverity r.config w) =
          v.comparePosition w := by
      intro v w
      simp only [Violation.comparePosition, location_withConfiguredSeverity]
    rw [List.pairwise_map]
    simp only [hplace]
    exact r.checks.pairwise_inspect ⟨file.path, tree⟩
  | broken _ _ => exact List.pairwise_singleton _ _

end Run

end JavaLint
