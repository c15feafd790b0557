import JavaLint.Proofs.Run.Findings
/-!
# Strict runs

A strict run ends at a file that cannot be checked. Of several such files the
first one by path is its error, in whatever order the files are checked, and if
there is none the run finds what one that goes on finds.

## Main definitions

- `Run.withStrictness`, `Run.Setup.withStrictness` — what decides whether a run is strict
- `Run.FirstFailure` — the first file by path that cannot be checked
- `Run.findingsBy` — the findings of a run that checks its files in some order

## Main statements

- `Run.ofSetup_withStrictness` — the settings decide whether a run is strict, and nothing else
- `Run.findingsBy_eq` — the order in which the files are checked does not matter
- `Run.strict_agrees_with_lenient` — strict runs fail at the first bad file, or agree with others
-/

/-- Cells that are written one after the other hold what was written for their index. -/
theorem List.getElem?_foldl_set {α : Type} (value : Nat → α) (order : List Nat) (cells : List α)
    (i : Nat) :
    (order.foldl (fun cells j => cells.set j (value j)) cells)[i]? =
      if i ∈ order then cells[i]?.map fun _ => value i else cells[i]? := by
  induction order generalizing cells with
  | nil => simp
  | cons j order ih =>
    rw [List.foldl_cons, ih, List.getElem?_set']
    by_cases hij : j = i
    · subst hij
      simp [Function.const_def]
    · have hmem : i ∈ j :: order ↔ i ∈ order := by simp [Ne.symm hij]
      simp only [if_neg hij, hmem]

namespace JavaLint

namespace Run

variable {directory : String} {setup : Setup} {flag flag' : Option Bool}
  {configured configured' : Bool} {r : Run} {t : FileTree} {files : List SourceFile}
  {file : SourceFile} {e : RunError}

/-- A setup with other settings about files that cannot be checked. -/
def Setup.withStrictness (setup : Setup) (flag : Option Bool) (configured : Bool) : Setup :=
  { setup with failOnParseError := flag, config.checker.failOnParseError := configured }

/-- A run with other settings about files that cannot be checked. -/
def withStrictness (r : Run) (flag : Option Bool) (configured : Bool) : Run :=
  { r with strict := flag.getD configured, config.checker.failOnParseError := configured }

/-- The settings about files that cannot be checked decide whether a run is
    strict, and nothing else. -/
theorem ofSetup_withStrictness :
    ofSetup directory (setup.withStrictness flag configured) =
      (ofSetup directory setup).map fun r => r.withStrictness flag configured := by
  unfold ofSetup Setup.withStrictness
  dsimp only
  cases setup.frontend with
  | none => rfl
  | some frontend =>
    dsimp only
    cases (setup.excludes ++ setup.config.checker.exclude).mapM glob with
    | error e => rfl
    | ok excludes =>
      change ((CheckSet.ofRegistrations setup.enabled).mapError RunError.badChecks >>= _) =
        ((CheckSet.ofRegistrations setup.enabled).mapError RunError.badChecks >>= _).map _
      cases CheckSet.ofRegistrations setup.enabled with
      | error e => rfl
      | ok checks => rfl

/-- The first file by path that cannot be checked. -/
structure FirstFailure (r : Run) (files : List SourceFile) (file : SourceFile) (cause : FileError) :
    Prop where
  mem : file ∈ files
  fails : r.Fails file cause
  first : ∀ other ∈ files, ∀ cause', r.Fails other cause' →
    other = file ∨ Path.compare file.path other.path = .lt

theorem outcome_of_forall_not_fails (h : ∀ cause, ¬ r.Fails file cause) :
    r.outcome file = .ok (r.violations file) := by
  unfold outcome
  split
  · next cause hstrict hcheck => exact absurd (checkFile_eq_error_iff.1 hcheck) (h cause)
  · rfl

theorem outcome_of_fails {cause : FileError} (hstrict : r.strict = true)
    (h : r.Fails file cause) : r.outcome file = .error (.badFile file.path cause) := by
  rw [outcome, hstrict, checkFile_eq_error_iff.2 h]

theorem outcome_eq_error_iff (hstrict : r.strict = true) :
    r.outcome file = .error e ↔ ∃ cause, r.Fails file cause ∧ e = .badFile file.path cause := by
  constructor
  · intro h
    by_cases hfails : ∃ cause, r.Fails file cause
    · obtain ⟨cause, hfails⟩ := hfails
      rw [outcome_of_fails hstrict hfails] at h
      exact ⟨cause, hfails, (Except.error.inj h).symm⟩
    · rw [outcome_of_forall_not_fails (not_exists.1 hfails)] at h
      cases h
  · rintro ⟨cause, hfails, rfl⟩
    exact outcome_of_fails hstrict hfails

theorem findings_eq_error_iff (hfiles : r.files t = .ok files) :
    r.findings t = .error e ↔ files.mapM r.outcome = .error e := by
  rw [findings_eq_map hfiles]
  cases files.mapM r.outcome with
  | error e' => simp [Except.map]
  | ok outcomes => exact ⟨nofun, nofun⟩

/-- The error of a strict run is the first file that cannot be checked. -/
theorem exists_firstFailure (hstrict : r.strict = true) (hfiles : r.files t = .ok files)
    (h : r.findings t = .error e) :
    ∃ file cause, r.FirstFailure files file cause ∧ e = .badFile file.path cause := by
  rw [findings_eq_error_iff hfiles, List.mapM_eq_error_iff] at h
  obtain ⟨before, file, after, hsplit, hbefore, herror⟩ := h
  obtain ⟨cause, hfails, rfl⟩ := (outcome_eq_error_iff hstrict).1 herror
  have hpaths := (Selection.lists_of_files? (files_eq_ok_iff.1 hfiles)).pairwise
  rw [hsplit, List.pairwise_append, List.pairwise_cons] at hpaths
  refine ⟨file, cause, ⟨by simp [hsplit], hfails, fun other hother cause' hfails' => ?_⟩, rfl⟩
  rw [hsplit, List.mem_append, List.mem_cons] at hother
  rcases hother with hother | rfl | hother
  · -- a file in front of the first one has been checked
    obtain ⟨vs, hvs⟩ := hbefore other hother
    rw [outcome_of_fails hstrict hfails'] at hvs
    cases hvs
  · exact .inl rfl
  · exact .inr (hpaths.2.1.1 other hother)

/-- A strict run fails if one of its files cannot be checked. -/
theorem exists_findings_eq_error (hstrict : r.strict = true) (hfiles : r.files t = .ok files)
    {cause : FileError} (hfile : file ∈ files) (hfails : r.Fails file cause) :
    ∃ e, r.findings t = .error e := by
  simp only [findings_eq_error_iff hfiles]
  cases hall : files.mapM r.outcome with
  | error e => exact ⟨e, rfl⟩
  | ok outcomes =>
    have hmem : r.outcome file ∈ outcomes.map Except.ok := by
      rw [← List.mapM_eq_ok_iff.1 hall]
      exact List.mem_map_of_mem hfile
    rw [outcome_of_fails hstrict hfails] at hmem
    obtain ⟨vs, -, hvs⟩ := List.mem_map.1 hmem
    cases hvs

/-! ## The order in which files are checked -/

/-- What comes of the files when they are checked in the order of some indices:
    each outcome goes to the cell of its file. -/
def cells (r : Run) (files : List SourceFile) (order : List Nat) :
    List (Option (Except RunError (List Violation))) :=
  order.foldl (fun cells i => cells.set i (files[i]?.map r.outcome)) (files.map fun _ => none)

/-- The findings of a run that checks its files in the order of some indices. -/
def findingsBy (r : Run) (order : List Nat) (t : FileTree) : Except RunError Findings := do
  let files ← r.files t
  let outcomes ← ((r.cells files order).filterMap id).mapM id
  return Findings.sort { violations := outcomes.flatten, filesChecked := files.length }

theorem cells_eq {order : List Nat} (h : order.Perm (List.range files.length)) :
    r.cells files order = files.map fun file => some (r.outcome file) := by
  refine List.ext_getElem? fun i => ?_
  have hmem : i ∈ order ↔ i < files.length := by rw [h.mem_iff, List.mem_range]
  unfold cells
  rw [List.getElem?_foldl_set, List.getElem?_map, List.getElem?_map]
  by_cases hi : i < files.length
  · rw [if_pos (hmem.2 hi), List.getElem?_eq_getElem hi]
    rfl
  · rw [if_neg (mt hmem.1 hi), List.getElem?_eq_none (Nat.not_lt.1 hi)]
    rfl

/-- The order in which a run checks its files makes no difference. -/
theorem findingsBy_eq {order : List Nat} (hfiles : r.files t = .ok files)
    (h : order.Perm (List.range files.length)) : r.findingsBy order t = r.findings t := by
  have hcells : (r.cells files order).filterMap id = files.map r.outcome := by
    rw [cells_eq h, List.filterMap_map]
    exact congrFun List.filterMap_eq_map files
  rw [findingsBy, findings, hfiles]
  change (((r.cells files order).filterMap id).mapM id >>= _) = (files.mapM r.outcome >>= _)
  rw [hcells, List.mapM_map, Function.id_comp]

/-- A strict run fails exactly if some file that it finds cannot be checked; its
    error is the first such file by path, in whatever order the files are
    checked. If it does not fail, a run that goes on finds the same. What a setup
    says about strictness counts before what its configuration says. -/
theorem strict_agrees_with_lenient (hstrict : flag.getD configured = true)
    (hlenient : flag'.getD configured' = false)
    (hr : ofSetup directory (setup.withStrictness flag configured) = .ok r) :
    ∃ l, ofSetup directory (setup.withStrictness flag' configured') = .ok l ∧
      (∀ e, r.files t = .error e → r.findings t = .error e ∧ l.findings t = .error e) ∧
      ∀ files, r.files t = .ok files → r.selection.Lists t files ∧
        ((∃ e, r.findings t = .error e) ↔ ∃ file ∈ files, ∃ cause, r.Fails file cause) ∧
        (∀ e, r.findings t = .error e →
          ∃ file cause, r.FirstFailure files file cause ∧ e = .badFile file.path cause) ∧
        (∀ f, r.findings t = .ok f → l.findings t = .ok f) ∧
        ∀ order, order.Perm (List.range files.length) → r.findingsBy order t = r.findings t := by
  rw [ofSetup_withStrictness] at hr
  obtain ⟨common, hcommon, rfl⟩ := Except.map_eq_ok_iff.1 hr
  have hr : (common.withStrictness flag configured).strict = true := hstrict
  have hl : (common.withStrictness flag' configured').strict = false := hlenient
  refine ⟨common.withStrictness flag' configured', ?_, fun e he => ?_, fun files hfiles => ?_⟩
  · rw [ofSetup_withStrictness, hcommon]
    rfl
  · have hstop : ∀ r : Run, r.files t = .error e → r.findings t = .error e := by
      intro r he
      rw [findings, he]
      rfl
    exact ⟨hstop _ he, hstop _ he⟩
  · refine ⟨Selection.lists_of_files? (files_eq_ok_iff.1 hfiles), ⟨?_, ?_⟩, ?_, ?_, ?_⟩
    · rintro ⟨e, he⟩
      obtain ⟨file, cause, hfirst, -⟩ := exists_firstFailure hr hfiles he
      exact ⟨file, hfirst.mem, cause, hfirst.fails⟩
    · rintro ⟨file, hfile, cause, hfails⟩
      exact exists_findings_eq_error hr hfiles hfile hfails
    · exact fun e he => exists_firstFailure hr hfiles he
    · intro f hf
      have hgood : ∀ file ∈ files, ∀ cause,
          ¬ (common.withStrictness flag configured).Fails file cause := by
        intro file hfile cause hfails
        obtain ⟨e, he⟩ := exists_findings_eq_error hr hfiles hfile hfails
        rw [hf] at he
        cases he
      rw [findings_of_outcomes hfiles fun file hfile =>
        outcome_of_forall_not_fails (hgood file hfile)] at hf
      rw [← hf]
      exact findings_of_lenient hl hfiles
    · exact fun order horder => findingsBy_eq hfiles horder

end Run

theorem exists_strict_wordSetup :
    ∃ r files, Run.ofSetup "/" (wordSetup.withStrictness (some true) false) = .ok r ∧
      r.files (wordTree ⟨#[0xff]⟩) = .ok files ∧ files.length = 3 ∧
      r.findings (wordTree ⟨#[0xff]⟩) = .error (.badFile "a.word" .notText) := by
  refine ⟨_, _, rfl, Run.files_eq_ok_iff.2 (Selection.files?_eq_some_iff.2
    ⟨["p"], ?_, ?_, rfl⟩), ?_, ?_⟩
  · decide +kernel
  · decide +kernel
  · decide +kernel
  · decide +kernel

/-- The first and the last file are broken, and the last one is checked first. -/
theorem Run.strict_agrees_with_lenient_words :
    ∃ r l files, (some true : Option Bool).getD false = true ∧
      (none : Option Bool).getD false = false ∧
      ofSetup "/" (wordSetup.withStrictness (some true) false) = .ok r ∧
      ofSetup "/" (wordSetup.withStrictness none false) = .ok l ∧
      r.files (wordTree ⟨#[0xff]⟩) = .ok files ∧
      (∃ file ∈ files, ∃ cause, r.Fails file cause) ∧
      (∃ file cause, r.FirstFailure files file cause ∧
        RunError.badFile "a.word" .notText = .badFile file.path cause) ∧
      r.findingsBy [2, 0, 1] (wordTree ⟨#[0xff]⟩) = .error (.badFile "a.word" .notText) := by
  obtain ⟨r, files, hr, hfiles, hlength, herror⟩ := exists_strict_wordSetup
  have hlenient : (none : Option Bool).getD false = false := rfl
  obtain ⟨l, hl, -, hagree⟩ := strict_agrees_with_lenient rfl hlenient hr
  obtain ⟨-, hiff, hfirst, -, horder⟩ := hagree files hfiles
  refine ⟨r, l, files, rfl, hlenient, hr, hl, hfiles, hiff.1 ⟨_, herror⟩, hfirst _ herror, ?_⟩
  rw [horder [2, 0, 1] (by rw [hlength]; decide), herror]

end JavaLint
