import JavaLint.Proofs.Files.Overwriting
import JavaLint.Proofs.Naming.Runs
import JavaLint.Proofs.Run.Basic
/-!
# The findings of a run, file by file

The findings of a run that goes on at files it cannot check are those of its
files one after the other. They are in order already, and what stands in them
for one file depends on that file only.

## Main definitions

- `Selection.Lists` — the files of a run are those it finds, each once, by path
- `Run.Joins` — findings that are those of a list of files one after the other

## Main statements

- `Run.joins_flatMap_violations` — the findings of the files, joined, are in order
- `Run.findings_joins_violations` — a run joins the findings of the files it finds
-/

namespace JavaLint

namespace Violation

variable {a b : Violation}

theorem comparePlace_isLE_of_position (hfile : a.location.file = b.location.file)
    (h : (a.comparePosition b).isLE = true) : (a.comparePlace b).isLE = true := by
  rw [comparePlace, hfile, Path.compare_self]
  exact h

theorem comparePlace_isLE_of_lt (h : Path.compare a.location.file b.location.file = .lt) :
    (a.comparePlace b).isLE = true := by
  rw [comparePlace, h]
  rfl

instance : Std.TransCmp comparePlace := by
  have hfile : Std.TransCmp fun a b : Violation => Path.compare a.location.file b.location.file :=
    { eq_swap := Std.OrientedCmp.eq_swap, isLE_trans := Std.TransCmp.isLE_trans }
  have hposition : Std.TransCmp comparePosition :=
    inferInstanceAs (Std.TransCmp
      (compareLex (compareOn fun v : Violation => v.location.line)
        (compareOn fun v : Violation => v.location.column)))
  exact inferInstanceAs (Std.TransCmp (compareLex
    (fun a b => Path.compare a.location.file b.location.file) comparePosition))

theorem comparePlace_total (a b : Violation) :
    ((a.comparePlace b).isLE || (b.comparePlace a).isLE) = true := by
  have hswap : b.comparePlace a = (a.comparePlace b).swap := Std.OrientedCmp.eq_swap
  rw [hswap]
  cases a.comparePlace b <;> rfl

end Violation

/-- The files of a run are those that it finds, in the order of their places and
    of the paths that they are reported under. -/
structure Selection.Lists (s : Selection) (t : FileTree) (files : List SourceFile) : Prop where
  exists_ways : ∃ base, ∃ ways : List Place, List.Forall₂ (s.Finds t base) ways files ∧
    ways.Pairwise fun a b => Path.compare (s.absolutePath a) (s.absolutePath b) = .lt
  mem_of_finds {base names : Place} {file : SourceFile} : s.Finds t base names file → file ∈ files
  pairwise : files.Pairwise fun a b => Path.compare a.path b.path = .lt

theorem Selection.lists_of_files? {s : Selection} {t : FileTree} {files : List SourceFile}
    (h : s.files? t = some files) : s.Lists t files where
  exists_ways := by
    obtain ⟨base, ways, hfinds, hways, hnames⟩ := exists_finds_of_files? h
    refine ⟨base, ways, hfinds, hways.imp_of_mem fun {a b} ha hb hlt => ?_⟩
    rw [s.compare_absolutePath (hnames a ha) (hnames b hb)]
    exact (Path.compare_relativePath_eq_lt_iff (hnames a ha) (hnames b hb)).2 hlt
  mem_of_finds := by
    rintro base names ⟨path, bytes⟩ ⟨hbase, hbytes, hselects, rfl⟩
    obtain ⟨root, hroot, -, rfl⟩ := files?_eq_some_iff.1 h
    obtain rfl : root = base := Option.some.inj (hroot.symm.trans hbase)
    exact List.mem_map.2 ⟨(names, bytes), mem_found_iff.2 ⟨hbytes, hselects⟩, rfl⟩
  pairwise := pairwise_compare_of_files? h

/-- What is reported under a path. -/
def Findings.under (f : Findings) (path : String) : List Violation :=
  f.violations.filter fun v => v.location.file = path

namespace Run

variable {directory : String} {setup : Setup} {r : Run} {t t' : FileTree}
  {files files' : List SourceFile} {file : SourceFile}

/-- Findings that are those of a list of files one after the other. -/
structure Joins (r : Run) (files : List SourceFile) (f : Findings) : Prop where
  violations_eq : f.violations = files.flatMap r.violations
  filesChecked_eq : f.filesChecked = files.length
  /-- What is reported under the path of a file is what the file adds. -/
  under_eq : ∀ file ∈ files, f.under file.path = r.violations file
  pairwise : f.violations.Pairwise fun a b => (a.comparePlace b).isLE = true
  /-- Sorting by place changes nothing. -/
  sort_eq : f.sort = f

/-- The findings of a list of files, one after the other. -/
def joined (r : Run) (files : List SourceFile) : Findings :=
  { violations := files.flatMap r.violations, filesChecked := files.length }

section

-- what a file adds is reported under its path
variable (hpath : ∀ file : SourceFile, ∀ v ∈ r.violations file, v.location.file = file.path)

include hpath

theorem under_joined (files : List SourceFile) (path : String) :
    (r.joined files).under path =
      files.flatMap fun file => if file.path = path then r.violations file else [] := by
  unfold joined Findings.under
  rw [List.filter_flatMap]
  refine List.flatMap_congr fun file _ => ?_
  split
  · next heq => exact List.filter_eq_self.2 fun v hv => by simp [hpath file v hv, heq]
  · next hne => exact List.filter_eq_nil_iff.2 fun v hv => by simp [hpath file v hv, hne]

/-- What is reported under a path depends on the files with that path only. -/
theorem under_joined_congr {path : String}
    (h : List.Forall₂ (fun old new : SourceFile =>
      new.path = old.path ∧ (old.path = path → new = old)) files files') :
    (r.joined files').under path = (r.joined files).under path := by
  rw [under_joined hpath, under_joined hpath]
  induction h with
  | nil => rfl
  | @cons old new _ _ hfile _ ih =>
    rw [List.flatMap_cons, List.flatMap_cons, ih, hfile.1]
    by_cases heq : old.path = path
    · rw [hfile.2 heq]
    · rw [if_neg heq, if_neg heq]

variable (hfiles : files.Pairwise fun a b => Path.compare a.path b.path = .lt)

include hfiles

theorem under_joined_path (hfile : file ∈ files) :
    (r.joined files).under file.path = r.violations file := by
  rw [under_joined hpath]
  obtain ⟨before, after, rfl⟩ := List.append_of_mem hfile
  -- the other files have other paths
  obtain ⟨-, hrest, hbefore⟩ := List.pairwise_append.1 hfiles
  have hafter := (List.pairwise_cons.1 hrest).1
  have hnone : before.flatMap (fun a => if a.path = file.path then r.violations a else []) = [] :=
    List.flatMap_eq_nil_iff.2 fun a ha =>
      if_neg (Path.ne_of_compare_eq_lt (hbefore a ha file List.mem_cons_self))
  have hnone' : after.flatMap (fun a => if a.path = file.path then r.violations a else []) = [] :=
    List.flatMap_eq_nil_iff.2 fun a ha => if_neg (Path.ne_of_compare_eq_lt (hafter a ha)).symm
  rw [List.flatMap_append, List.flatMap_cons, if_pos rfl, hnone, hnone', List.nil_append,
    List.append_nil]

theorem pairwise_joined :
    (r.joined files).violations.Pairwise fun a b => (a.comparePlace b).isLE = true := by
  refine List.pairwise_flatMap.2 ⟨fun file _ => ?_, hfiles.imp fun {a b} hlt => ?_⟩
  · -- within a file the path is the same
    refine (r.yields_violations file).pairwise.imp_of_mem fun {v w} hv hw hle => ?_
    exact Violation.comparePlace_isLE_of_position
      ((hpath file v hv).trans (hpath file w hw).symm) hle
  · intro v hv w hw
    refine Violation.comparePlace_isLE_of_lt ?_
    rw [hpath a v hv, hpath b w hw]
    exact hlt

/-- The findings of files that are listed by path are in order. -/
theorem joins_joined : r.Joins files (r.joined files) where
  violations_eq := rfl
  filesChecked_eq := rfl
  under_eq _ hfile := under_joined_path hpath hfiles hfile
  pairwise := pairwise_joined hpath hfiles
  sort_eq := congrArg (Findings.mk · _) (List.mergeSort_of_pairwise (pairwise_joined hpath hfiles))

end

theorem files_eq_ok_iff : r.files t = .ok files ↔ r.selection.files? t = some files := by
  unfold Run.files
  split
  · next found hfound => rw [hfound, Except.ok.injEq, Option.some.injEq]
  · next hnone => simp [hnone]

theorem findings_eq_map (hfiles : r.files t = .ok files) :
    r.findings t = (files.mapM r.outcome).map fun outcomes =>
      Findings.sort { violations := outcomes.flatten, filesChecked := files.length } := by
  rw [findings, hfiles]
  change (do
    let outcomes ← files.mapM r.outcome
    return Findings.sort { violations := outcomes.flatten, filesChecked := files.length }) = _
  cases files.mapM r.outcome with
  | error e => rfl
  | ok outcomes => rfl

theorem findings_of_outcomes (hfiles : r.files t = .ok files)
    (h : ∀ file ∈ files, r.outcome file = .ok (r.violations file)) :
    r.findings t = .ok (r.joined files).sort := by
  have hall : files.mapM r.outcome = .ok (files.map r.violations) := by
    rw [List.mapM_eq_ok_iff, List.map_map]
    exact List.map_congr_left h
  rw [findings_eq_map hfiles, hall]
  rfl

/-- A run that goes on at files it cannot check sorts what its files add. -/
theorem findings_of_lenient (h : r.strict = false) (hfiles : r.files t = .ok files) :
    r.findings t = .ok (r.joined files).sort := by
  refine findings_of_outcomes hfiles fun file _ => ?_
  rw [outcome, h]

/-- A run that goes on at files it cannot check finds what each of its files
    yields, one after the other in the order of their paths, and sorting changes
    nothing. When one of the files gets another content, what is reported under
    other paths stays the same. -/
theorem findings_joins_violations (hr : ofSetup directory setup = .ok r)
    (hlenient : setup.failOnParseError.getD setup.config.checker.failOnParseError = false)
    (hchecks : ∀ reg ∈ setup.registrations, reg.check.ReportsUnderPath)
    (hfiles : r.files t = .ok files) :
    ∃ f, r.findings t = .ok f ∧ r.selection.Lists t files ∧ r.Joins files f ∧
      (∀ file ∈ files, r.Yields file (r.violations file)) ∧
      ∀ base names file t', r.selection.Finds t base names file →
        t.OverwrittenAt t' (base ++ names) →
        ∃ f', r.findings t' = .ok f' ∧ f'.filesChecked = f.filesChecked ∧
          ∀ path, path ≠ file.path → f'.under path = f.under path := by
  have hstrict : r.strict = false := (strict_of_ofSetup hr).trans hlenient
  have hpath : ∀ file : SourceFile, ∀ v ∈ r.violations file, v.location.file = file.path :=
    fun file => (r.yields_violations file).location_file_eq hr hchecks
  have hlists := Selection.lists_of_files? (files_eq_ok_iff.1 hfiles)
  have hjoins := joins_joined hpath hlists.pairwise
  refine ⟨r.joined files, ?_, hlists, hjoins, fun file _ => r.yields_violations file, ?_⟩
  · rw [findings_of_lenient hstrict hfiles, hjoins.sort_eq]
  · intro base names file t' hfinds hover
    obtain ⟨files', hfiles', hsame⟩ :=
      Selection.files?_of_overwrittenAt (files_eq_ok_iff.1 hfiles) hfinds hover
    have hjoins' := joins_joined hpath (Selection.lists_of_files? hfiles').pairwise
    refine ⟨r.joined files', ?_, hsame.length_eq.symm, fun path hne => ?_⟩
    · rw [findings_of_lenient hstrict (files_eq_ok_iff.2 hfiles'), hjoins'.sort_eq]
    · refine under_joined_congr hpath (hsame.imp fun old new hfile => ⟨hfile.1, fun heq => ?_⟩)
      exact hfile.2 (heq ▸ hne)

end Run

/-- A language in which a text declares one parameter, that of its name. -/
def wordFrontend : Frontend where
  name := "word"
  extensions := ["word"]
  parse unit source _ :=
    if source = "!" then .error (.badSyntax ⟨1, 1⟩ "unexpected input")
    else .ok ((Tree.ofUnit unit).attached 0 ⟨.parameter .formal, source, ⟨1, 1⟩, 0, {}⟩)

/-- A setup with one check, for files of that language. -/
def wordSetup : Run.Setup :=
  { root := some "/p"
    registrations := [{ check := ParameterName.onlyH.toCheck }]
    frontend := some wordFrontend
    config := { checker := { extensions := [] } } }

/-- A directory with three files, the last of which has no tree. -/
def wordTree (first : ByteArray) : FileTree :=
  .ofList [(["p", "b.word"], .file "x".toUTF8), (["p", "c.word"], .file "!".toUTF8),
    (["p", "a.word"], .file first)]

theorem overwrittenAt_wordTree (first first' : ByteArray) :
    (wordTree first).OverwrittenAt (wordTree first') ["p", "a.word"] :=
  .of_entries_eq rfl rfl

theorem exists_files_wordSetup :
    ∃ r files, Run.ofSetup "/" wordSetup = .ok r ∧
      r.files (wordTree ⟨#[0xff]⟩) = .ok files ∧
      (files.flatMap r.violations).map (fun v => (v.code, v.location.file)) =
        [("SC001", "a.word"), ("SC101", "b.word"), ("SC001", "c.word")] ∧
      r.selection.Finds (wordTree ⟨#[0xff]⟩) ["p"] ["a.word"] ⟨"a.word", ⟨#[0xff]⟩⟩ := by
  refine ⟨_, _, rfl, Run.files_eq_ok_iff.2 (Selection.files?_eq_some_iff.2
    ⟨["p"], ?_, ?_, rfl⟩), ?_, ?_, rfl, ?_, rfl⟩
  · decide +kernel
  · decide +kernel
  · decide +kernel
  · decide +kernel
  · decide +kernel

theorem Run.findings_joins_violations_words :
    ∃ r files f, ofSetup "/" wordSetup = .ok r ∧
      wordSetup.failOnParseError.getD wordSetup.config.checker.failOnParseError = false ∧
      (∀ reg ∈ wordSetup.registrations, reg.check.ReportsUnderPath) ∧
      r.files (wordTree ⟨#[0xff]⟩) = .ok files ∧ r.findings (wordTree ⟨#[0xff]⟩) = .ok f ∧
      f.violations.map (fun v => (v.code, v.location.file)) =
        [("SC001", "a.word"), ("SC101", "b.word"), ("SC001", "c.word")] ∧
      ∃ f', r.findings (wordTree "h".toUTF8) = .ok f' ∧ f'.filesChecked = f.filesChecked ∧
        ∀ path, path ≠ "a.word" → f'.under path = f.under path := by
  obtain ⟨r, files, hr, hfiles, hviolations, hfinds⟩ := exists_files_wordSetup
  have hchecks : ∀ reg ∈ wordSetup.registrations, reg.check.ReportsUnderPath := by
    rintro reg (_ | ⟨_, ⟨⟩⟩)
    exact ParameterName.reportsUnderPath_toCheck _
  obtain ⟨f, hf, -, hjoins, -, hover⟩ := findings_joins_violations hr rfl hchecks hfiles
  refine ⟨r, files, f, hr, rfl, hchecks, hfiles, hf, ?_, ?_⟩
  · rw [hjoins.violations_eq]
    exact hviolations
  · exact hover _ _ _ _ hfinds (overwrittenAt_wordTree _ _)

end JavaLint
