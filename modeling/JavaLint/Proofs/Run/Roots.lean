import JavaLint.Proofs.Files.Glob
import JavaLint.Proofs.Run.Findings
/-!
# The same files below another root

Where nothing is ignored, a run looks at the files below its root and at the
steps that lead to them from there. Only the patterns for files to leave out see
more, as they are also matched against absolute paths.

## Main definitions

- `FileTree.SameBelow` — the same files stand below two places
- `Selection.RootedAt` — a root is a directory that no ignore file says anything about
- `Run.Setup.withRoot`, `Run.withRoot` — another root

## Main statements

- `Selection.files?_eq_iff` — when the files below two roots are the same
- `Run.findings_of_roots` — when the findings below two roots are the same
-/

namespace JavaLint

/-! ## Files below two places -/

/-- The files below two places are the same. -/
def FileTree.SameBelow (t t' : FileTree) (base base' : Place) : Prop :=
  ∀ names, t.bytes? (base ++ names) = t'.bytes? (base' ++ names)

theorem FileTree.sameBelow_iff {t t' : FileTree} {base base' : Place} :
    t.SameBelow t' base base' ↔ t.filesBelow base = t'.filesBelow base' := by
  constructor
  · intro h
    let below : KeyMap Place ByteArray := ⟨t.filesBelow base, t.filesBelow_pairwise base⟩
    let below' : KeyMap Place ByteArray := ⟨t'.filesBelow base', t'.filesBelow_pairwise base'⟩
    have hget : ∀ names, below.get? names = below'.get? names := by
      intro names
      refine Option.ext fun bytes => ?_
      rw [KeyMap.get?_eq_some_iff, KeyMap.get?_eq_some_iff]
      change (names, bytes) ∈ t.filesBelow base ↔ (names, bytes) ∈ t'.filesBelow base'
      rw [mem_filesBelow_iff, mem_filesBelow_iff, h names]
    exact KeyMap.entries_eq_of_get? hget
  · intro h names
    refine Option.ext fun bytes => ?_
    rw [← mem_filesBelow_iff, ← mem_filesBelow_iff, h]

theorem List.map_filter_eq_map_filter_iff {α β : Type} {f : α → β} {p q : α → Bool} {l : List α}
    (hf : ∀ a ∈ l, ∀ b ∈ l, f a = f b → a = b) :
    (l.filter p).map f = (l.filter q).map f ↔ ∀ a ∈ l, p a = q a := by
  have hsub : ∀ {p q : α → Bool}, (l.filter p).map f = (l.filter q).map f →
      ∀ a ∈ l, p a = true → q a = true := by
    intro p q h a ha hp
    have hmem := List.mem_map_of_mem (f := f) (List.mem_filter.2 ⟨ha, hp⟩)
    rw [h] at hmem
    obtain ⟨b, hb, hba⟩ := List.mem_map.1 hmem
    obtain ⟨hbl, hq⟩ := List.mem_filter.1 hb
    rwa [← hf b hbl a ha hba]
  constructor
  · intro h a ha
    exact Bool.eq_iff_iff.2 ⟨hsub h a ha, hsub h.symm a ha⟩
  · intro h
    rw [List.filter_congr h]

namespace IgnoreFile

variable {t : FileTree} {git : Bool} {f : IgnoreFile}

/-- An ignore file stands below its directory. -/
theorem exists_bytes?_of_mem_all (h : f ∈ all t git) :
    ∃ kind ∈ kinds git, t.bytes? (f.directory ++ kind) ≠ none := by
  obtain ⟨kind, hkind, hf⟩ := List.mem_flatMap.1 h
  rw [ofKind, List.mem_mergeSort] at hf
  obtain ⟨⟨place, bytes⟩, hmem, hmap⟩ := List.mem_filterMap.1 hf
  obtain ⟨directory, hdirectory, rfl⟩ := Option.map_eq_some_iff.1 hmap
  have hbytes := FileTree.mem_filesBelow_iff.1 hmem
  rw [List.nil_append, eq_append_of_directory? hdirectory] at hbytes
  exact ⟨kind, hkind, by rw [hbytes]; nofun⟩

end IgnoreFile

namespace Selection

variable {s s' : Selection} {t t' : FileTree} {base base' names : Place}

/-- The root of a selection is a directory at a place, and no ignore file stands
    at, above or below it. -/
structure RootedAt (s : Selection) (t : FileTree) (base : Place) : Prop where
  locate?_eq : t.locate? s.root = some base
  isFile_eq : t.isFile base = false
  bytes?_eq_none : ∀ kind ∈ IgnoreFile.kinds s.respectGitignore, ∀ directory : Place,
    directory <+: base ∨ base <+: directory → t.bytes? (directory ++ kind) = none

/-- Is a file below the root one of the run, if nothing is ignored? -/
def keeps (s : Selection) (names : Place) : Bool :=
  s.hasExtension names && !s.isExcluded names

/-- In a tree without ignore files, no ignore file says anything about a root. -/
theorem rootedAt_of_forall_filesBelow (hlocate : t.locate? s.root = some base)
    (hfile : t.isFile base = false)
    (h : ∀ e ∈ t.filesBelow [], ∀ kind ∈ IgnoreFile.kinds s.respectGitignore, ¬ kind <:+ e.1) :
    s.RootedAt t base where
  locate?_eq := hlocate
  isFile_eq := hfile
  bytes?_eq_none := by
    intro kind hkind directory _
    rw [Option.eq_none_iff_forall_ne_some]
    intro bytes hbytes
    have hmem : (directory ++ kind, bytes) ∈ t.filesBelow [] := FileTree.mem_filesBelow_iff.2 hbytes
    exact h _ hmem kind hkind (List.suffix_append directory kind)

namespace RootedAt

/-- The directory of an ignore file is not on the way from the top to the root or
    from the root to a file. -/
theorem not_isPrefix (h : s.RootedAt t base) {f : IgnoreFile}
    (hf : f ∈ IgnoreFile.all t s.respectGitignore) (names : Place) :
    ¬ f.directory <+: base ++ names := by
  obtain ⟨kind, hkind, hbytes⟩ := IgnoreFile.exists_bytes?_of_mem_all hf
  intro habove
  exact hbytes (h.bytes?_eq_none kind hkind f.directory
    (List.prefix_or_prefix_of_prefix habove (List.prefix_append base names)))

theorem ignores_eq (h : s.RootedAt t base) (names : Place) :
    IgnoreFile.ignores (IgnoreFile.all t s.respectGitignore) base names = false := by
  have hdeciding : ∀ f ∈ IgnoreFile.all t s.respectGitignore, ∀ below isDirectory,
      f.deciding? (base ++ below) isDirectory = none := by
    intro f hf below isDirectory
    have hnone : f.directory.isPrefixOf? (base ++ below) = none := by
      rw [Option.eq_none_iff_forall_ne_some]
      intro rest hrest
      exact h.not_isPrefix hf below ⟨rest, List.isPrefixOf?_eq_some_iff_append_eq.1 hrest⟩
    rw [IgnoreFile.deciding?, hnone]
  unfold IgnoreFile.ignores
  refine List.any_eq_false.2 fun i _ => ?_
  rw [IgnoreFile.leaveOut, List.findSome?_eq_none_iff.2 fun f hf => hdeciding f hf _ _]
  exact Bool.false_ne_true

theorem brokenAbove_eq (h : s.RootedAt t base) :
    brokenAbove (IgnoreFile.all t s.respectGitignore) base = false := by
  unfold brokenAbove
  refine List.any_eq_false.2 fun f hf => ?_
  have hnot : f.directory.isPrefixOf base = false := by
    rw [← Bool.not_eq_true, List.isPrefixOf_iff_prefix]
    simpa using h.not_isPrefix hf []
  rw [hnot]
  simp

/-- What stands below the root has at least one step. -/
theorem ne_nil (h : s.RootedAt t base) {bytes : ByteArray}
    (hbytes : t.bytes? (base ++ names) = some bytes) : names ≠ [] := by
  rintro rfl
  rw [List.append_nil] at hbytes
  have hfile := h.isFile_eq
  rw [FileTree.isFile_iff.2 ⟨bytes, hbytes⟩] at hfile
  cases hfile

theorem selects_eq (h : s.RootedAt t base) (hne : names ≠ []) :
    s.selects (IgnoreFile.all t s.respectGitignore) base names = s.keeps names := by
  unfold selects keeps hasExtension
  rw [h.ignores_eq, List.getLast?_append, Option.or_of_isSome (List.getLast?_isSome.2 hne),
    Bool.not_false, Bool.and_true]

/-- The files of a run whose root is a directory where nothing is ignored. -/
theorem files?_eq (h : s.RootedAt t base) :
    s.files? t = some (((t.filesBelow base).filter fun e => s.keeps e.1).map fun e =>
      ⟨relativePath e.1, e.2⟩) := by
  refine files?_eq_some_iff.2 ⟨base, h.locate?_eq, by rw [h.brokenAbove_eq, Bool.and_false], ?_⟩
  have hne : ∀ e ∈ t.filesBelow base, e.1 ≠ [] := fun e he =>
    h.ne_nil (FileTree.mem_filesBelow_iff.1 he)
  have hfound : s.found t base = (t.filesBelow base).filter fun e => s.keeps e.1 :=
    List.filter_congr fun e he => h.selects_eq (hne e he)
  rw [hfound]
  refine List.map_congr_left fun e he => ?_
  have hempty : e.1.isEmpty = false := by simpa using hne e (List.mem_filter.1 he).1
  rw [sourceFile, hempty]
  rfl

end RootedAt

/-- The files below two roots are the same just if the patterns leave out the
    same files with one of the extensions. -/
theorem files?_eq_iff (h : s.RootedAt t base) (h' : s'.RootedAt t' base')
    (hsame : t.SameBelow t' base base') (hextensions : s.extensions = s'.extensions) :
    s.files? t = s'.files? t' ↔ ∀ names bytes, t.bytes? (base ++ names) = some bytes →
      s.hasExtension names = true → s.isExcluded names = s'.isExcluded names := by
  have hinjective : ∀ e ∈ t.filesBelow base, ∀ e' ∈ t.filesBelow base,
      SourceFile.mk (relativePath e.1) e.2 = ⟨relativePath e'.1, e'.2⟩ → e = e' := by
    rintro ⟨names, bytes⟩ he ⟨names', bytes'⟩ he' heq
    obtain ⟨hpath, hbytes⟩ := SourceFile.mk.inj heq
    have hsteps := congrArg Path.components hpath
    rw [Path.components_relativePath (FileTree.isFileName_of_mem_filesBelow he),
      Path.components_relativePath (FileTree.isFileName_of_mem_filesBelow he')] at hsteps
    have hnames : names = names' := List.map_injective_iff.2 (fun _ _ => Path.Component.name.inj) hsteps
    exact Prod.ext hnames hbytes
  have hextension : ∀ names, s'.hasExtension names = s.hasExtension names := by
    intro names
    rw [hasExtension, ← hextensions, hasExtension]
  rw [h.files?_eq, h'.files?_eq, ← FileTree.sameBelow_iff.1 hsame, Option.some.injEq,
    List.map_filter_eq_map_filter_iff hinjective]
  constructor
  · intro hkeeps names bytes hbytes hhas
    have := hkeeps (names, bytes) (FileTree.mem_filesBelow_iff.2 hbytes)
    rw [keeps, keeps, hextension, hhas, Bool.true_and, Bool.true_and] at this
    exact Bool.not_inj this
  · rintro hexcluded ⟨names, bytes⟩ he
    rw [keeps, keeps, hextension]
    cases hhas : s.hasExtension names with
    | false => rfl
    | true => rw [hexcluded names bytes (FileTree.mem_filesBelow_iff.1 he) hhas]

/-! ## What the patterns leave out -/

theorem absolutePath_eq_join (s : Selection) (hne : names ≠ []) :
    s.absolutePath names = Path.join s.root (relativePath names) :=
  if_neg (by simpa using hne)

section

variable (hroot : Path.isAbsolute s.root = true) (hne : names ≠ [])
  (hnames : ∀ name ∈ names, isFileName name = true)

include hroot hne hnames

/-- Patterns that do not see the directories above the root leave out what they
    match from the root. -/
theorem isExcluded_eq_of_isBlindTo (h : ∀ g ∈ s.excludes, ∃ text, Glob.parse? text = some g ∧
    Glob.IsBlindTo s.root text) :
    s.isExcluded names = s.excludes.any fun g => g.accepts (relativePath names) := by
  unfold isExcluded
  rw [s.absolutePath_eq_join hne, Bool.eq_iff_iff, List.any_eq_true, List.any_eq_true]
  refine exists_congr fun g => and_congr_right fun hg => ?_
  obtain ⟨text, htext, hblind⟩ := h g hg
  rw [Bool.or_eq_true, or_iff_left_of_imp (hblind.accepts_relativePath htext hroot hnames)]

/-- Below a directory with a name, the pattern for it leaves out all files. -/
theorem isExcluded_of_mem_components {name : String} {g : Glob} (hname : Glob.isPlain name = true)
    (hg : Glob.parse? (Glob.below name) = some g) (hmem : g ∈ s.excludes)
    (hstep : .name name ∈ Path.components s.root) : s.isExcluded names = true := by
  have hempty : s.root ≠ "" := by
    intro hempty
    rw [hempty] at hroot
    cases hroot
  refine List.any_eq_true.2 ⟨g, hmem, ?_⟩
  rw [s.absolutePath_eq_join hne,
    (Glob.accepts_below_join_iff hname hg hempty hnames).2 (.inl hstep), Bool.or_true]

end

end Selection

/-! ## Runs -/

namespace Run

variable {directory root root' : String} {setup : Setup} {r r' : Run} {t t' : FileTree}
  {base base' names : Place}

/-- A setup with another root. -/
def Setup.withRoot (setup : Setup) (root : String) : Setup :=
  { setup with root := some root }

/-- Below a root where nothing is ignored, the files of a run can be listed. -/
theorem exists_files_eq_ok (h : r.selection.RootedAt t base) :
    ∃ files, r.files t = .ok files ∧ r.selection.files? t = some files :=
  ⟨_, files_eq_ok_iff.2 h.files?_eq, h.files?_eq⟩

/-- A run whose patterns leave out all that stands below its root finds nothing. -/
theorem findings_of_isExcluded (h : r.selection.RootedAt t base)
    (hexcluded : ∀ names bytes, t.bytes? (base ++ names) = some bytes →
      r.selection.isExcluded names = true) :
    r.findings t = .ok { violations := [], filesChecked := 0 } := by
  have hnone : ((t.filesBelow base).filter fun e => r.selection.keeps e.1) = [] := by
    refine List.filter_eq_nil_iff.2 fun e he => ?_
    rw [Selection.keeps, hexcluded e.1 e.2 (FileTree.mem_filesBelow_iff.1 he), Bool.not_true,
      Bool.and_false]
    exact Bool.false_ne_true
  have hfiles : r.files t = .ok [] := by rw [files_eq_ok_iff, h.files?_eq, hnone, List.map_nil]
  rw [findings_of_outcomes hfiles (by simp), Findings.sort, joined, List.flatMap_nil,
    List.mergeSort_nil]
  rfl

/-! ### One root -/

section

variable (hroot : Path.isAbsolute root = true)
  (hr : ofSetup directory (setup.withRoot root) = .ok r)

include hroot hr

theorem root_eq_of_ofSetup : r.selection.root = root := by
  obtain ⟨_, _, _, -, -, -, rfl⟩ := ofSetup_eq_ok_iff.1 hr
  exact Path.join_of_isAbsolute directory hroot

omit hroot in
/-- The patterns of a run are those that the texts of the setup write. -/
theorem mem_excludes_iff {g : Glob} :
    g ∈ r.selection.excludes ↔ ∃ text ∈ setup.patterns, Glob.parse? text = some g := by
  obtain ⟨_, excludes, _, -, hexcludes, -, rfl⟩ := ofSetup_eq_ok_iff.1 hr
  exact mem_of_mapM_glob hexcludes

variable (hne : names ≠ []) (hnames : ∀ name ∈ names, isFileName name = true)

include hne hnames

theorem isExcluded_of_isBlindTo (hblind : ∀ text ∈ setup.patterns, Glob.IsBlindTo root text) :
    r.selection.isExcluded names =
      r.selection.excludes.any fun g => g.accepts (Selection.relativePath names) := by
  have hselection := root_eq_of_ofSetup hroot hr
  rw [← hselection] at hroot hblind
  refine Selection.isExcluded_eq_of_isBlindTo hroot hne hnames fun g hg => ?_
  obtain ⟨text, htext, hparse⟩ := (mem_excludes_iff hr).1 hg
  exact ⟨text, hparse, hblind text htext⟩

theorem isExcluded_of_below_mem {name : String} (hname : Glob.isPlain name = true)
    (hmem : Glob.below name ∈ setup.patterns) (hstep : .name name ∈ Path.components root) :
    r.selection.isExcluded names = true := by
  have hselection := root_eq_of_ofSetup hroot hr
  rw [← hselection] at hroot hstep
  have hparse := Glob.parse?_below hname
  exact Selection.isExcluded_of_mem_components hroot hne hnames hname hparse
    ((mem_excludes_iff hr).2 ⟨_, hmem, hparse⟩) hstep

end

/-! ### Two roots -/

/-- A run with another root. -/
def withRoot (r : Run) (root : String) : Run :=
  { r with selection.root := root }

section

variable (hroot : Path.isAbsolute root = true) (hroot' : Path.isAbsolute root' = true)
  (hr : ofSetup directory (setup.withRoot root) = .ok r)

include hroot' hr

/-- A setup that makes a run makes one with another root. -/
theorem ofSetup_withRoot : ofSetup directory (setup.withRoot root') = .ok (r.withRoot root') := by
  obtain ⟨frontend, excludes, checks, hfrontend, hexcludes, hchecks, rfl⟩ := ofSetup_eq_ok_iff.1 hr
  refine ofSetup_eq_ok_iff.2 ⟨frontend, excludes, checks, hfrontend, hexcludes, hchecks, ?_⟩
  unfold Setup.assemble withRoot Setup.withRoot
  rw [Option.getD_some, Path.join_of_isAbsolute directory hroot']

omit hroot' hr in
/-- Of the same files, the runs with two roots find the same. -/
theorem findings_withRoot (h : r.files t = (r.withRoot root').files t') :
    r.findings t = (r.withRoot root').findings t' := by
  unfold findings
  rw [h]
  rfl

include hroot

/-- The findings below two roots with the same files below them, where nothing is
    ignored. Both runs list their files. These are the same just if the patterns
    leave out the same files with one of the extensions, and then the findings are
    the same. That is so if no pattern sees the directories above the roots. A
    pattern for all that is below directories with a name does see them: if the
    name is a step of the root, the run has no files. -/
theorem findings_of_roots (hrooted : r.selection.RootedAt t base)
    (hrooted' : (r.withRoot root').selection.RootedAt t' base')
    (hsame : t.SameBelow t' base base') :
    ∃ files files', ofSetup directory (setup.withRoot root') = .ok (r.withRoot root') ∧
      r.files t = .ok files ∧ (r.withRoot root').files t' = .ok files' ∧
      (files = files' ↔ ∀ names bytes, t.bytes? (base ++ names) = some bytes →
        r.selection.hasExtension names = true →
          r.selection.isExcluded names = (r.withRoot root').selection.isExcluded names) ∧
      (files = files' → r.findings t = (r.withRoot root').findings t') ∧
      ((∀ text ∈ setup.patterns, Glob.IsBlindTo root text ∧ Glob.IsBlindTo root' text) →
        r.findings t = (r.withRoot root').findings t') ∧
      ∀ name, Glob.isPlain name = true → Glob.below name ∈ setup.patterns →
        .name name ∈ Path.components root →
        r.findings t = .ok { violations := [], filesChecked := 0 } := by
  have hr' := ofSetup_withRoot hroot' hr
  have hnames : ∀ {names bytes}, t.bytes? (base ++ names) = some bytes →
      names ≠ [] ∧ ∀ name ∈ names, isFileName name = true := fun h =>
    ⟨hrooted.ne_nil h, FileTree.isFileName_of_mem_filesBelow (FileTree.mem_filesBelow_iff.2 h)⟩
  obtain ⟨files, hfiles, hlisted⟩ := exists_files_eq_ok hrooted
  obtain ⟨files', hfiles', hlisted'⟩ := exists_files_eq_ok hrooted'
  have hsameFiles := Selection.files?_eq_iff hrooted hrooted' hsame rfl
  rw [hlisted, hlisted', Option.some.injEq] at hsameFiles
  have hfindings : files = files' → r.findings t = (r.withRoot root').findings t' := fun h =>
    findings_withRoot (by rw [hfiles, hfiles', h])
  refine ⟨files, files', hr', hfiles, hfiles', hsameFiles, hfindings,
    fun hblind => hfindings (hsameFiles.2 ?_), fun name hname hmem hstep => ?_⟩
  · intro names bytes hbytes _
    obtain ⟨hne, hnames⟩ := hnames hbytes
    rw [isExcluded_of_isBlindTo hroot hr hne hnames fun text htext => (hblind text htext).1,
      isExcluded_of_isBlindTo hroot' hr' hne hnames fun text htext => (hblind text htext).2]
    rfl
  · refine findings_of_isExcluded hrooted fun names bytes hbytes => ?_
    obtain ⟨hne, hnames⟩ := hnames hbytes
    exact isExcluded_of_below_mem hroot hr hne hnames hname hmem hstep

end

end Run

/-- A setup that leaves out the directories of builds, as the standard settings do. -/
def leavingOutBuilds : Run.Setup :=
  { wordSetup with
    config := { checker := { extensions := [], exclude := CheckerSettings.buildDirectories } } }

/-- The patterns that the texts of the setup write. -/
def buildGlobs : List Glob :=
  ["target", "build"].map fun name =>
    ⟨.anySteps :: (name.toList.map .literal ++ [.literal '/', .anySteps])⟩

theorem mapM_glob_patterns : leavingOutBuilds.patterns.mapM Run.glob = .ok buildGlobs := by
  have htarget := Run.glob_eq_ok_iff.2 (Glob.parse?_below (by decide : Glob.isPlain "target" = true))
  have hbuild := Run.glob_eq_ok_iff.2 (Glob.parse?_below (by decide : Glob.isPlain "build" = true))
  change [Glob.below "target", Glob.below "build"].mapM Run.glob = .ok buildGlobs
  simp only [List.mapM_cons, List.mapM_nil, htarget, hbuild]
  rfl

theorem isBlindTo_of_mem_patterns {root text : String}
    (htarget : .name "target" ∉ Path.components root)
    (hbuild : .name "build" ∉ Path.components root) (h : text ∈ leavingOutBuilds.patterns) :
    Glob.IsBlindTo root text := by
  rcases List.mem_pair.1 h with rfl | rfl
  · exact .below (by decide : Glob.isPlain "target" = true) htarget
  · exact .below (by decide : Glob.isPlain "build" = true) hbuild

/-- A tree with one file, in a directory at a place. -/
def wordIn (base : Place) : FileTree :=
  .ofList [(base ++ ["a.word"], .file "x".toUTF8)]

theorem sameBelow_wordIn :
    (wordIn ["src", "p"]).SameBelow (wordIn ["work", "q"]) ["src", "p"] ["work", "q"] ∧
      (wordIn ["build", "p"]).SameBelow (wordIn ["src", "p"]) ["build", "p"] ["src", "p"] :=
  ⟨FileTree.sameBelow_iff.2 (by decide +kernel), FileTree.sameBelow_iff.2 (by decide +kernel)⟩

/-- What the setup decides about files below a root. -/
def buildSelection (root : String) : Selection :=
  { root, extensions := ["word"], excludes := buildGlobs, respectGitignore := true }

/-- The setup makes a run for a root. -/
theorem exists_ofSetup_leavingOutBuilds {root : String} (hroot : Path.isAbsolute root = true) :
    ∃ r, Run.ofSetup "/" (leavingOutBuilds.withRoot root) = .ok r ∧ r.strict = false ∧
      r.selection = buildSelection root := by
  refine ⟨_, Run.ofSetup_eq_ok_iff.2 ⟨_, _, _, rfl, mapM_glob_patterns, rfl, rfl⟩, rfl, ?_⟩
  exact congrArg (Selection.mk · _ _ _) (Path.join_of_isAbsolute "/" hroot)

theorem rootedAt_buildSelection :
    (buildSelection "/src/p").RootedAt (wordIn ["src", "p"]) ["src", "p"] ∧
      (buildSelection "/work/q").RootedAt (wordIn ["work", "q"]) ["work", "q"] ∧
      (buildSelection "/build/p").RootedAt (wordIn ["build", "p"]) ["build", "p"] := by
  refine ⟨Selection.rootedAt_of_forall_filesBelow ?_ ?_ ?_,
    Selection.rootedAt_of_forall_filesBelow ?_ ?_ ?_,
    Selection.rootedAt_of_forall_filesBelow ?_ ?_ ?_⟩
  all_goals decide +kernel

namespace Run

/-- A project is checked in two directories, and a third time below a directory
    named `build`. -/
theorem findings_of_roots_words :
    ∃ r r' r'', ofSetup "/" (leavingOutBuilds.withRoot "/src/p") = .ok r ∧
      ofSetup "/" (leavingOutBuilds.withRoot "/work/q") = .ok r' ∧
      ofSetup "/" (leavingOutBuilds.withRoot "/build/p") = .ok r'' ∧
      r.findings (wordIn ["src", "p"]) = r'.findings (wordIn ["work", "q"]) ∧
      r''.findings (wordIn ["build", "p"]) = .ok { violations := [], filesChecked := 0 } := by
  have hsrc : Path.isAbsolute "/src/p" = true := by decide
  have hwork : Path.isAbsolute "/work/q" = true := by decide
  have hbuild : Path.isAbsolute "/build/p" = true := by decide
  obtain ⟨r, hr, -, hselection⟩ := exists_ofSetup_leavingOutBuilds hsrc
  obtain ⟨r'', hr'', -, hselection''⟩ := exists_ofSetup_leavingOutBuilds hbuild
  obtain ⟨hrooted, hrooted', hrooted''⟩ := rootedAt_buildSelection
  have hmoved : (r.withRoot "/work/q").selection = buildSelection "/work/q" :=
    congrArg (fun s : Selection => { s with root := "/work/q" }) hselection
  have hmoved'' : (r''.withRoot "/src/p").selection = buildSelection "/src/p" :=
    congrArg (fun s : Selection => { s with root := "/src/p" }) hselection''
  obtain ⟨-, -, hr', -, -, -, -, hfindings, -⟩ := findings_of_roots hsrc hwork hr (hselection ▸ hrooted)
    (hmoved ▸ hrooted') sameBelow_wordIn.1
  obtain ⟨-, -, -, -, -, -, -, -, hnone⟩ := findings_of_roots hbuild hsrc hr'' (hselection'' ▸ hrooted'')
    (hmoved'' ▸ hrooted) sameBelow_wordIn.2
  refine ⟨r, _, r'', hr, hr', hr'', hfindings fun text htext => ⟨?_, ?_⟩,
    hnone "build" (by decide) ?_ (by decide)⟩
  · exact isBlindTo_of_mem_patterns (by decide) (by decide) htext
  · exact isBlindTo_of_mem_patterns (by decide) (by decide) htext
  · exact List.mem_cons_of_mem _ List.mem_cons_self

/-- Below a directory named `build`, the one file is not among those of the run,
    although no pattern starts with a slash. -/
theorem findings_ne_of_build :
    ∃ r r', ofSetup "/" (leavingOutBuilds.withRoot "/build/p") = .ok r ∧
      ofSetup "/" (leavingOutBuilds.withRoot "/src/p") = .ok r' ∧
      r.selection.RootedAt (wordIn ["build", "p"]) ["build", "p"] ∧
      r'.selection.RootedAt (wordIn ["src", "p"]) ["src", "p"] ∧
      (wordIn ["build", "p"]).SameBelow (wordIn ["src", "p"]) ["build", "p"] ["src", "p"] ∧
      (∀ text ∈ leavingOutBuilds.patterns, text.toList.head? ≠ some '/') ∧
      (r.findings (wordIn ["build", "p"])).map (·.filesChecked) = .ok 0 ∧
      (r'.findings (wordIn ["src", "p"])).map (·.filesChecked) = .ok 1 := by
  obtain ⟨r, hr, hstrict, hselection⟩ :=
    exists_ofSetup_leavingOutBuilds (by decide : Path.isAbsolute "/build/p" = true)
  obtain ⟨r', hr', hstrict', hselection'⟩ :=
    exists_ofSetup_leavingOutBuilds (by decide : Path.isAbsolute "/src/p" = true)
  obtain ⟨hrooted', -, hrooted⟩ := rootedAt_buildSelection
  rw [← hselection] at hrooted
  rw [← hselection'] at hrooted'
  have hcount := findings_of_lenient hstrict (files_eq_ok_iff.2 hrooted.files?_eq)
  have hcount' := findings_of_lenient hstrict' (files_eq_ok_iff.2 hrooted'.files?_eq)
  rw [hselection] at hcount
  rw [hselection'] at hcount'
  refine ⟨r, r', hr, hr', hrooted, hrooted', sameBelow_wordIn.2, by decide, ?_, ?_⟩
  · rw [hcount]
    exact congrArg Except.ok (by decide +kernel : List.length _ = 0)
  · rw [hcount']
    exact congrArg Except.ok (by decide +kernel : List.length _ = 1)

end Run

end JavaLint
