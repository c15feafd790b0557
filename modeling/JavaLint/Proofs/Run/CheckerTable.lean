import JavaLint.Proofs.Config.CheckerTable
import JavaLint.Proofs.Run.Roots
/-!
# Runs with a table that repeats the standard settings

Adding a table to a configuration that writes nothing but standard values should not
change what a run does. Yet if the table does not write the patterns of files to leave
out, these go missing, and the run also looks at the files of build directories.

## Main definitions

- `Selection.InBuildDirectory` — a file stands below a directory that builds write to
- `Selection.withBuildGlobs`, `Run.withBuildGlobs` — such files are left out as well

## Main statements

- `Selection.files?_withBuildGlobs_eq_iff` — when leaving out such files makes no difference
- `Run.findings_of_checker_table` — when a table with standard values makes no difference
- `Run.findings_ne_of_empty_checker_table` — an empty table makes one
-/

namespace JavaLint

namespace Selection

variable {s : Selection} {t : FileTree} {base names : Place}

/-- One of the steps that lead to a file is a directory that builds write to, on the way
    from the root or above it. -/
def InBuildDirectory (s : Selection) (names : Place) : Prop :=
  ∃ name ∈ ["target", "build"], ∃ path ∈ [relativePath names, s.absolutePath names],
    name.toList ∈ (Path.pieces path.toList).dropLast

/-- Do the patterns of build directories match a file? -/
def buildGlobsMatch (s : Selection) (names : Place) : Bool :=
  buildGlobs.any fun g => g.accepts (relativePath names) || g.accepts (s.absolutePath names)

/-- The patterns of build directories match the files that stand below one. -/
theorem buildGlobsMatch_iff : s.buildGlobsMatch names = true ↔ s.InBuildDirectory names := by
  unfold buildGlobsMatch buildGlobs InBuildDirectory
  rw [List.any_map, List.any_eq_true]
  refine exists_congr fun name => and_congr_right fun hname => ?_
  have hplain : Glob.isPlain name = true := by
    rcases List.mem_pair.1 hname with rfl | rfl <;> decide
  rw [Function.comp_apply, Bool.or_eq_true, Glob.accepts_below_iff hplain (Glob.parse?_below hplain),
    Glob.accepts_below_iff hplain (Glob.parse?_below hplain)]
  simp only [List.mem_cons, List.not_mem_nil, or_false, exists_eq_or_imp, exists_eq_left]

/-- A selection that leaves out the files of build directories as well. -/
def withBuildGlobs (s : Selection) : Selection :=
  { s with excludes := s.excludes ++ buildGlobs }

theorem found_withBuildGlobs (s : Selection) (t : FileTree) (base : Place) :
    s.withBuildGlobs.found t base = (s.found t base).filter fun e => !s.buildGlobsMatch e.1 := by
  unfold found
  rw [List.filter_filter]
  refine List.filter_congr fun e _ => ?_
  have hexcluded : s.withBuildGlobs.isExcluded e.1 = (s.isExcluded e.1 || s.buildGlobsMatch e.1) :=
    List.any_append
  have hextension : s.withBuildGlobs.hasExtension (base ++ e.1) = s.hasExtension (base ++ e.1) := rfl
  unfold selects
  rw [hexcluded, hextension, Bool.not_or]
  change (_ && (_ && _) && !IgnoreFile.ignores (IgnoreFile.all t s.respectGitignore) base e.1) = _
  cases s.buildGlobsMatch e.1 <;> simp

/-- Leaving out the files of build directories makes no difference just if none is found. -/
theorem files?_withBuildGlobs_eq_iff :
    s.withBuildGlobs.files? t = s.files? t ↔
      ∀ files, s.files? t = some files → ∀ base names file, s.Finds t base names file →
        ¬ s.InBuildDirectory names := by
  cases hfiles : s.files? t with
  | none =>
    refine ⟨nofun, fun _ => ?_⟩
    rw [Option.eq_none_iff_forall_ne_some] at hfiles ⊢
    intro files hfiles'
    obtain ⟨base, hbase, hbroken, -⟩ := files?_eq_some_iff.1 hfiles'
    exact hfiles _ (files?_eq_some_iff.2 ⟨base, hbase, hbroken, rfl⟩)
  | some files =>
    obtain ⟨base, hbase, hbroken, rfl⟩ := files?_eq_some_iff.1 hfiles
    have hfiles' : s.withBuildGlobs.files? t =
        some ((s.withBuildGlobs.found t base).map fun e => sourceFile base e.1 e.2) :=
      files?_eq_some_iff.2 ⟨base, hbase, hbroken, rfl⟩
    rw [hfiles', found_withBuildGlobs, Option.some.injEq]
    constructor
    · rintro heq _ - base' names file ⟨hbase', hbytes, hselects, -⟩ hbuild
      obtain rfl : base = base' := Option.some.inj (hbase.symm.trans hbase')
      -- the one list is as long as the other, so nothing has been left out
      have hlength := congrArg List.length heq
      rw [List.length_map, List.length_map, List.length_filter_eq_length_iff] at hlength
      have hkept := hlength (names, file.bytes) (mem_found_iff.2 ⟨hbytes, hselects⟩)
      rw [buildGlobsMatch_iff.2 hbuild] at hkept
      cases hkept
    · intro hnone
      rw [List.filter_eq_self.2]
      rintro ⟨names, bytes⟩ hmem
      obtain ⟨hbytes, hselects⟩ := mem_found_iff.1 hmem
      have hbuild := hnone _ rfl base names ⟨_, bytes⟩ ⟨hbase, hbytes, hselects, rfl⟩
      rw [← buildGlobsMatch_iff, Bool.not_eq_true] at hbuild
      rw [hbuild]
      rfl

end Selection

namespace Run

variable {directory : String} {setup : Setup} {r r' : Run} {t : FileTree} {c : Config}

theorem mapM_glob_append_buildDirectories (texts : List String) :
    (texts ++ CheckerSettings.buildDirectories).mapM glob =
      (texts.mapM glob).map (· ++ buildGlobs) := by
  have hbuild : CheckerSettings.buildDirectories.mapM glob = .ok buildGlobs := mapM_glob_patterns
  rw [List.mapM_append, hbuild]
  cases texts.mapM glob <;> rfl

/-- A run that leaves out the files of build directories as well, with a configuration. -/
def withBuildGlobs (r : Run) (c : Config) : Run :=
  { r with selection := r.selection.withBuildGlobs, config := c }

/-- A configuration with the standard settings makes a run that leaves out the files of build
    directories as well. -/
theorem ofSetup_eq_map_withBuildGlobs (hchecker : c.checker = .standard) :
    ofSetup directory { setup with config := c } =
      (ofSetup directory { setup with config := { c with checker.exclude := [] } }).map
        (·.withBuildGlobs c) := by
  obtain ⟨preset, checker, checks⟩ := c
  obtain rfl : checker = .standard := hchecker
  unfold ofSetup
  dsimp only
  cases setup.frontend with
  | none => rfl
  | some frontend =>
    dsimp only
    have happend := mapM_glob_append_buildDirectories setup.excludes
    change ((setup.excludes ++ CheckerSettings.buildDirectories).mapM glob >>= _) = _
    rw [happend, List.append_nil]
    cases setup.excludes.mapM glob with
    | error e => rfl
    | ok excludes =>
      let enabled := Setup.enabled { setup with config := ⟨preset, .standard, checks⟩ }
      change ((CheckSet.ofRegistrations enabled).mapError RunError.badChecks >>= _) =
        ((CheckSet.ofRegistrations enabled).mapError RunError.badChecks >>= _).map _
      cases CheckSet.ofRegistrations enabled <;> rfl

theorem files_withBuildGlobs_eq_iff :
    (r.withBuildGlobs c).files t = r.files t ↔
      ∀ files, r.files t = .ok files → ∀ base names file, r.selection.Finds t base names file →
        ¬ r.selection.InBuildDirectory names := by
  simp only [files_eq_ok_iff]
  rw [← Selection.files?_withBuildGlobs_eq_iff]
  have hselection : (r.withBuildGlobs c).selection = r.selection.withBuildGlobs := rfl
  have hroot : r.selection.withBuildGlobs.root = r.selection.root := rfl
  unfold files
  rw [hselection, hroot]
  cases r.selection.withBuildGlobs.files? t <;> cases r.selection.files? t <;> simp

theorem findings_withBuildGlobs (hconfig : r.config = { c with checker.exclude := [] })
    (h : (r.withBuildGlobs c).files t = r.files t) :
    (r.withBuildGlobs c).findings t = r.findings t := by
  obtain ⟨selection, checks, frontend, config, strict⟩ := r
  obtain rfl : config = { c with checker.exclude := [] } := hconfig
  unfold findings
  rw [h]
  rfl

/-- A table for the checker that writes nothing but standard values is added to a
    configuration. What was no configuration is none; else the configuration asks for the
    same checks, and a setup makes a run with it just if it made one before. The new run looks
    at the same files and finds the same in them just if the table writes the patterns of
    files to leave out, or none of the files that the new run lists is in a build directory. -/
theorem findings_of_checker_table {text text' : String} {entries entries' settings : TomlTable}
    (htext : Toml.parse? text = some entries) (htext' : Toml.parse? text' = some entries')
    (hadds : Config.AddsCheckerTable entries entries' settings)
    (hsettings : CheckerSettings.Restates settings) :
    (∀ e, Config.parse text' = .error e ↔ Config.parse text = .error e) ∧
    ∀ c, Config.parse text = .ok c → ∃ c', Config.parse text' = .ok c' ∧
      (∀ only, Checks.ofConfig c' only = Checks.ofConfig c only) ∧
      ∀ (directory : String) (setup : Setup),
        (∀ e, ofSetup directory { setup with config := c' } = .error e ↔
          ofSetup directory { setup with config := c } = .error e) ∧
        ∀ r, ofSetup directory { setup with config := c } = .ok r →
          ∃ r', ofSetup directory { setup with config := c' } = .ok r' ∧
            ∀ t, r'.files t = r.files t ∧ r'.findings t = r.findings t ↔
              CheckerSettings.writesExclude settings = true ∨
                ∀ files, r'.files t = .ok files → ∀ base names file,
                  r'.selection.Finds t base names file → ¬ r'.selection.InBuildDirectory names := by
  obtain ⟨hparse, hstandard⟩ := Config.parse_of_addsCheckerTable htext htext' hadds hsettings
  rw [hparse]
  refine ⟨fun e => ?_, fun c hc => ?_⟩
  · cases Config.parse text <;> simp [Except.map]
  · rw [hc]
    refine ⟨c.withRestated settings, rfl, fun only => rfl, fun directory setup => ?_⟩
    have hchecker := hstandard c hc
    -- with patterns the configuration is the same; without them it has lost those of the standard
    cases hwrites : CheckerSettings.writesExclude settings with
    | true =>
      have hsame : c.withRestated settings = c := by
        rw [Config.withRestated, CheckerSettings.restated_of_writesExclude hwrites, ← hchecker]
      rw [hsame]
      exact ⟨fun e => Iff.rfl, fun r hr => ⟨r, hr, fun t => ⟨fun _ => .inl rfl, fun _ => ⟨rfl, rfl⟩⟩⟩⟩
    | false =>
      have hnew : c.withRestated settings = { c with checker.exclude := [] } := by
        rw [Config.withRestated, CheckerSettings.restated_of_not_writesExclude hwrites, ← hchecker]
      rw [hnew, ofSetup_eq_map_withBuildGlobs hchecker]
      refine ⟨fun e => ?_, fun r hr => ?_⟩
      · cases ofSetup directory { setup with config := { c with checker.exclude := [] } } <;>
          simp [Except.map]
      · obtain ⟨r', hr', rfl⟩ := Except.map_eq_ok_iff.1 hr
        obtain ⟨-, hconfig, -⟩ := ofSetup_eq_ok hr'
        refine ⟨r', hr', fun t => ?_⟩
        simp only [Bool.false_eq_true, false_or]
        rw [← files_withBuildGlobs_eq_iff (c := c)]
        exact ⟨fun h => h.1.symm, fun h => ⟨h.symm, (findings_withBuildGlobs hconfig h).symm⟩⟩

end Run

/-- A selection below a directory, with or without patterns of build directories. -/
def standardSelection (excludes : List Glob) : Selection :=
  { root := "/p", extensions := ["java"], excludes, respectGitignore := true }

theorem exists_ofSetup_standard :
    ∃ r, Run.ofSetup "/" { wordSetup with config := {} } = .ok r ∧ r.strict = false ∧
      r.selection = standardSelection buildGlobs := by
  have hpatterns : Run.Setup.patterns { wordSetup with config := {} } = leavingOutBuilds.patterns := rfl
  refine ⟨_, Run.ofSetup_eq_ok_iff.2 ⟨_, _, _, rfl, hpatterns ▸ mapM_glob_patterns, rfl, rfl⟩, rfl, ?_⟩
  exact congrArg (Selection.mk · _ _ _) (Path.join_of_isAbsolute "/" (by decide))

theorem addsCheckerTable_nil (settings : TomlTable) :
    Config.AddsCheckerTable [] [("checker", .table settings)] settings := by
  refine ⟨rfl, rfl, fun key hkey => ?_⟩
  rw [List.lookup_cons, beq_false_of_ne hkey]

theorem parse?_empty : Toml.parse? "" = some [] := by
  have hvoid : (Toml.parse? "").map List.isEmpty = some true := by decide +kernel
  obtain ⟨entries, hentries, hnil⟩ := Option.map_eq_some_iff.1 hvoid
  rw [hentries, List.isEmpty_iff.1 hnil]

theorem parse_empty : Config.parse "" = .ok {} := by
  rw [Config.parse, parse?_empty]
  rfl

/-- A configuration with nothing but a table for the checker, told from the keys that it writes. -/
theorem exists_parse?_eq_checker {text : String} {keys : List String}
    (h : (Toml.parse? text).map (fun entries => entries.map fun e =>
      (e.1, e.2.entries?.map fun settings => settings.map Prod.fst)) = some [("checker", some keys)]) :
    ∃ settings : TomlTable, Toml.parse? text = some [("checker", .table settings)] ∧
      settings.map Prod.fst = keys := by
  obtain ⟨entries, hentries, hkeys⟩ := Option.map_eq_some_iff.1 h
  obtain ⟨⟨key, v⟩, rest, rfl, hfirst, hrest⟩ := List.map_eq_cons_iff.1 hkeys
  obtain rfl := List.map_eq_nil_iff.1 hrest
  obtain ⟨rfl, hv⟩ := Prod.mk.inj hfirst
  obtain ⟨settings, hsettings, hnames⟩ := Option.map_eq_some_iff.1 hv
  cases v with
  | table _ => exact ⟨settings, by rw [hentries, ← Option.some.inj hsettings], hnames⟩
  | _ => cases hsettings

namespace Run

/-- A table that only writes the patterns of files to leave out makes no difference. -/
theorem findings_of_checker_table_exclude :
    ∃ entries' settings c c' r r', Toml.parse? "" = some [] ∧
      Toml.parse? "[checker]\nexclude = [\"**/target/**\", \"**/build/**\"]\n" = some entries' ∧
      Config.AddsCheckerTable [] entries' settings ∧ CheckerSettings.Restates settings ∧
      Config.parse "" = .ok c ∧ ofSetup "/" { wordSetup with config := c } = .ok r ∧
      ofSetup "/" { wordSetup with config := c' } = .ok r' ∧
      ∀ t, r'.files t = r.files t ∧ r'.findings t = r.findings t := by
  have hkeys : (Toml.parse? "[checker]\nexclude = [\"**/target/**\", \"**/build/**\"]\n").map
      (fun entries => entries.map fun e =>
        (e.1, e.2.entries?.map fun settings => settings.map Prod.fst)) =
          some [("checker", some ["exclude"])] := by decide +kernel
  obtain ⟨settings, htable, hkeys⟩ := exists_parse?_eq_checker hkeys
  obtain ⟨⟨key, v⟩, rest, rfl, rfl, hrest⟩ := List.map_eq_cons_iff.1 hkeys
  obtain rfl := List.map_eq_nil_iff.1 hrest
  have hsettings : CheckerSettings.Restates [("exclude", v)] := by
    have htexts : ((Toml.parse? "[checker]\nexclude = [\"**/target/**\", \"**/build/**\"]\n").bind
        fun entries => ((entries.lookup "checker").bind Toml.entries?).bind fun settings =>
          (settings.lookup "exclude").bind Toml.texts?) =
        some CheckerSettings.standard.exclude := by decide +kernel
    rw [htable] at htexts
    refine ⟨nofun, ?_, nofun, nofun, nofun, nofun⟩
    rintro v ⟨⟩
    exact htexts
  obtain ⟨r, hr, -, -⟩ := exists_ofSetup_standard
  obtain ⟨-, hruns⟩ := findings_of_checker_table parse?_empty htable (addsCheckerTable_nil _) hsettings
  obtain ⟨c', -, -, hsetup⟩ := hruns {} parse_empty
  obtain ⟨r', hr', hiff⟩ := (hsetup "/" wordSetup).2 r hr
  exact ⟨_, _, _, c', r, r', parse?_empty, htable, addsCheckerTable_nil _, hsettings, parse_empty, hr, hr',
    fun t => (hiff t).2 (.inl rfl)⟩

end Run

/-- A tree with one file, which a build has written. -/
def builtTree : FileTree :=
  .ofList [(["p", "target", "A.java"], .file "x".toUTF8)]

theorem rootedAt_builtTree (excludes : List Glob) :
    (standardSelection excludes).RootedAt builtTree ["p"] := by
  have hlocate : builtTree.locate? "/p" = some ["p"] := by decide +kernel
  have hnone : ∀ e ∈ builtTree.filesBelow [], ∀ kind ∈ IgnoreFile.kinds true, ¬ kind <:+ e.1 := by
    decide +kernel
  exact Selection.rootedAt_of_forall_filesBelow hlocate (by decide +kernel) hnone

theorem exists_ofSetup_withoutExclude :
    ∃ r, Run.ofSetup "/" { wordSetup with config := Config.withRestated {} [] } = .ok r ∧
      r.strict = false ∧ r.selection = standardSelection [] := by
  refine ⟨_, Run.ofSetup_eq_ok_iff.2 ⟨_, [], _, rfl, rfl, rfl, rfl⟩, rfl, ?_⟩
  exact congrArg (Selection.mk · _ _ _) (Path.join_of_isAbsolute "/" (by decide))

/-- An empty table makes the run look at a file that it leaves out without the table. -/
theorem Run.findings_ne_of_empty_checker_table :
    ∃ c c' r r', Toml.parse? "" = some [] ∧
      Toml.parse? "[checker]\n" = some [("checker", .table [])] ∧
      Config.AddsCheckerTable [] [("checker", .table [])] [] ∧ CheckerSettings.Restates [] ∧
      Config.parse "" = .ok c ∧ Config.parse "[checker]\n" = .ok c' ∧
      ofSetup "/" { wordSetup with config := c } = .ok r ∧
      ofSetup "/" { wordSetup with config := c' } = .ok r' ∧
      (r.findings builtTree).map (·.filesChecked) = .ok 0 ∧
      (r'.findings builtTree).map (·.filesChecked) = .ok 1 := by
  have htable : Toml.parse? "[checker]\n" = some [("checker", .table [])] := by
    have hkeys : (Toml.parse? "[checker]\n").map (fun entries => entries.map fun e =>
        (e.1, e.2.entries?.map fun settings => settings.map Prod.fst)) =
          some [("checker", some [])] := by decide +kernel
    obtain ⟨settings, hparse, hnames⟩ := exists_parse?_eq_checker hkeys
    rw [hparse, List.map_eq_nil_iff.1 hnames]
  have hsettings : CheckerSettings.Restates [] := ⟨nofun, nofun, nofun, nofun, nofun, nofun⟩
  have hparse : Config.parse "[checker]\n" = .ok (Config.withRestated {} []) := by
    rw [(Config.parse_of_addsCheckerTable parse?_empty htable (addsCheckerTable_nil _) hsettings).1, parse_empty]
    rfl
  obtain ⟨r, hr, hstrict, hselection⟩ := exists_ofSetup_standard
  obtain ⟨r', hr', hstrict', hselection'⟩ := exists_ofSetup_withoutExclude
  have hrooted := rootedAt_builtTree buildGlobs
  have hrooted' := rootedAt_builtTree []
  rw [← hselection] at hrooted
  rw [← hselection'] at hrooted'
  have hcount := findings_of_lenient hstrict (files_eq_ok_iff.2 hrooted.files?_eq)
  have hcount' := findings_of_lenient hstrict' (files_eq_ok_iff.2 hrooted'.files?_eq)
  rw [hselection] at hcount
  rw [hselection'] at hcount'
  refine ⟨_, _, r, r', parse?_empty, htable, addsCheckerTable_nil _, hsettings, parse_empty, hparse, hr, hr', ?_, ?_⟩
  · rw [hcount]
    exact congrArg Except.ok (by decide +kernel : List.length _ = 0)
  · rw [hcount']
    exact congrArg Except.ok (by decide +kernel : List.length _ = 1)

end JavaLint
