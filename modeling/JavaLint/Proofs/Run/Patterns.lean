import JavaLint.Proofs.Files.Patterns
import JavaLint.Proofs.Run.Findings
/-!
# Runs with other patterns

More patterns for files to leave out make a run look at fewer files, and have no other part
in what it finds. It does not matter how often a pattern is given, in which order, and
whether by the setup or by its configuration.

## Main definitions

- `Run.Setup.withPatterns`, `Run.withPatterns` — other patterns
- `Run.attributed` — the violations of a run, each with the file that adds it

## Main statements

- `Run.exists_run_of_ofSetup_withPatterns` — runs with different patterns differ in them only
- `Run.sort_joined_of_sublist` — what is found in some of the files of a run
- `Run.findings_of_more_patterns` — the findings with the patterns of two runs
-/

namespace JavaLint

theorem List.filter_flatMap_of_forall {α β : Type} {p : β → Bool} {q : α → Bool} {g : α → List β}
    {l : List α} (h : ∀ a ∈ l, ∀ b ∈ g a, p b = q a) :
    (l.flatMap g).filter p = (l.filter q).flatMap g := by
  induction l with
  | nil => rfl
  | cons a l ih =>
    obtain ⟨ha, hl⟩ := List.forall_mem_cons.1 h
    rw [List.flatMap_cons, List.filter_append, ih hl]
    cases hq : q a with
    | true =>
      rw [List.filter_eq_self.2 fun b hb => (ha b hb).trans hq, List.filter_cons_of_pos hq,
        List.flatMap_cons]
    | false =>
      have hnone : (g a).filter p = [] :=
        List.filter_eq_nil_iff.2 fun b hb => by simp [ha b hb, hq]
      rw [hnone, List.filter_cons_of_neg (by simp [hq]), List.nil_append]

namespace Run

variable {directory : String} {setup : Setup} {r r' r₁ r₂ : Run} {t : FileTree}
  {files files' : List SourceFile} {gs gs' gs₁ gs₂ : List Glob}
  {excludes configured excludes₁ configured₁ excludes₂ configured₂ : List String}

/-! ## Other patterns -/

/-- A setup with other patterns, of its own and of its configuration. -/
def Setup.withPatterns (setup : Setup) (excludes configured : List String) : Setup :=
  { setup with excludes, config.checker.exclude := configured }

/-- A run with other patterns. -/
def withPatterns (r : Run) (gs : List Glob) (configured : List String) : Run :=
  { r with selection := r.selection.withExcludes gs, config.checker.exclude := configured }

/-- Where a setup makes a run, it makes one with any other patterns that are well-formed, and
    these runs differ in their patterns only. -/
theorem exists_run_of_ofSetup_withPatterns
    (hr : ofSetup directory (setup.withPatterns excludes configured) = .ok r) :
    ∃ r₀ : Run, ∀ {excludes configured r},
      ofSetup directory (setup.withPatterns excludes configured) = .ok r ↔
        ∃ gs, (excludes ++ configured).mapM glob = .ok gs ∧ r = r₀.withPatterns gs configured := by
  obtain ⟨frontend, gs₀, checks, hfrontend, -, hchecks, rfl⟩ := ofSetup_eq_ok_iff.1 hr
  refine ⟨setup.assemble directory frontend [] checks, fun {excludes configured r} => ⟨?_, ?_⟩⟩
  · intro hr
    obtain ⟨frontend', gs, checks', hfrontend', hgs, hchecks', rfl⟩ := ofSetup_eq_ok_iff.1 hr
    obtain rfl : frontend = frontend' := Option.some.inj (hfrontend.symm.trans hfrontend')
    obtain rfl : checks = checks' := Except.ok.inj (hchecks.symm.trans hchecks')
    exact ⟨gs, hgs, rfl⟩
  · rintro ⟨gs, hgs, rfl⟩
    exact ofSetup_eq_ok_iff.2 ⟨frontend, gs, checks, hfrontend, hgs, hchecks, rfl⟩

/-- Of the same files, runs with different patterns find the same. -/
theorem findings_withPatterns_congr
    (h : (r.withPatterns gs configured).files t = (r.withPatterns gs' configured').files t) :
    (r.withPatterns gs configured).findings t = (r.withPatterns gs' configured').findings t := by
  unfold findings
  rw [h]
  rfl

theorem files_withPatterns_eq_ok_iff : (r.withPatterns gs configured).files t = .ok files ↔
    (r.selection.withExcludes gs).files? t = some files :=
  files_eq_ok_iff

/-- Neither the order of patterns nor their number matters, nor where they come from. -/
theorem files_withPatterns_congr (h : ∀ g, g ∈ gs ↔ g ∈ gs') (r : Run) (t : FileTree) :
    (r.withPatterns gs configured).files t = (r.withPatterns gs' configured').files t := by
  simp only [Run.files, withPatterns, Selection.files?_withExcludes_congr h,
    Selection.root_withExcludes]

/-- Whether the files of a run can be listed does not depend on patterns. -/
theorem files_withPatterns_cases (r : Run) (t : FileTree) :
    (∃ e, ∀ gs configured, (r.withPatterns gs configured).files t = .error e) ∨
      ∀ gs, ∃ files, ∀ configured, (r.withPatterns gs configured).files t = .ok files := by
  rcases r.selection.files?_withExcludes_cases t with hnone | ⟨base, hall⟩
  · refine .inl ⟨.noFiles r.selection.root, fun gs configured => ?_⟩
    simp only [Run.files, withPatterns, hnone, Selection.root_withExcludes]
  · exact .inr fun gs => ⟨_, fun configured => files_withPatterns_eq_ok_iff.2 (hall gs)⟩

/-! ## Violations and the files that add them -/

/-- The violations of a run that goes on at files it cannot check, each with the file that
    adds it, in the order of their places. -/
def attributed (r : Run) (files : List SourceFile) : List (SourceFile × Violation) :=
  (files.flatMap fun file => (r.violations file).map (Prod.mk file)).mergeSort fun a b =>
    (a.2.comparePlace b.2).isLE

theorem mem_attributed {file : SourceFile} {v : Violation} :
    (file, v) ∈ r.attributed files ↔ file ∈ files ∧ v ∈ r.violations file := by
  simp [attributed]

theorem map_snd_attributed (files : List SourceFile) :
    (r.attributed files).map Prod.snd = (r.joined files).sort.violations := by
  unfold attributed Findings.sort joined
  rw [List.map_mergeSort (s := fun a b : Violation => (a.comparePlace b).isLE) fun _ _ _ _ => rfl,
    List.map_flatMap]
  simp [Function.comp_def]

section

variable (hsub : files.Sublist files') (hnodup : (files'.map SourceFile.path).Nodup)

include hsub hnodup

/-- Of what a list of files adds, some of these files add what is told by their paths. -/
theorem filter_flatMap_of_sublist {β : Type} {g : SourceFile → List β} {p : β → Bool}
    (h : ∀ file ∈ files', ∀ b ∈ g file, p b = decide (file.path ∈ files.map SourceFile.path)) :
    (files'.flatMap g).filter p = files.flatMap g := by
  rw [List.filter_flatMap_of_forall h, List.filter_mem_map_of_sublist hsub hnodup]

theorem attributed_of_sublist : r.attributed files =
    (r.attributed files').filter fun a => a.1.path ∈ files.map SourceFile.path := by
  unfold attributed
  rw [filter_mergeSort (fun a b : SourceFile × Violation => (a.2.comparePlace b.2).isLE)
    (fun _ _ _ => Std.TransCmp.isLE_trans) fun _ _ => Violation.comparePlace_total _ _,
    filter_flatMap_of_sublist hsub hnodup fun file _ a ha => ?_]
  obtain ⟨v, -, rfl⟩ := List.mem_map.1 ha
  rfl

/-- Where each file adds violations under its path, some of the files find what is reported
    under their paths. -/
theorem sort_joined_of_sublist
    (hpath : ∀ file : SourceFile, ∀ v ∈ r.violations file, v.location.file = file.path) :
    (r.joined files).sort.violations = (r.joined files').sort.violations.filter fun v =>
      v.location.file ∈ files.map SourceFile.path := by
  unfold Findings.sort joined
  dsimp only
  rw [filter_mergeSort (fun a b : Violation => (a.comparePlace b).isLE)
    (fun _ _ _ => Std.TransCmp.isLE_trans) Violation.comparePlace_total,
    filter_flatMap_of_sublist hsub hnodup fun file _ v hv => by rw [hpath file v hv]]

end

/-! ## The patterns of two runs -/

/-- The files of a run are those that two other runs share, in the order of the first one. -/
structure SharesFiles (r r₁ r₂ : Run) (t : FileTree) (files files₁ : List SourceFile) : Prop where
  files_eq : r.files t = .ok files
  files_eq_of_first : r₁.files t = .ok files₁
  sublist : files.Sublist files₁
  mem_iff : ∃ files₂, r₂.files t = .ok files₂ ∧ ∀ file, file ∈ files ↔ file ∈ files₁ ∧ file ∈ files₂

/-- Of the findings `f₁` of a run in a list of files, `f` are those that some of the files add. -/
structure KeepsFindings (r₁ : Run) (files files₁ : List SourceFile) (f f₁ : Findings) : Prop where
  filesChecked_eq : f.filesChecked = files.length
  violations_eq_of_first : f₁.violations = (r₁.attributed files₁).map Prod.snd
  violations_eq : f.violations = ((r₁.attributed files₁).filter fun a =>
    a.1.path ∈ files.map SourceFile.path).map Prod.snd

/-- With all patterns of two runs, a run looks at the files that both of them look at. -/
theorem sharesFiles_withPatterns (h : ∀ g, g ∈ gs ↔ g ∈ gs₁ ∨ g ∈ gs₂) (r : Run) (t : FileTree) :
    (∃ e, ∀ gs configured, (r.withPatterns gs configured).files t = .error e) ∨
      ∃ files files₁, (files₁.map SourceFile.path).Nodup ∧
        ∀ configured configured₁ configured₂, (r.withPatterns gs configured).SharesFiles
          (r.withPatterns gs₁ configured₁) (r.withPatterns gs₂ configured₂) t files files₁ := by
  refine (r.files_withPatterns_cases t).imp_right fun hall => ?_
  obtain ⟨files, hfiles⟩ := hall gs
  obtain ⟨files₁, hfiles₁⟩ := hall gs₁
  obtain ⟨files₂, hfiles₂⟩ := hall gs₂
  have hlisted := files_withPatterns_eq_ok_iff.1 (hfiles [])
  have hlisted₁ := files_withPatterns_eq_ok_iff.1 (hfiles₁ [])
  have hlisted₂ := files_withPatterns_eq_ok_iff.1 (hfiles₂ [])
  obtain ⟨hsub, hmem⟩ := Selection.meets_of_files?_withExcludes h hlisted hlisted₁ hlisted₂
  refine ⟨files, files₁, Selection.nodup_path_of_files? hlisted₁, ?_⟩
  intro configured configured₁ configured₂
  exact ⟨hfiles configured, hfiles₁ configured₁, hsub, files₂, hfiles₂ configured₂, hmem⟩

/-- A run that goes on at files it cannot check keeps the findings in the files that it shares. -/
theorem SharesFiles.keepsFindings (h : (r.withPatterns gs configured).SharesFiles
      (r.withPatterns gs₁ configured₁) r₂ t files files')
    (hnodup : (files'.map SourceFile.path).Nodup) (hstrict : r.strict = false) :
    ∃ f f₁, (r.withPatterns gs configured).findings t = .ok f ∧
      (r.withPatterns gs₁ configured₁).findings t = .ok f₁ ∧
      (r.withPatterns gs₁ configured₁).KeepsFindings files files' f f₁ ∧
      ((∀ file : SourceFile, ∀ v ∈ r.violations file, v.location.file = file.path) →
        f.violations = f₁.violations.filter fun v =>
          v.location.file ∈ files.map SourceFile.path) := by
  refine ⟨_, _, findings_of_lenient hstrict h.files_eq,
    findings_of_lenient hstrict h.files_eq_of_first, ⟨rfl, ?_, ?_⟩, fun hpath => ?_⟩
  · exact (map_snd_attributed files').symm
  · rw [← attributed_of_sublist h.sublist hnodup]
    exact (map_snd_attributed files).symm
  · exact sort_joined_of_sublist h.sublist hnodup hpath

/-- Texts for well-formed patterns only, those of two lists, make the patterns of both. -/
theorem exists_mapM_glob_of_union {texts texts₁ texts₂ : List String}
    (hgs₁ : texts₁.mapM glob = .ok gs₁) (hgs₂ : texts₂.mapM glob = .ok gs₂)
    (h : ∀ text, text ∈ texts ↔ text ∈ texts₁ ∨ text ∈ texts₂) :
    ∃ gs, texts.mapM glob = .ok gs ∧ ∀ g, g ∈ gs ↔ g ∈ gs₁ ∨ g ∈ gs₂ := by
  have hall₁ := List.exists_mapM_eq_ok_iff.1 ⟨gs₁, hgs₁⟩
  have hall₂ := List.exists_mapM_eq_ok_iff.1 ⟨gs₂, hgs₂⟩
  obtain ⟨gs, hgs⟩ := List.exists_mapM_eq_ok_iff.2 fun text htext =>
    ((h text).1 htext).elim (hall₁ text) (hall₂ text)
  refine ⟨gs, hgs, fun g => ?_⟩
  simp only [mem_of_mapM_glob hgs, mem_of_mapM_glob hgs₁, mem_of_mapM_glob hgs₂, h, or_and_right,
    exists_or]

/-- With the patterns of two runs, a run looks at the files that both of them look at. If it
    goes on at files that it cannot check, it finds what the first run finds in those files,
    which is what is reported under their paths if the checks do so. The same patterns in
    another arrangement make a run that looks at the same files and finds the same. -/
theorem findings_of_more_patterns
    (hr₁ : ofSetup directory (setup.withPatterns excludes₁ configured₁) = .ok r₁)
    (hr₂ : ofSetup directory (setup.withPatterns excludes₂ configured₂) = .ok r₂) :
    (∀ excludes configured, (∀ text, text ∈ excludes ++ configured ↔
        text ∈ excludes₁ ++ configured₁ ∨ text ∈ excludes₂ ++ configured₂) →
      ∃ r, ofSetup directory (setup.withPatterns excludes configured) = .ok r ∧ ∀ t,
        (∃ e, r.files t = .error e ∧ r₁.files t = .error e ∧ r₂.files t = .error e) ∨
        ∃ files files₁, r.SharesFiles r₁ r₂ t files files₁ ∧
          (setup.failOnParseError.getD setup.config.checker.failOnParseError = false →
            ∃ f f₁, r.findings t = .ok f ∧ r₁.findings t = .ok f₁ ∧
              r₁.KeepsFindings files files₁ f f₁ ∧
              ((∀ reg ∈ setup.registrations, reg.check.ReportsUnderPath) →
                f.violations = f₁.violations.filter fun v =>
                  v.location.file ∈ files.map SourceFile.path))) ∧
    ∀ excludes configured, (∀ text, text ∈ excludes ++ configured ↔
        text ∈ excludes₁ ++ configured₁) →
      ∃ r, ofSetup directory (setup.withPatterns excludes configured) = .ok r ∧ ∀ t,
        r.files t = r₁.files t ∧ r.findings t = r₁.findings t := by
  obtain ⟨r₀, hruns⟩ := exists_run_of_ofSetup_withPatterns hr₁
  obtain ⟨gs₁, hgs₁, rfl⟩ := hruns.1 hr₁
  obtain ⟨gs₂, hgs₂, rfl⟩ := hruns.1 hr₂
  have hstrict := strict_of_ofSetup hr₁
  refine ⟨fun excludes configured hunion => ?_, fun excludes configured hsame => ?_⟩
  · obtain ⟨gs, hgs, hmem⟩ := exists_mapM_glob_of_union hgs₁ hgs₂ hunion
    refine ⟨_, hruns.2 ⟨gs, hgs, rfl⟩, fun t => ?_⟩
    obtain ⟨e, he⟩ | ⟨files, files₁, hnodup, hshares⟩ := sharesFiles_withPatterns hmem r₀ t
    · exact .inl ⟨e, he .., he .., he ..⟩
    · have hshares := hshares configured configured₁ configured₂
      refine .inr ⟨files, files₁, hshares, fun hlenient => ?_⟩
      obtain ⟨f, f₁, hf, hf₁, hkeeps, hpaths⟩ := hshares.keepsFindings hnodup (hstrict.trans hlenient)
      refine ⟨f, f₁, hf, hf₁, hkeeps, fun hchecks => hpaths fun file => ?_⟩
      exact ((r₀.withPatterns gs₁ configured₁).yields_violations file).location_file_eq hr₁ hchecks
  · obtain ⟨gs, hgs, hmem⟩ := exists_mapM_glob_of_union hgs₁ hgs₁ fun text =>
      (hsame text).trans (or_self_iff).symm
    refine ⟨_, hruns.2 ⟨gs, hgs, rfl⟩, fun t => ?_⟩
    have hfiles : (r₀.withPatterns gs configured).files t =
        (r₀.withPatterns gs₁ configured₁).files t :=
      files_withPatterns_congr (fun g => (hmem g).trans or_self_iff) r₀ t
    exact ⟨hfiles, findings_withPatterns_congr hfiles⟩

/-- The pattern for a name without special characters. -/
def nameGlob (name : String) : Glob :=
  ⟨name.toList.map .literal⟩

theorem glob_words :
    glob "b.word" = .ok (nameGlob "b.word") ∧ glob "c.word" = .ok (nameGlob "c.word") :=
  ⟨glob_eq_ok_iff.2 (by decide +kernel), glob_eq_ok_iff.2 (by decide +kernel)⟩

/-- What decides about files below `/p` with the language of one word. -/
def wordSelection (gs : List Glob) : Selection :=
  { root := "/p", extensions := ["word"], excludes := gs, respectGitignore := true }

theorem exists_ofSetup_words (excludes configured : List String)
    (hglobs : (excludes ++ configured).mapM glob = .ok gs) :
    ∃ r, ofSetup "/" (wordSetup.withPatterns excludes configured) = .ok r ∧
      r.selection = wordSelection gs := by
  have hroot : Path.isAbsolute "/p" = true := by decide
  exact ⟨_, ofSetup_eq_ok_iff.2 ⟨_, gs, _, rfl, hglobs, rfl, rfl⟩,
    congrArg (Selection.mk · _ _ _) (Path.join_of_isAbsolute "/" hroot)⟩

/-- Two of three files are left out, one by a pattern of the setup and one by a pattern of its
    configuration. -/
theorem findings_of_more_patterns_words :
    ∃ r r₁ r₂, ofSetup "/" (wordSetup.withPatterns ["b.word"] []) = .ok r₁ ∧
      ofSetup "/" (wordSetup.withPatterns [] ["c.word"]) = .ok r₂ ∧
      ofSetup "/" (wordSetup.withPatterns ["c.word", "c.word"] ["b.word"]) = .ok r ∧
      ∃ files files₁ f f₁, r.SharesFiles r₁ r₂ (wordTree "x".toUTF8) files files₁ ∧
        files₁ = [⟨"a.word", "x".toUTF8⟩, ⟨"c.word", "!".toUTF8⟩] ∧
        files = [⟨"a.word", "x".toUTF8⟩] ∧
        r.findings (wordTree "x".toUTF8) = .ok f ∧ r₁.findings (wordTree "x".toUTF8) = .ok f₁ ∧
        f.violations = f₁.violations.filter fun v => v.location.file ∈ ["a.word"] := by
  obtain ⟨hb, hc⟩ := glob_words
  have hglobs₁ : ["b.word"].mapM glob = .ok [nameGlob "b.word"] := by
    rw [List.mapM_eq_ok_iff, List.map_singleton, hb, List.map_singleton]
  have hglobs₂ : ["c.word"].mapM glob = .ok [nameGlob "c.word"] := by
    rw [List.mapM_eq_ok_iff, List.map_singleton, hc, List.map_singleton]
  have hglobs : ["c.word", "c.word", "b.word"].mapM glob =
      .ok [nameGlob "c.word", nameGlob "c.word", nameGlob "b.word"] := by
    simp only [List.mapM_eq_ok_iff, List.map_cons, List.map_nil, hb, hc]
  obtain ⟨r₁, hr₁, hselection₁⟩ := exists_ofSetup_words ["b.word"] [] hglobs₁
  obtain ⟨r₂, hr₂, -⟩ := exists_ofSetup_words [] ["c.word"] hglobs₂
  obtain ⟨r, hr, hselection⟩ := exists_ofSetup_words ["c.word", "c.word"] ["b.word"] hglobs
  have hlocate : (wordTree "x".toUTF8).locate? "/p" = some ["p"] := by decide +kernel
  have hfiles₁ : r₁.files (wordTree "x".toUTF8) =
      .ok [⟨"a.word", "x".toUTF8⟩, ⟨"c.word", "!".toUTF8⟩] := by
    rw [files_eq_ok_iff, hselection₁]
    refine Selection.files?_eq_some_iff.2 ⟨["p"], hlocate, by decide +kernel, ?_⟩
    rw [(by decide +kernel : (wordSelection [nameGlob "b.word"]).found (wordTree "x".toUTF8) ["p"] =
      [(["a.word"], "x".toUTF8), (["c.word"], "!".toUTF8)])]
    rfl
  have hfiles : r.files (wordTree "x".toUTF8) = .ok [⟨"a.word", "x".toUTF8⟩] := by
    rw [files_eq_ok_iff, hselection]
    refine Selection.files?_eq_some_iff.2 ⟨["p"], hlocate, by decide +kernel, ?_⟩
    rw [(by decide +kernel : (wordSelection [nameGlob "c.word", nameGlob "c.word",
      nameGlob "b.word"]).found (wordTree "x".toUTF8) ["p"] = [(["a.word"], "x".toUTF8)])]
    rfl
  have hchecks : ∀ reg ∈ wordSetup.registrations, reg.check.ReportsUnderPath := by
    rintro reg (_ | ⟨_, ⟨⟩⟩)
    exact ParameterName.reportsUnderPath_toCheck _
  have hunion : ∀ text, text ∈ ["c.word", "c.word"] ++ ["b.word"] ↔
      text ∈ ["b.word"] ++ [] ∨ text ∈ [] ++ ["c.word"] := by
    simp [or_comm]
  obtain ⟨r', hr', hall⟩ := (findings_of_more_patterns hr₁ hr₂).1 _ _ hunion
  obtain rfl : r = r' := Except.ok.inj (hr.symm.trans hr')
  rcases hall (wordTree "x".toUTF8) with ⟨e, he, -⟩ | ⟨files, files₁, hshares, hfindings⟩
  · exact nomatch hfiles.symm.trans he
  obtain rfl := Except.ok.inj (hfiles.symm.trans hshares.files_eq)
  obtain rfl := Except.ok.inj (hfiles₁.symm.trans hshares.files_eq_of_first)
  obtain ⟨f, f₁, hf, hf₁, -, hfilter⟩ := hfindings rfl
  exact ⟨r, r₁, r₂, hr₁, hr₂, hr, _, _, f, f₁, hshares, rfl, rfl, hf, hf₁, hfilter hchecks⟩

end Run

end JavaLint
