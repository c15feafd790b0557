import JavaLint.CommandLine.ConfigFile
import JavaLint.Proofs.Files.Walk
/-!
# The nearest configuration file

The configuration for a target is that of the nearest directory at or above it
that holds one. The search for it goes back along the path of the target as it
is written. This file says when that comes to the same.

## Main definitions

- `Environment.StartsIn` — the directory that a program is started in
- `Environment.nearestFile?` — the nearest configuration file at or above a target
- `Environment.passed` — the directories that the search looks into
- `ConfigOrigin.IsNearest` — a configuration is the one for a target

## Main statements

- `ConfigOrigin.map_locate?_projectFile?` — the search looks into the directories that the path
  of the target passes
- `ConfigOrigin.find_isNearest_iff` — when the search finds the configuration for a target
-/

namespace JavaLint

open JavaLint.Path (Component)

/-- A place and the places above it, up to the top. -/
def Place.upward (place : Place) : List Place :=
  place.inits.reverse

/-- The configuration file of a project that a directory holds. -/
def FileTree.projectFileAt? (t : FileTree) (directory : Place) : Option Place :=
  (ConfigOrigin.projectNames.map fun name => directory ++ [name]).find? t.isFile

namespace Environment

/-- A program is started in the directory at a place of a tree that has a directory at the top. -/
structure StartsIn (e : Environment) (cwd : Place) : Prop where
  isAbsolute : Path.isAbsolute e.directory = true
  opensAt : e.files.OpensAt e.directory cwd
  isFile_top : e.files.isFile [] = false

/-- The directory of a target: its own place, or the one above that of a file. -/
def directoryOf? (e : Environment) (target : String) : Option Place :=
  (e.files.locate? (e.absolute target)).map fun place =>
    if e.files.isFile place then place.dropLast else place

/-- The configuration file of the nearest directory at or above that of a target
    that holds one. -/
def nearestFile? (e : Environment) (target : String) : Option Place :=
  (e.directoryOf? target).bind fun directory => directory.upward.findSome? e.files.projectFileAt?

/-- The steps of the path to the directory of a target. -/
def stepsTo (e : Environment) (target : String) : List Component :=
  if e.isFile target then (Path.components target).dropLast else Path.components target

/-- The directories that the path of a target passes, from the target back to
    where the path starts. -/
def passed (e : Environment) (cwd : Place) (target : String) : List Place :=
  (Path.stepsAbove (e.stepsTo target)).map fun steps => steps.foldl Place.move cwd

end Environment

namespace ConfigOrigin

/-- The configuration for a target without a named file: the nearest file of a
    project at or above it, else the file of the user, else the standard. -/
def IsNearest (e : Environment) (target : String) (s : ConfigOrigin) : Prop :=
  match e.nearestFile? target with
  | some place => ∃ path, s = .project path ∧ e.files.locate? (e.absolute path) = some place
  | none => s = match userFile? e with
    | some path => .user path
    | none => .standard

end ConfigOrigin

/-! ## The directory of a target -/

namespace Environment

variable {e : Environment} {cwd place directory : Place} {target path : String}
  {steps front : List Component}

theorem StartsIn.ne_empty (h : e.StartsIn cwd) : e.directory ≠ "" := by
  intro hempty
  have habsolute := h.isAbsolute
  rw [hempty] at habsolute
  cases habsolute

theorem StartsIn.not_isFile (h : e.StartsIn cwd) (hplace : e.files.isDirectory place = true) :
    e.files.isFile place = false := by
  by_cases hne : place = []
  · rw [hne]
    exact h.isFile_top
  · rw [← Bool.not_eq_true]
    intro hfile
    rw [FileTree.not_isDirectory_of_isFile hfile hne] at hplace
    cases hplace

/-- The steps of a target lead to it. -/
theorem StartsIn.foldlM_advance? (h : e.StartsIn cwd)
    (hplace : e.files.locate? (e.absolute target) = some place) :
    (Path.components target).foldlM e.files.advance? cwd = some place :=
  h.opensAt.foldlM_advance?_of_join h.ne_empty (Option.filter_eq_some_iff.1 hplace).1

theorem isFile_eq_of_locate? (hplace : e.files.locate? (e.absolute target) = some place) :
    e.isFile target = e.files.isFile place := by
  rw [isFile, FileTree.isFileAt, hplace, Option.any_some]

/-- The last step to a file is its name. -/
theorem StartsIn.exists_concat_name (h : e.StartsIn cwd)
    (hwalk : steps.foldlM e.files.advance? cwd = some place) (hfile : e.files.isFile place = true) :
    ∃ front name directory, steps = front ++ [.name name] ∧ place = directory ++ [name] ∧
      front.foldlM e.files.advance? cwd = some directory := by
  have hnot : ∀ {p : Place}, e.files.isDirectory p = true → place ≠ p := by
    rintro p hp rfl
    rw [h.not_isFile hp] at hfile
    cases hfile
  rcases List.eq_nil_or_concat steps with rfl | ⟨front, step, rfl⟩
  · exact absurd (Option.some.inj hwalk).symm (hnot h.opensAt.isDirectory)
  · rw [List.concat_eq_append] at hwalk ⊢
    obtain ⟨q, hq, hdirectory, rfl⟩ := FileTree.foldlM_advance?_concat.1 hwalk
    cases step with
    | root => exact absurd rfl (hnot rfl)
    | current => exact absurd rfl (hnot hdirectory)
    | parent => exact absurd rfl (hnot (FileTree.isDirectory_dropLast hdirectory))
    | name name => exact ⟨front, name, q, rfl, rfl, hq⟩

/-- The steps to the directory of a target lead there, and the search starts
    with a path that has these steps. -/
theorem StartsIn.exists_start (h : e.StartsIn cwd) (hhas : e.has target = true) :
    ∃ directory start, e.directoryOf? target = some directory ∧
      (e.stepsTo target).foldlM e.files.advance? cwd = some directory ∧
      ConfigOrigin.start? e target = some start ∧ Path.components start = e.stepsTo target := by
  obtain ⟨place, hplace⟩ := Option.isSome_iff_exists.1 hhas
  have hwalk := h.foldlM_advance? hplace
  unfold directoryOf? stepsTo ConfigOrigin.start?
  rw [hplace, isFile_eq_of_locate? hplace, Option.map_some]
  cases hfile : e.files.isFile place with
  | false => exact ⟨place, target, rfl, hwalk, rfl, rfl⟩
  | true =>
    obtain ⟨front, name, directory, hsteps, rfl, hfront⟩ := h.exists_concat_name hwalk hfile
    rcases Path.parent?_cases target with ⟨-, hnone⟩ | ⟨parent, step, hparent, -, hcomponents⟩
    · rw [hsteps] at hnone
      rcases hnone with hnone | hnone
      · exact absurd hnone (List.concat_ne_nil _ _)
      · have hlast := congrArg List.getLast? hnone
        rw [List.getLast?_concat] at hlast
        cases hlast
    · obtain ⟨rfl, -⟩ := List.append_inj' (hsteps.symm.trans hcomponents) rfl
      refine ⟨directory, parent, ?_, ?_, hparent, ?_⟩
      · rw [if_pos rfl, List.dropLast_concat]
      · rw [if_pos rfl, hsteps, List.dropLast_concat, hfront]
      · rw [if_pos rfl, hsteps, List.dropLast_concat]

end Environment

/-! ## The search -/

namespace ConfigOrigin

variable {e : Environment} {cwd place directory : Place} {target path : String}

theorem isFileName_of_mem_projectNames {name : String} (h : name ∈ projectNames) :
    isFileName name = true := by
  have hall : ∀ name ∈ projectNames, isFileName name = true := by decide
  exact hall name h

/-- What the search finds in a directory on its way is the file that the directory holds. -/
theorem map_locate?_find? (h : e.StartsIn cwd)
    (hwalk : (Path.components path).foldlM e.files.advance? cwd = some directory) :
    ((projectNames.map (Path.join path)).find? e.isFile).map
        (fun file => e.files.locate? (e.absolute file)) =
      (e.files.projectFileAt? directory).map some := by
  have hsame : projectNames.find? (e.isFile ∘ Path.join path) =
      projectNames.find? (e.files.isFile ∘ fun name => directory ++ [name]) := by
    rw [← List.head?_filter, ← List.head?_filter]
    refine congrArg List.head? (List.filter_congr fun name hname => ?_)
    rw [Function.comp_apply, Environment.isFile, Environment.absolute,
      h.opensAt.isFileAt_join_name h.ne_empty (isFileName_of_mem_projectNames hname) hwalk]
    rfl
  unfold FileTree.projectFileAt?
  rw [List.find?_map, List.find?_map, Option.map_map, Option.map_map, hsame]
  cases hname : projectNames.find? (e.files.isFile ∘ fun name => directory ++ [name]) with
  | none => rfl
  | some name =>
    have hfile : (e.files.isFile ∘ fun name => directory ++ [name]) name = true :=
      List.find?_some hname
    have hlocate := h.opensAt.locate?_join_name h.ne_empty
      (isFileName_of_mem_projectNames (List.mem_of_find?_eq_some hname)) hwalk hfile
    rw [Option.map_some, Option.map_some, Function.comp_apply, Function.comp_apply,
      Environment.absolute, hlocate]

/-- The search looks into the directories that the path of the target passes. -/
theorem map_locate?_projectFile? (h : e.StartsIn cwd) (hhas : e.has target = true) :
    (projectFile? e target).map (fun file => e.files.locate? (e.absolute file)) =
      ((e.passed cwd target).findSome? e.files.projectFileAt?).map some := by
  obtain ⟨directory, start, -, hwalk, hstart, hsteps⟩ := h.exists_start hhas
  have hpassed : ∀ path ∈ Path.ancestors start,
      (Path.components path).foldlM e.files.advance? cwd =
        some ((Path.components path).foldl Place.move cwd) := by
    intro path hpath
    have hmem := List.mem_map_of_mem (f := Path.components) hpath
    rw [Path.map_components_ancestors, hsteps] at hmem
    obtain ⟨rest, hrest⟩ := Path.isPrefix_of_mem_stepsAbove hmem
    rw [← hrest, List.foldlM_append] at hwalk
    obtain ⟨p, hp, -⟩ := Option.bind_eq_some_iff.1 hwalk
    rw [hp, FileTree.eq_foldl_move hp]
  unfold projectFile? Environment.passed
  rw [hstart, Option.bind_some, List.map_findSome?, List.map_findSome?, ← hsteps,
    ← Path.map_components_ancestors, List.map_map, List.findSome?_map, ← List.head?_filterMap,
    ← List.head?_filterMap]
  refine congrArg List.head? (List.filterMap_congr fun path hpath => ?_)
  exact map_locate?_find? h (hpassed path hpath)

/-- The search finds the right configuration if the directories that the path
    passes show the nearest file, or show none where there is none. -/
theorem find_isNearest_iff_passed (h : e.StartsIn cwd) (hhas : e.has target = true) :
    (find e target none).IsNearest e target ↔
      (e.passed cwd target).findSome? e.files.projectFileAt? = e.nearestFile? target := by
  have hsearch := map_locate?_projectFile? h hhas
  unfold IsNearest find
  cases hfile : projectFile? e target with
  | some path =>
    rw [hfile, Option.map_some] at hsearch
    obtain ⟨place, hplace, hpath⟩ := Option.map_eq_some_iff.1 hsearch.symm
    rw [hplace]
    cases e.nearestFile? target with
    | none =>
      refine iff_of_false ?_ nofun
      dsimp only
      split <;> nofun
    | some nearest =>
      dsimp only
      rw [Option.some.injEq]
      constructor
      · rintro ⟨_, ⟨⟩, hnearest⟩
        exact Option.some.inj (hpath.trans hnearest)
      · rintro rfl
        exact ⟨path, rfl, hpath.symm⟩
  | none =>
    rw [hfile, Option.map_none, eq_comm, Option.map_eq_none_iff] at hsearch
    rw [hsearch]
    cases e.nearestFile? target with
    | none =>
      refine iff_of_true ?_ rfl
      dsimp only
      cases userFile? e <;> rfl
    | some nearest =>
      refine iff_of_false ?_ nofun
      dsimp only
      cases userFile? e <;> nofun

end ConfigOrigin

/-! ## Paths without steps up -/

namespace Place

variable {place above : Place}

theorem upward_concat (place : Place) (name : String) :
    (place ++ [name]).upward = (place ++ [name]) :: place.upward :=
  Path.inits_concat place name

/-- Up from a place below another one, one comes to the other one. -/
theorem upward_append (place names : Place) :
    (place ++ names).upward = names.upward.map (place ++ ·) ++ place.upward.tail := by
  induction names using List.reverseRecOn with
  | nil =>
    rw [List.append_nil]
    rcases List.eq_nil_or_concat place with rfl | ⟨front, last, rfl⟩
    · rfl
    · rw [List.concat_eq_append, upward_concat]
      simp [upward]
  | append_singleton names name ih =>
    rw [← List.append_assoc, upward_concat, upward_concat, ih, List.map_cons, List.append_assoc]
    rfl

/-- What stands above a place does not stand below it. -/
theorem not_isPrefix_of_mem_tail_upward (h : above ∈ place.upward.tail) : ¬ place <+: above := by
  rcases List.eq_nil_or_concat place with rfl | ⟨front, last, rfl⟩
  · cases h
  · rw [List.concat_eq_append, upward_concat, List.tail_cons, upward, List.mem_reverse,
      List.mem_inits] at h
    rw [List.concat_eq_append]
    intro hbelow
    have hlength := (hbelow.trans h).length_le
    rw [List.length_append] at hlength
    exact absurd hlength (Nat.not_succ_le_self _)

theorem foldl_move_names (names place : Place) :
    (names.map Component.name).foldl move place = place ++ names := by
  induction names generalizing place with
  | nil => exact (List.append_nil place).symm
  | cons name names ih =>
    rw [List.map_cons, List.foldl_cons, ih]
    exact List.append_assoc place [name] names

/-- The places that names lead through. -/
theorem map_foldl_inits_names (names place : Place) :
    (names.map Component.name).inits.reverse.map (fun steps => steps.foldl move place) =
      names.upward.map (place ++ ·) := by
  rw [List.map_inits, ← List.map_reverse, List.map_map]
  exact List.map_congr_left fun names _ => foldl_move_names names place

end Place

theorem FileTree.dropLast_of_projectFileAt? {t : FileTree} {directory file : Place}
    (h : t.projectFileAt? directory = some file) : file.dropLast = directory := by
  obtain ⟨name, -, rfl⟩ := List.mem_map.1 (List.mem_of_find?_eq_some h)
  exact List.dropLast_concat

namespace Environment

variable {e : Environment} {cwd directory : Place} {target : String} {head : List Component}
  {names : Place}

/-- The steps to the directory of a target without steps up are names, too. -/
theorem StartsIn.exists_names (h : e.StartsIn cwd) (hhas : e.has target = true)
    (hup : Component.parent ∉ Path.components target) :
    ∃ (head : List Component) (names : Place), e.stepsTo target = head ++ names.map .name ∧
      (Path.isAbsolute target = true ∧ head = [.root] ∨
        Path.isAbsolute target = false ∧ (head = [] ∨ head = [.current])) := by
  obtain ⟨place, hplace⟩ := Option.isSome_iff_exists.1 hhas
  obtain ⟨head, names, hsteps, hhead⟩ := Path.exists_names_of_components hup
  unfold stepsTo
  rw [isFile_eq_of_locate? hplace]
  cases hfile : e.files.isFile place with
  | false => exact ⟨head, names, hsteps, hhead⟩
  | true =>
    obtain ⟨front, name, -, hfront, -, -⟩ := h.exists_concat_name (h.foldlM_advance? hplace) hfile
    refine ⟨head, names.dropLast, ?_, hhead⟩
    -- the head is no name, so the name of the file is the last one
    have hnames : names ≠ [] := by
      rintro rfl
      have hlast := congrArg List.getLast? (hsteps.symm.trans hfront)
      rw [List.getLast?_concat, List.map_nil, List.append_nil] at hlast
      rcases hhead with ⟨-, rfl⟩ | ⟨-, rfl | rfl⟩ <;> cases hlast
    rw [if_pos rfl, hsteps, List.dropLast_append_of_ne_nil (by simpa using hnames), List.map_dropLast]

theorem passed_of_isAbsolute (hsteps : e.stepsTo target = [.root] ++ names.map .name) :
    e.passed cwd target = names.upward := by
  unfold passed
  rw [hsteps, List.singleton_append, Path.stepsAbove, List.map_map]
  exact (Place.map_foldl_inits_names names []).trans (List.map_id _)

theorem findSome?_passed_of_relative (hsteps : e.stepsTo target = head ++ names.map .name)
    (hhead : head = [] ∨ head = [.current]) :
    (e.passed cwd target).findSome? e.files.projectFileAt? =
      (names.upward.map (cwd ++ ·)).findSome? e.files.projectFileAt? := by
  unfold passed
  rcases hhead with rfl | rfl
  · have hhead : (names.map Component.name).head? ≠ some .root := by
      cases names <;> nofun
    rw [hsteps, List.nil_append, Path.stepsAbove_of_head?_ne hhead, Place.map_foldl_inits_names]
  · -- the leading dot makes the search look into the working directory twice
    have htwice : (e.passed cwd target) = names.upward.map (cwd ++ ·) ++ [cwd] := by
      unfold passed
      rw [hsteps, List.singleton_append, Path.stepsAbove_of_head?_ne (by simp), List.inits_cons,
        List.reverse_cons, List.map_append, ← List.map_reverse, List.map_map]
      exact congrArg (· ++ [cwd]) (Place.map_foldl_inits_names names cwd)
    change (e.passed cwd target).findSome? _ = _
    rw [htwice, List.findSome?_append]
    cases hfirst : (names.upward.map (cwd ++ ·)).findSome? e.files.projectFileAt? with
    | some file => rfl
    | none =>
      have hcwd : cwd ∈ names.upward.map (cwd ++ ·) := by
        refine List.mem_map.2 ⟨[], ?_, List.append_nil cwd⟩
        exact List.mem_reverse.2 ((List.mem_inits _ _).2 List.nil_prefix)
      rw [List.findSome?_singleton, List.findSome?_eq_none_iff.1 hfirst cwd hcwd]
      rfl

end Environment

namespace ConfigOrigin

variable {e : Environment} {cwd : Place} {target : String}

/-- Without steps up, the search from an absolute path passes all directories at
    or above the target, and that from any other one those down from the working
    directory. -/
theorem findSome?_passed_eq_nearestFile?_iff (h : e.StartsIn cwd) (hhas : e.has target = true)
    (hup : Component.parent ∉ Path.components target) :
    (e.passed cwd target).findSome? e.files.projectFileAt? = e.nearestFile? target ↔
      Path.isAbsolute target = true ∨
        ∀ file, e.nearestFile? target = some file → cwd <+: file.dropLast := by
  obtain ⟨directory, -, hdirectory, hwalk, -, -⟩ := h.exists_start hhas
  obtain ⟨head, names, hsteps, hhead⟩ := h.exists_names hhas hup
  have hnearest : e.nearestFile? target =
      directory.upward.findSome? e.files.projectFileAt? := by
    rw [Environment.nearestFile?, hdirectory, Option.bind_some]
  have hplace := FileTree.eq_foldl_move hwalk
  rcases hhead with ⟨habsolute, rfl⟩ | ⟨hrelative, hhead⟩
  · refine iff_of_true ?_ (.inl habsolute)
    have hnames : directory = names := by
      rw [hplace, hsteps]
      exact Place.foldl_move_names names []
    rw [Environment.passed_of_isAbsolute hsteps, hnearest, hnames]
  · have hnames : directory = cwd ++ names := by
      rw [hplace, hsteps, List.foldl_append, Place.foldl_move_names]
      rcases hhead with rfl | rfl <;> rfl
    rw [Environment.findSome?_passed_of_relative hsteps hhead, hnearest, hnames,
      Place.upward_append, List.findSome?_append, hrelative]
    cases hpassed : (names.upward.map (cwd ++ ·)).findSome? e.files.projectFileAt? with
    | some file =>
      refine iff_of_true rfl (.inr ?_)
      rintro _ ⟨⟩
      obtain ⟨below, hbelow, hfile⟩ := List.exists_of_findSome?_eq_some hpassed
      obtain ⟨names, -, rfl⟩ := List.mem_map.1 hbelow
      rw [FileTree.dropLast_of_projectFileAt? hfile]
      exact List.prefix_append cwd names
    | none =>
      rw [Option.none_or]
      cases habove : cwd.upward.tail.findSome? e.files.projectFileAt? with
      | none => exact iff_of_true rfl (.inr nofun)
      | some file =>
        refine iff_of_false nofun ?_
        rintro (hfalse | hall)
        · cases hfalse
        · obtain ⟨above, habove, hfile⟩ := List.exists_of_findSome?_eq_some habove
          have hbelow := hall file rfl
          rw [FileTree.dropLast_of_projectFileAt? hfile] at hbelow
          exact Place.not_isPrefix_of_mem_tail_upward habove hbelow

/-- Without a named file, the search finds the configuration for a target just if
    the directories that the path of the target passes show the nearest file, or
    none where there is none. If the path has no steps up, this is so for every
    absolute path, and for any other one just if the nearest file, if there is
    one, does not stand above the working directory. -/
theorem find_isNearest_iff (h : e.StartsIn cwd) (hhas : e.has target = true) :
    ((find e target none).IsNearest e target ↔
      (e.passed cwd target).findSome? e.files.projectFileAt? = e.nearestFile? target) ∧
    (Component.parent ∉ Path.components target →
      ((find e target none).IsNearest e target ↔ Path.isAbsolute target = true ∨
        ∀ file, e.nearestFile? target = some file → cwd <+: file.dropLast)) := by
  have hpassed := find_isNearest_iff_passed h hhas
  refine ⟨hpassed, fun hup => ?_⟩
  rw [hpassed]
  exact findSome?_passed_eq_nearestFile?_iff h hhas hup

theorem not_isNearest_standard {place : Place} (h : e.nearestFile? target = some place) :
    ¬ standard.IsNearest e target := by
  intro hnearest
  unfold IsNearest at hnearest
  simp only [h] at hnearest
  obtain ⟨path, hpath, -⟩ := hnearest
  cases hpath

/-- A program that is started in a directory of a project whose configuration
    file stands above it. -/
def inModule : Environment :=
  { directory := "/p/module"
    files := .ofList [(["p", "stylecheck.toml"], .file "".toUTF8),
      (["p", "module", "A.java"], .file "class A \x7b\x7d".toUTF8)] }

theorem startsIn_inModule : inModule.StartsIn ["p", "module"] where
  isAbsolute := by decide
  opensAt := ⟨by decide +kernel, by decide +kernel⟩
  isFile_top := by decide +kernel

/-- The file is found for the directory by its absolute path. -/
theorem find_isNearest_iff_inModule :
    inModule.StartsIn ["p", "module"] ∧ inModule.has "/p/module" = true ∧
      inModule.nearestFile? "/p/module" = some ["p", "stylecheck.toml"] ∧
      (find inModule "/p/module" none).IsNearest inModule "/p/module" := by
  have hhas : inModule.has "/p/module" = true := by decide +kernel
  refine ⟨startsIn_inModule, hhas, by decide +kernel, ?_⟩
  have hup : Component.parent ∉ Path.components "/p/module" := by decide
  exact ((find_isNearest_iff startsIn_inModule hhas).2 hup).2 (.inl rfl)

/-- It is not found for the directory as the place where the program is started. -/
theorem not_isNearest_inModule :
    inModule.StartsIn ["p", "module"] ∧ inModule.has "." = true ∧
      inModule.nearestFile? "." = some ["p", "stylecheck.toml"] ∧
      find inModule "." none = .standard ∧ ¬ (find inModule "." none).IsNearest inModule "." := by
  have hnearest : inModule.nearestFile? "." = some ["p", "stylecheck.toml"] := by decide +kernel
  have hfind : find inModule "." none = .standard := by decide +kernel
  exact ⟨startsIn_inModule, by decide +kernel, hnearest, hfind,
    hfind ▸ not_isNearest_standard hnearest⟩

end ConfigOrigin

end JavaLint
