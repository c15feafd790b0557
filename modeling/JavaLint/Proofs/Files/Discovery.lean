import JavaLint.Proofs.Files.Path
import JavaLint.Proofs.KeyMap
import Mathlib.Data.List.Forall2
/-!
# The files of a run in order

The files of a run are listed as they stand in the tree, by the names that lead
to them from the root. This file says that they come in the order of the paths
that they are reported under, each path once.

## Main definitions

- `Selection.Finds` — a file of a run, with the names that lead to it
- `Selection.found` — what the selection finds below a place

## Main statements

- `FileTree.mem_filesBelow_iff` — the listing of a tree is complete
- `Selection.files?_eq_some_iff` — what the files of a run are made of
- `Selection.pairwise_compare_of_files?` — they are listed by path
-/

namespace JavaLint

namespace FileTree

variable {t : FileTree} {base names place : Place} {bytes : ByteArray}

theorem bytes?_eq_some_iff : t.bytes? place = some bytes ↔ t.get? place = some (.file bytes) := by
  unfold bytes?
  split
  · next b h => simp [h]
  · next h => exact ⟨nofun, fun h' => absurd h' (h bytes)⟩

theorem isFile_iff : t.isFile place = true ↔ ∃ bytes, t.bytes? place = some bytes := by
  simp only [bytes?_eq_some_iff]
  unfold isFile
  split
  · next bytes h => exact ⟨fun _ => ⟨bytes, h⟩, fun _ => rfl⟩
  · next h => exact ⟨fun h' => absurd h' (by simp), fun ⟨bytes, h'⟩ => absurd h' (h bytes)⟩

theorem mem_entries_iff :
    (place, .file bytes) ∈ t.entries.entries ↔ t.bytes? place = some bytes := by
  rw [bytes?_eq_some_iff]
  exact KeyMap.get?_eq_some_iff.symm

/-- What an entry contributes to the listing of the files below a place. -/
def below? (base : Place) (e : Place × FileEntry) : Option (Place × ByteArray) :=
  match base.isPrefixOf? e.1, e.2 with
  | some names, .file bytes => some (names, bytes)
  | _, _ => none

theorem filesBelow_eq (t : FileTree) (base : Place) :
    t.filesBelow base = t.entries.entries.filterMap (below? base) :=
  rfl

theorem below?_eq_some_iff {e : Place × FileEntry} :
    below? base e = some (names, bytes) ↔ e = (base ++ names, .file bytes) := by
  obtain ⟨place, entry⟩ := e
  unfold below?
  cases hprefix : base.isPrefixOf? place with
  | none =>
    have hne : place ≠ base ++ names := by
      rintro rfl
      simp [List.isPrefixOf?_eq_some_iff_append_eq.2 rfl] at hprefix
    simp [hne]
  | some rest =>
    obtain rfl := List.isPrefixOf?_eq_some_iff_append_eq.1 hprefix
    cases entry with
    | file b => simp
    | directory => simp

/-- The files below a place are those that the tree has there. -/
theorem mem_filesBelow_iff :
    (names, bytes) ∈ t.filesBelow base ↔ t.bytes? (base ++ names) = some bytes := by
  rw [filesBelow_eq, List.mem_filterMap, ← mem_entries_iff]
  simp only [below?_eq_some_iff, exists_eq_right]

theorem lt_of_append_lt_append (h : base ++ place < base ++ names) : place < names := by
  induction base with
  | nil => exact h
  | cons name base ih =>
    rcases List.cons_lt_cons_iff.1 h with hlt | ⟨-, hlt⟩
    · exact absurd hlt (String.lt_irrefl name)
    · exact ih hlt

/-- The files below a place are listed in the order of the names that lead to them. -/
theorem filesBelow_pairwise (t : FileTree) (base : Place) :
    (t.filesBelow base).Pairwise fun a b => a.1 < b.1 := by
  refine t.entries.increasing.filterMap _ ?_
  rintro e e' hlt ⟨names, bytes⟩ h ⟨names', bytes'⟩ h'
  rw [below?_eq_some_iff.1 h, below?_eq_some_iff.1 h'] at hlt
  exact lt_of_append_lt_append hlt

theorem isFileName_of_mem_filesBelow {e : Place × ByteArray} (he : e ∈ t.filesBelow base) :
    ∀ name ∈ e.1, isFileName name = true := by
  intro name hname
  have hmem := mem_entries_iff.2 (mem_filesBelow_iff.1 he)
  exact t.named _ hmem name (List.mem_append_right base hname)

/-- Nothing stands below a file. -/
theorem eq_nil_of_bytes? (hbase : t.bytes? base = some bytes) {bytes' : ByteArray}
    (hbelow : t.bytes? (base ++ names) = some bytes') : names = [] := by
  obtain ⟨before, after, hsplit⟩ := List.append_of_mem (mem_entries_iff.2 hbase)
  have hmem := mem_entries_iff.2 hbelow
  have hincreasing := t.entries.increasing
  have hleaves := t.leaves
  rw [hsplit, List.mem_append, List.mem_cons] at hmem
  rw [KeysIncrease, hsplit, List.pairwise_append] at hincreasing
  rw [hsplit, List.pairwise_append, List.pairwise_cons] at hleaves
  rcases hmem with hmem | heq | hmem
  · -- what is below a place comes after it
    have hlt : base ++ names < base := hincreasing.2.2 _ hmem _ List.mem_cons_self
    exact absurd hlt (List.not_lt.2 List.le_append_left)
  · exact List.append_right_eq_self.1 (congrArg Prod.fst heq)
  · exact absurd (List.prefix_append base names) (hleaves.2.1.1 _ hmem rfl)

end FileTree

namespace Selection

variable {s : Selection} {t : FileTree} {base names : Place} {bytes : ByteArray}
  {files : List SourceFile}

/-- What a run finds below its root, which stands at `base`. -/
def found (s : Selection) (t : FileTree) (base : Place) : List (Place × ByteArray) :=
  (t.filesBelow base).filter fun e =>
    s.selects (IgnoreFile.all t s.respectGitignore) base e.1

/-- A run finds a file by following `names` from its root, which stands at
    `base`. The file goes by this way, or by its own name if it is the root. -/
structure Finds (s : Selection) (t : FileTree) (base names : Place) (file : SourceFile) :
    Prop where
  locate?_eq : t.locate? s.root = some base
  bytes?_eq : t.bytes? (base ++ names) = some file.bytes
  selects_eq : s.selects (IgnoreFile.all t s.respectGitignore) base names = true
  path_eq : file.path = if names.isEmpty then base.getLastD "" else relativePath names

theorem mem_found_iff :
    (names, bytes) ∈ s.found t base ↔ t.bytes? (base ++ names) = some bytes ∧
      s.selects (IgnoreFile.all t s.respectGitignore) base names = true := by
  rw [found, List.mem_filter, FileTree.mem_filesBelow_iff]

theorem found_pairwise (s : Selection) (t : FileTree) (base : Place) :
    (s.found t base).Pairwise fun a b => a.1 < b.1 :=
  (t.filesBelow_pairwise base).filter _

/-- The files of a run are what is found below the place of its root, unless an
    ignore file above a directory is broken. -/
theorem files?_eq_some_iff :
    s.files? t = some files ↔ ∃ base, t.locate? s.root = some base ∧
      (t.isDirectory base && brokenAbove (IgnoreFile.all t s.respectGitignore) base) = false ∧
      files = (s.found t base).map fun e => sourceFile base e.1 e.2 := by
  unfold files?
  rw [Option.bind_eq_some_iff]
  refine exists_congr fun base => and_congr_right fun _ => ?_
  dsimp only
  split
  · next hbroken => simp [hbroken]
  · next hbroken =>
    rw [Bool.not_eq_true] at hbroken
    rw [and_iff_right hbroken, Option.some.injEq]
    exact eq_comm

/-- Each file of a run has been found by the names that lead to it, and the names
    come in order. -/
theorem exists_finds_of_files? (h : s.files? t = some files) :
    ∃ base, ∃ ways : List Place, List.Forall₂ (s.Finds t base) ways files ∧
      ways.Pairwise (· < ·) ∧ ∀ names ∈ ways, ∀ name ∈ names, isFileName name = true := by
  obtain ⟨base, hbase, -, rfl⟩ := files?_eq_some_iff.1 h
  refine ⟨base, (s.found t base).map Prod.fst, ?_, ?_, ?_⟩
  · rw [List.forall₂_map_left_iff, List.forall₂_map_right_iff, List.forall₂_same]
    rintro ⟨names, bytes⟩ hmem
    obtain ⟨hbytes, hselects⟩ := mem_found_iff.1 hmem
    exact ⟨hbase, hbytes, hselects, rfl⟩
  · exact List.pairwise_map.2 (s.found_pairwise t base)
  · rw [List.forall_mem_map]
    exact fun e he => FileTree.isFileName_of_mem_filesBelow (List.mem_filter.1 he).1

/-- If the root is a file, it is the only file of the run. -/
theorem eq_of_nil_mem_found (h : ([], bytes) ∈ s.found t base) {e : Place × ByteArray}
    (he : e ∈ s.found t base) : e = ([], bytes) := by
  obtain ⟨names, bytes'⟩ := e
  have hroot := (mem_found_iff.1 h).1
  have hbelow := (mem_found_iff.1 he).1
  rw [List.append_nil] at hroot
  obtain rfl := FileTree.eq_nil_of_bytes? hroot hbelow
  rw [List.append_nil, hroot] at hbelow
  rw [Option.some.inj hbelow]

/-- The files of a run come in the order of the paths that they are reported under. -/
theorem pairwise_compare_of_files? (h : s.files? t = some files) :
    files.Pairwise fun a b => Path.compare a.path b.path = .lt := by
  obtain ⟨base, -, -, rfl⟩ := files?_eq_some_iff.1 h
  refine List.pairwise_map.2 ((s.found_pairwise t base).imp_of_mem ?_)
  rintro ⟨names, bytes⟩ ⟨names', bytes'⟩ hmem hmem' hlt
  have hnames := FileTree.isFileName_of_mem_filesBelow (List.mem_filter.1 hmem).1
  have hnames' := FileTree.isFileName_of_mem_filesBelow (List.mem_filter.1 hmem').1
  -- a root that is a file would be the only file
  have hne : names ≠ [] := by
    rintro rfl
    rw [eq_of_nil_mem_found hmem hmem'] at hlt
    exact List.not_lt_nil _ hlt
  have hne' : names' ≠ [] := fun hnil => List.not_lt_nil names (hnil ▸ hlt)
  have hpath : (sourceFile base names bytes).path = relativePath names := by
    simp [sourceFile, hne]
  have hpath' : (sourceFile base names' bytes').path = relativePath names' := by
    simp [sourceFile, hne']
  rw [hpath, hpath']
  exact (Path.compare_relativePath_eq_lt_iff hnames hnames').2 hlt

end Selection

end JavaLint
