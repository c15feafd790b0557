import JavaLint.Proofs.Files.Discovery
/-!
# Overwritten files

When a file that a run checks gets another content, the run still finds the
same files: what decides about a file is its place, the extension of its name
and ignore files, and an ignore file has no extension.

## Main definitions

- `FileTree.OverwrittenAt` — two trees that differ in the content of one file

## Main statements

- `IgnoreFile.directory?_eq_none` — a file with an extension is no ignore file
- `Selection.files?_of_overwrittenAt` — a run finds the same files, with one content exchanged
-/

namespace JavaLint

namespace FileTree

/-- A file stands at a place in both trees, and they agree on all other places. -/
structure OverwrittenAt (t t' : FileTree) (place : Place) : Prop where
  isFile : t.isFile place = true
  isFile' : t'.isFile place = true
  get?_eq {p : Place} : p ≠ place → t'.get? p = t.get? p

variable {t t' : FileTree} {place : Place}

namespace OverwrittenAt

theorem exists_get?_eq (h : t.OverwrittenAt t' place) :
    ∃ old new, t.get? place = some (.file old) ∧ t'.get? place = some (.file new) := by
  obtain ⟨old, hold⟩ := isFile_iff.1 h.isFile
  obtain ⟨new, hnew⟩ := isFile_iff.1 h.isFile'
  exact ⟨old, new, bytes?_eq_some_iff.1 hold, bytes?_eq_some_iff.1 hnew⟩

theorem isFile_eq (h : t.OverwrittenAt t' place) (p : Place) : t'.isFile p = t.isFile p := by
  by_cases hp : p = place
  · rw [hp, h.isFile, h.isFile']
  · rw [FileTree.isFile, h.get?_eq hp, FileTree.isFile]

theorem isBareDirectory_eq (h : t.OverwrittenAt t' place) (p : Place) :
    t'.isBareDirectory p = t.isBareDirectory p := by
  by_cases hp : p = place
  · obtain ⟨old, new, hold, hnew⟩ := h.exists_get?_eq
    rw [hp, isBareDirectory, hnew, isBareDirectory, hold]
  · rw [isBareDirectory, h.get?_eq hp, isBareDirectory]

theorem exists_entries_eq (h : t.OverwrittenAt t' place) :
    ∃ bytes, t'.entries.entries =
      t.entries.entries.map (KeyMap.exchange place (.file bytes)) := by
  obtain ⟨old, new, hold, hnew⟩ := h.exists_get?_eq
  exact ⟨new, KeyMap.entries_eq_map_of_get? hold hnew fun _ => h.get?_eq⟩

/-- A tree whose entries are the same but for the content of a file. -/
theorem of_entries_eq {bytes : ByteArray} (hfile : t.isFile place = true)
    (h : t'.entries.entries = t.entries.entries.map (KeyMap.exchange place (.file bytes))) :
    t.OverwrittenAt t' place := by
  have hget : ∀ p, t'.get? p =
      if p = place then (t.get? p).map fun _ => .file bytes else t.get? p := by
    intro p
    rw [FileTree.get?, KeyMap.get?, h, KeyMap.lookup_map_exchange]
    split
    · next heq => rw [heq]; rfl
    · rfl
  obtain ⟨old, hold⟩ := isFile_iff.1 hfile
  refine ⟨hfile, isFile_iff.2 ⟨bytes, ?_⟩, fun hp => ?_⟩
  · rw [bytes?_eq_some_iff, hget, if_pos rfl, bytes?_eq_some_iff.1 hold]
    rfl
  · rw [hget, if_neg hp]

theorem isDirectory_eq (h : t.OverwrittenAt t' place) (p : Place) :
    t'.isDirectory p = t.isDirectory p := by
  obtain ⟨bytes, hentries⟩ := h.exists_entries_eq
  have hsame : ∀ e : Place × FileEntry,
      (KeyMap.exchange place (.file bytes) e).1 = e.1 := KeyMap.exchange_fst place _
  simp only [isDirectory, h.isBareDirectory_eq, hentries, List.any_map, Function.comp_def, hsame]

theorem locate?_eq (h : t.OverwrittenAt t' place) (path : String) :
    t'.locate? path = t.locate? path := by
  have hstep : t'.step? = t.step? := by
    funext p piece
    rw [step?, h.isDirectory_eq, step?]
  have hhas : t'.has = t.has := by
    funext p
    rw [has, h.isFile_eq, h.isDirectory_eq, has]
  rw [locate?, hstep, hhas, locate?]

/-- The listing of the files below a place changes in one content. -/
theorem exists_filesBelow_eq (h : t.OverwrittenAt t' place) :
    ∃ bytes, ∀ base, t'.filesBelow base =
      (t.filesBelow base).map fun e => (e.1, if base ++ e.1 = place then bytes else e.2) := by
  obtain ⟨old, -, hold, -⟩ := h.exists_get?_eq
  obtain ⟨bytes, hentries⟩ := h.exists_entries_eq
  refine ⟨bytes, fun base => ?_⟩
  rw [filesBelow_eq, filesBelow_eq, hentries, List.filterMap_map, List.map_filterMap]
  refine List.filterMap_congr fun e he => ?_
  rw [Function.comp_apply]
  by_cases hplace : e.1 = place
  · -- the entry is the file with the old content
    have hentry : e = (place, .file old) := by
      have hget : t.get? e.1 = some e.2 := KeyMap.get?_eq_some_iff.2 he
      rw [hplace, hold] at hget
      exact Prod.ext hplace (Option.some.inj hget).symm
    rw [hentry, KeyMap.exchange, if_pos rfl, below?, below?]
    cases hprefix : base.isPrefixOf? place with
    | none => rfl
    | some names =>
      have hway : base ++ names = place := List.isPrefixOf?_eq_some_iff_append_eq.1 hprefix
      simp [hway]
  · rw [KeyMap.exchange, if_neg hplace]
    cases hbelow : below? base e with
    | none => rfl
    | some found =>
      have hway : base ++ found.1 ≠ place := by
        rw [below?_eq_some_iff.1 hbelow] at hplace
        exact hplace
      simp [hway]

end OverwrittenAt

end FileTree

namespace IgnoreFile

variable {git : Bool} {kind place : Place}

/-- The names of ignore files have no extensions. -/
theorem exists_getLast?_of_mem_kinds (h : kind ∈ kinds git) :
    ∃ name, kind.getLast? = some name ∧ Path.extensionOf? name = none := by
  have hkind : kind = [".ignore"] ∨ kind = [".gitignore"] ∨ kind = [".git", "info", "exclude"] := by
    cases git <;> simp [kinds] at h <;> tauto
  rcases hkind with rfl | rfl | rfl
  · exact ⟨_, rfl, by decide⟩
  · exact ⟨_, rfl, by decide⟩
  · exact ⟨_, rfl, by decide⟩

theorem eq_append_of_directory? {directory : Place} (h : directory? kind place = some directory) :
    place = directory ++ kind := by
  obtain ⟨rest, hrest, rfl⟩ := Option.map_eq_some_iff.1 h
  have hplace := List.isPrefixOf?_eq_some_iff_append_eq.1 hrest
  rw [← List.reverse_reverse place, ← hplace, List.reverse_append, List.reverse_reverse]

/-- A file with an extension is no ignore file. -/
theorem directory?_eq_none {s : Selection} (hkind : kind ∈ kinds git)
    (hext : s.hasExtension place = true) : directory? kind place = none := by
  rw [Option.eq_none_iff_forall_ne_some]
  intro directory hdirectory
  obtain ⟨name, hlast, hname⟩ := exists_getLast?_of_mem_kinds hkind
  rw [eq_append_of_directory? hdirectory, Selection.hasExtension, List.getLast?_append,
    hlast] at hext
  simp [hname] at hext

/-- The ignore files stay the same if the file that changes is none of them. -/
theorem all_eq {t t' : FileTree} {s : Selection} (h : t.OverwrittenAt t' place)
    (hext : s.hasExtension place = true) : all t' git = all t git := by
  obtain ⟨bytes, hbelow⟩ := h.exists_filesBelow_eq
  refine List.flatMap_congr fun kind hkind => ?_
  unfold ofKind
  dsimp only
  rw [hbelow, List.filterMap_map]
  congr 1
  refine List.filterMap_congr fun e _ => ?_
  rw [Function.comp_apply, List.nil_append]
  dsimp only
  by_cases hplace : e.1 = place
  · rw [hplace, directory?_eq_none hkind hext]
    rfl
  · rw [if_neg hplace]

end IgnoreFile

namespace Selection

variable {s : Selection} {t t' : FileTree} {base names : Place} {file : SourceFile}
  {files : List SourceFile}

theorem hasExtension_of_selects {ignoreFiles : List IgnoreFile}
    (h : s.selects ignoreFiles base names = true) : s.hasExtension (base ++ names) = true := by
  unfold selects at h
  rw [Bool.and_eq_true, Bool.and_eq_true] at h
  exact h.1.1

theorem Finds.ignoreFiles_eq (hfile : s.Finds t base names file)
    (h : t.OverwrittenAt t' (base ++ names)) (git : Bool) :
    IgnoreFile.all t' git = IgnoreFile.all t git :=
  IgnoreFile.all_eq h (hasExtension_of_selects hfile.selects_eq)

theorem Finds.exists_found_eq (hfile : s.Finds t base names file)
    (h : t.OverwrittenAt t' (base ++ names)) :
    ∃ bytes, s.found t' base =
      (s.found t base).map fun e => (e.1, if e.1 = names then bytes else e.2) := by
  obtain ⟨bytes, hbelow⟩ := h.exists_filesBelow_eq
  refine ⟨bytes, ?_⟩
  simp only [found, hfile.ignoreFiles_eq h, hbelow, List.filter_map, Function.comp_def,
    List.append_cancel_left_eq]

/-- When a file of a run gets another content, the run finds the same files, and
    the other ones are as before. -/
theorem files?_of_overwrittenAt (hfiles : s.files? t = some files)
    (hfile : s.Finds t base names file) (h : t.OverwrittenAt t' (base ++ names)) :
    ∃ files', s.files? t' = some files' ∧ List.Forall₂ (fun old new : SourceFile =>
      new.path = old.path ∧ (old.path ≠ file.path → new = old)) files files' := by
  obtain ⟨bytes, hfound⟩ := hfile.exists_found_eq h
  obtain ⟨root, hroot, hbroken, rfl⟩ := files?_eq_some_iff.1 hfiles
  obtain rfl : root = base := Option.some.inj (hroot.symm.trans hfile.locate?_eq)
  have hbroken' :
      (t'.isDirectory root && brokenAbove (IgnoreFile.all t' s.respectGitignore) root) = false := by
    rw [h.isDirectory_eq, hfile.ignoreFiles_eq h]
    exact hbroken
  refine ⟨_, files?_eq_some_iff.2 ⟨root, (h.locate?_eq s.root).trans hroot, hbroken', rfl⟩, ?_⟩
  rw [hfound, List.map_map, List.forall₂_map_left_iff, List.forall₂_map_right_iff,
    List.forall₂_same]
  rintro e -
  refine ⟨rfl, fun hpath => ?_⟩
  have hne : e.1 ≠ names := by
    rintro rfl
    exact hpath hfile.path_eq.symm
  rw [Function.comp_apply]
  dsimp only
  rw [if_neg hne]

end Selection

end JavaLint
