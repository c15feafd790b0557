import JavaLint.Proofs.Files.Discovery
import Mathlib.Data.List.Nodup
/-!
# Files left out by patterns

A pattern leaves out files and has no other part in what the files of a run are: each one
decides alone about each file, and neither their order nor their number matters.

## Main definitions

- `Selection.withExcludes` — a selection with other patterns

## Main statements

- `Selection.found_withExcludes` — with the patterns of two selections, what both of them find
- `Selection.files?_withExcludes_cases` — whether files can be listed does not depend on patterns
- `Selection.files?_withExcludes_congr` — neither does the order of patterns nor their number
- `Selection.meets_of_files?_withExcludes` — the files are those of both selections
-/

namespace JavaLint

/-- What is left of a list, found in it again by a key that tells its elements apart. -/
theorem List.filter_mem_map_of_sublist {α β : Type} [DecidableEq β] {f : α → β} {l l' : List α}
    (h : l.Sublist l') (hnodup : (l'.map f).Nodup) :
    (l'.filter fun a => f a ∈ l.map f) = l := by
  induction h with
  | slnil => rfl
  | @cons l l' a hsub ih =>
    obtain ⟨ha, hnodup⟩ := List.nodup_cons.1 hnodup
    have hnot : f a ∉ l.map f := fun hmem => ha ((hsub.map f).subset hmem)
    rw [List.filter_cons_of_neg (by simpa using hnot), ih hnodup]
  | @cons_cons l l' a hsub ih =>
    obtain ⟨ha, hnodup⟩ := List.nodup_cons.1 hnodup
    rw [List.filter_cons_of_pos (by simp)]
    refine congrArg (a :: ·) (Eq.trans (List.filter_congr fun b hb => ?_) (ih hnodup))
    have hne : f b ≠ f a := fun heq => ha (heq ▸ List.mem_map_of_mem hb)
    simp [hne]

namespace Selection

variable {s : Selection} {t : FileTree} {base names : Place} {gs gs₁ gs₂ : List Glob}

/-- The selection with other patterns. -/
def withExcludes (s : Selection) (gs : List Glob) : Selection :=
  { s with excludes := gs }

@[simp]
theorem root_withExcludes : (s.withExcludes gs).root = s.root :=
  rfl

theorem isExcluded_withExcludes (h : ∀ g, g ∈ gs ↔ g ∈ gs₁ ∨ g ∈ gs₂) (names : Place) :
    (s.withExcludes gs).isExcluded names =
      ((s.withExcludes gs₁).isExcluded names || (s.withExcludes gs₂).isExcluded names) := by
  have hany : ∀ gs, (s.withExcludes gs).isExcluded names = true ↔ ∃ g ∈ gs,
      (g.accepts (relativePath names) || g.accepts (s.absolutePath names)) = true :=
    fun _ => List.any_eq_true
  rw [Bool.eq_iff_iff, Bool.or_eq_true, hany, hany, hany]
  simp only [h, or_and_right, exists_or]

/-- With the patterns of two selections one finds what both of them find. -/
theorem found_withExcludes (h : ∀ g, g ∈ gs ↔ g ∈ gs₁ ∨ g ∈ gs₂) (t : FileTree) (base : Place) :
    (s.withExcludes gs).found t base = ((s.withExcludes gs₁).found t base).filter fun e =>
      !(s.withExcludes gs₂).isExcluded e.1 := by
  unfold found
  rw [List.filter_filter]
  refine List.filter_congr fun e _ => ?_
  change ((s.hasExtension (base ++ e.1) && !(s.withExcludes gs).isExcluded e.1) && _) =
    (!_ && ((s.hasExtension (base ++ e.1) && !(s.withExcludes gs₁).isExcluded e.1) && _))
  rw [isExcluded_withExcludes h, Bool.not_or]
  ac_rfl

theorem found_withExcludes_sublist (h : ∀ g ∈ gs₁, g ∈ gs) (t : FileTree) (base : Place) :
    ((s.withExcludes gs).found t base).Sublist ((s.withExcludes gs₁).found t base) := by
  have hunion : ∀ g, g ∈ gs ↔ g ∈ gs₁ ∨ g ∈ gs := fun g => (or_iff_right_of_imp (h g)).symm
  rw [found_withExcludes hunion]
  exact List.filter_sublist

/-- Whether the files below a root can be listed does not depend on patterns. -/
theorem files?_withExcludes_cases (s : Selection) (t : FileTree) :
    (∀ gs, (s.withExcludes gs).files? t = none) ∨ ∃ base, ∀ gs,
      (s.withExcludes gs).files? t = some (((s.withExcludes gs).found t base).map fun e =>
        sourceFile base e.1 e.2) := by
  by_cases h : ∃ base, t.locate? s.root = some base ∧
      (t.isDirectory base && brokenAbove (IgnoreFile.all t s.respectGitignore) base) = false
  · obtain ⟨base, hlocate, hbroken⟩ := h
    exact .inr ⟨base, fun gs => files?_eq_some_iff.2 ⟨base, hlocate, hbroken, rfl⟩⟩
  · refine .inl fun gs => Option.eq_none_iff_forall_ne_some.2 fun files hfiles => h ?_
    obtain ⟨base, hlocate, hbroken, -⟩ := files?_eq_some_iff.1 hfiles
    exact ⟨base, hlocate, hbroken⟩

/-- Neither the order of patterns nor their number matters. -/
theorem files?_withExcludes_congr (h : ∀ g, g ∈ gs ↔ g ∈ gs₁) (s : Selection) (t : FileTree) :
    (s.withExcludes gs).files? t = (s.withExcludes gs₁).files? t := by
  obtain hnone | ⟨base, hall⟩ := s.files?_withExcludes_cases t
  · rw [hnone gs, hnone gs₁]
  · have hsub := found_withExcludes_sublist (s := s) (fun g => (h g).2) t base
    have hsub₁ := found_withExcludes_sublist (s := s) (fun g => (h g).1) t base
    rw [hall gs, hall gs₁, hsub.antisymm hsub₁]

/-- No two files of a run are reported under one path. -/
theorem nodup_path_of_files? {files : List SourceFile} (h : s.files? t = some files) :
    (files.map SourceFile.path).Nodup :=
  List.pairwise_map.2 ((pairwise_compare_of_files? h).imp fun {_ _} hlt =>
    Path.ne_of_compare_eq_lt hlt)

/-- The files of a run with the patterns of two runs: some of the files of the first run in
    their order, namely those that are also files of the second one. -/
theorem meets_of_files?_withExcludes {files files₁ files₂ : List SourceFile}
    (h : ∀ g, g ∈ gs ↔ g ∈ gs₁ ∨ g ∈ gs₂) (hfiles : (s.withExcludes gs).files? t = some files)
    (hfiles₁ : (s.withExcludes gs₁).files? t = some files₁)
    (hfiles₂ : (s.withExcludes gs₂).files? t = some files₂) :
    files.Sublist files₁ ∧ ∀ file, file ∈ files ↔ file ∈ files₁ ∧ file ∈ files₂ := by
  obtain hnone | ⟨base, hall⟩ := s.files?_withExcludes_cases t
  · exact nomatch (hnone gs).symm.trans hfiles
  obtain rfl := Option.some.inj ((hall gs).symm.trans hfiles)
  obtain rfl := Option.some.inj ((hall gs₁).symm.trans hfiles₁)
  obtain rfl := Option.some.inj ((hall gs₂).symm.trans hfiles₂)
  have hsub₁ := found_withExcludes_sublist (s := s) (fun g hg => (h g).2 (.inl hg)) t base
  have hsub₂ := found_withExcludes_sublist (s := s) (fun g hg => (h g).2 (.inr hg)) t base
  refine ⟨hsub₁.map _, fun file => ⟨fun hfile => ?_, ?_⟩⟩
  · exact ⟨(hsub₁.map _).subset hfile, (hsub₂.map _).subset hfile⟩
  · rintro ⟨hfile₁, hfile₂⟩
    obtain ⟨e, he, rfl⟩ := List.mem_map.1 hfile₁
    obtain ⟨e', he', heq⟩ := List.mem_map.1 hfile₂
    -- without patterns both would be found, under different paths if they were different
    have hplain : ∀ gs, (s.withExcludes gs).found t base ⊆ (s.withExcludes []).found t base :=
      fun gs => (found_withExcludes_sublist (List.forall_mem_nil _) t base).subset
    have hnodup := (nodup_path_of_files? (hall [])).of_map
    obtain rfl := List.inj_on_of_nodup_map hnodup (hplain gs₂ he') (hplain gs₁ he) heq
    refine List.mem_map_of_mem ?_
    rw [found_withExcludes h, List.mem_filter]
    have hselects := (mem_found_iff.1 he').2
    simp only [selects, Bool.and_eq_true] at hselects
    exact ⟨he, hselects.1.2⟩

end Selection

end JavaLint
