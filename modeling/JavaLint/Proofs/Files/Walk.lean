import JavaLint.Proofs.Files.Ancestors
import JavaLint.Proofs.Files.Discovery
/-!
# Walks along paths

A path is followed piece by piece, and each piece is followed from a directory.
This file follows the steps of a path instead, which say nothing of repeated
slashes and inner dots.

## Main definitions

- `Place.move` — the place that a step leads to
- `FileTree.advance?` — a step, which must start from a directory
- `FileTree.OpensAt` — a path leads to a directory

## Main statements

- `FileTree.OpensAt.foldlM_advance?_of_join` — where the pieces of a path lead, its steps lead
- `FileTree.OpensAt.isFileAt_join_name` — the files in the directory that a path leads to
-/

namespace JavaLint

open JavaLint.Path (Component)

/-- The place that a step leads to. -/
def Place.move (place : Place) : Component → Place
  | .root => []
  | .current => place
  | .parent => place.dropLast
  | .name s => place ++ [s]

namespace FileTree

variable {t : FileTree} {place p cwd : Place} {name path base directory : String}
  {piece : List Char} {ps : List (List Char)} {step : Component} {steps : List Component}
  {e : Place × FileEntry}

/-! ## Directories -/

theorem isDirectory_iff :
    t.isDirectory place = true ↔
      place = [] ∨ ∃ e ∈ t.entries.entries, place <+: e.1 ∧ (e.1 = place → e.2 = .directory) := by
  have hbare : t.isBareDirectory place = true ↔ (place, .directory) ∈ t.entries.entries := by
    unfold isBareDirectory
    split
    · next h => exact iff_of_true rfl (KeyMap.get?_eq_some_iff.1 h)
    · next h =>
      exact iff_of_false Bool.false_ne_true fun hmem => h (KeyMap.get?_eq_some_iff.2 hmem)
  have hany : (t.entries.entries.any fun e => e.1 != place && place.isPrefixOf e.1) = true ↔
      ∃ e ∈ t.entries.entries, e.1 ≠ place ∧ place <+: e.1 := by
    simp [List.isPrefixOf_iff_prefix]
  change (_ || _ || t.entries.entries.any fun e => e.1 != place && place.isPrefixOf e.1) = true ↔ _
  rw [Bool.or_eq_true, Bool.or_eq_true, hbare, hany, List.isEmpty_iff, or_assoc]
  refine or_congr_right ⟨?_, ?_⟩
  · rintro (hmem | ⟨e, he, hne, hbelow⟩)
    · exact ⟨_, hmem, List.prefix_refl place, fun _ => rfl⟩
    · exact ⟨e, he, hbelow, fun heq => absurd heq hne⟩
  · rintro ⟨e, he, hbelow, hentry⟩
    by_cases heq : e.1 = place
    · exact .inl (heq ▸ hentry heq ▸ he)
    · exact .inr ⟨e, he, heq, hbelow⟩

/-- What has something below it is a directory. -/
theorem isDirectory_of_mem (he : e ∈ t.entries.entries) (hbelow : place ++ [name] <+: e.1) :
    t.isDirectory place = true := by
  refine isDirectory_iff.2 (.inr ⟨e, he, (List.prefix_append place [name]).trans hbelow, ?_⟩)
  intro heq
  have hlength := hbelow.length_le
  rw [heq, List.length_append] at hlength
  exact absurd hlength (Nat.not_succ_le_self _)

/-- What stands above a directory is a directory. -/
theorem isDirectory_dropLast (h : t.isDirectory place = true) :
    t.isDirectory place.dropLast = true := by
  rcases List.eq_nil_or_concat place with rfl | ⟨front, last, rfl⟩
  · exact h
  · rw [List.concat_eq_append] at h ⊢
    rw [List.dropLast_concat]
    rcases isDirectory_iff.1 h with hnil | ⟨e, he, hbelow, -⟩
    · exact absurd hnil (List.concat_ne_nil _ _)
    · exact isDirectory_of_mem he hbelow

theorem isDirectory_of_isFile_append (h : t.isFile (place ++ [name]) = true) :
    t.isDirectory place = true := by
  obtain ⟨bytes, hbytes⟩ := isFile_iff.1 h
  exact isDirectory_of_mem (mem_entries_iff.2 hbytes) (List.prefix_refl _)

/-- A file is no directory, unless it stands at the top. -/
theorem not_isDirectory_of_isFile (h : t.isFile place = true) (hne : place ≠ []) :
    t.isDirectory place = false := by
  obtain ⟨bytes, hbytes⟩ := isFile_iff.1 h
  have hmem := mem_entries_iff.2 hbytes
  rw [← Bool.not_eq_true, isDirectory_iff]
  rintro (hnil | ⟨e, he, hbelow, hentry⟩)
  · exact hne hnil
  by_cases heq : e.1 = place
  · have hget : t.entries.get? place = some .directory := by
      rw [KeyMap.get?_eq_some_iff, ← heq, ← hentry heq]
      exact he
    rw [KeyMap.get?_eq_some_iff.2 hmem] at hget
    cases hget
  · -- a file comes before what is below it, and nothing is
    obtain ⟨before, after, hsplit⟩ := List.append_of_mem hmem
    have hincreasing := t.entries.increasing
    have hleaves := t.leaves
    rw [hsplit, List.mem_append, List.mem_cons] at he
    rw [KeysIncrease, hsplit, List.pairwise_append] at hincreasing
    rw [hsplit, List.pairwise_append, List.pairwise_cons] at hleaves
    rcases he with he | rfl | he
    · obtain ⟨names, hnames⟩ := hbelow
      have hlt : place ++ names < place := hnames ▸ hincreasing.2.2 _ he _ List.mem_cons_self
      exact List.not_lt.2 List.le_append_left hlt
    · exact heq rfl
    · exact hleaves.2.1.1 _ he rfl hbelow

/-! ## Steps -/

/-- A step, which must start from a directory. -/
def advance? (t : FileTree) (place : Place) (step : Component) : Option Place :=
  if t.isDirectory place then some (place.move step) else none

theorem advance?_eq_some_iff :
    t.advance? place step = some p ↔ t.isDirectory place = true ∧ p = place.move step := by
  unfold advance?
  rw [Option.ite_none_right_eq_some, Option.some.injEq]
  exact and_congr_right fun _ => eq_comm

theorem foldlM_advance?_concat :
    (steps ++ [step]).foldlM t.advance? place = some p ↔
      ∃ q, steps.foldlM t.advance? place = some q ∧ t.isDirectory q = true ∧ p = q.move step := by
  rw [List.foldlM_append]
  simp [Option.bind_eq_some_iff, advance?_eq_some_iff]

theorem eq_foldl_move (h : steps.foldlM t.advance? place = some p) :
    p = steps.foldl Place.move place := by
  induction steps using List.reverseRecOn generalizing p with
  | nil => exact (Option.some.inj h).symm
  | append_singleton steps step ih =>
    obtain ⟨q, hq, -, rfl⟩ := foldlM_advance?_concat.1 h
    rw [List.foldl_append, ← ih hq]
    rfl

/-- A walk that ends in a directory starts in one. -/
theorem isDirectory_of_foldlM_advance? (h : steps.foldlM t.advance? place = some p)
    (hp : t.isDirectory p = true) : t.isDirectory place = true := by
  cases steps with
  | nil => rwa [Option.some.inj h]
  | cons step steps =>
    obtain ⟨q, hq, -⟩ := Option.bind_eq_some_iff.1 h
    exact (advance?_eq_some_iff.1 hq).1

/-! ## Pieces and steps -/

theorem step?_of_isVoid (h : Path.isVoid piece = true) :
    t.step? place piece = if t.isDirectory place then some place else none := by
  unfold step?
  unfold Path.isVoid at h
  rw [if_pos h]
  cases t.isDirectory place <;> rfl

theorem step?_of_not_isVoid (h : Path.isVoid piece = false) :
    t.step? place piece = t.advance? place (Path.stepOf piece) := by
  unfold Path.isVoid at h
  simp only [Bool.or_eq_false_iff, decide_eq_false_iff_not] at h
  unfold step? advance? Path.stepOf
  simp only [h.1, h.2, decide_false, Bool.or_false, Bool.false_eq_true, if_false]
  cases t.isDirectory place with
  | false => rfl
  | true =>
    simp only [Bool.not_true, Bool.false_eq_true, if_false, if_true]
    split <;> rfl

/-- The first piece of a path is a step even if it is a dot. -/
theorem step?_of_ne_nil (h : t.isDirectory place = true) (hne : piece ≠ []) :
    t.step? place piece = some (place.move (Path.stepOf piece)) := by
  cases hvoid : Path.isVoid piece with
  | true =>
    have hdot : piece = ['.'] := by simpa [Path.isVoid, hne] using hvoid
    rw [step?_of_isVoid hvoid, if_pos h, hdot]
    rfl
  | false => rw [step?_of_not_isVoid hvoid, advance?, if_pos h]

theorem foldlM_advance?_stepsOf (h : ps.foldlM t.step? place = some p) :
    (Path.stepsOf false ps).foldlM t.advance? place = some p := by
  induction ps generalizing place with
  | nil => exact h
  | cons piece ps ih =>
    obtain ⟨q, hq, hrest⟩ := Option.bind_eq_some_iff.1 h
    rw [Path.stepsOf_false_cons]
    cases hvoid : Path.isVoid piece with
    | true =>
      rw [step?_of_isVoid hvoid] at hq
      split at hq
      · obtain rfl := Option.some.inj hq
        exact ih hrest
      · cases hq
    | false =>
      rw [step?_of_not_isVoid hvoid] at hq
      exact Option.bind_eq_some_iff.2 ⟨q, hq, ih hrest⟩

/-- Where the steps lead, the pieces lead as well, if that is a directory. -/
theorem foldlM_step?_of_stepsOf (h : (Path.stepsOf false ps).foldlM t.advance? place = some p)
    (hp : t.isDirectory p = true) : ps.foldlM t.step? place = some p := by
  induction ps generalizing place with
  | nil => exact h
  | cons piece ps ih =>
    rw [Path.stepsOf_false_cons] at h
    cases hvoid : Path.isVoid piece with
    | true =>
      rw [hvoid, if_pos rfl] at h
      have hplace := isDirectory_of_foldlM_advance? h hp
      rw [List.foldlM_cons, step?_of_isVoid hvoid, if_pos hplace]
      exact ih h
    | false =>
      rw [hvoid, if_neg Bool.false_ne_true] at h
      obtain ⟨q, hq, hrest⟩ := Option.bind_eq_some_iff.1 h
      rw [List.foldlM_cons, step?_of_not_isVoid hvoid]
      exact Option.bind_eq_some_iff.2 ⟨q, hq, ih hrest⟩

/-! ## Paths seen from a directory -/

/-- A path leads to a directory. -/
structure OpensAt (t : FileTree) (path : String) (place : Place) : Prop where
  foldlM_eq : (Path.pieces path.toList).foldlM t.step? [] = some place
  isDirectory : t.isDirectory place = true

/-- A path that is followed from a directory. -/
theorem OpensAt.foldlM_join (h : t.OpensAt base p) (hbase : base ≠ "")
    (hpath : Path.isAbsolute path = false) :
    (Path.pieces (Path.join base path).toList).foldlM t.step? [] =
      (Path.pieces path.toList).foldlM t.step? p := by
  obtain ⟨front, hpieces, hfront⟩ := Path.exists_pieces_join hpath hbase
  have hwalk : front.foldlM t.step? [] = some p := by
    rcases hfront with hfront | hfront
    · rw [← hfront, h.foldlM_eq]
    · have hwalk := h.foldlM_eq
      rw [hfront, List.foldlM_append] at hwalk
      obtain ⟨q, hq, hlast⟩ := Option.bind_eq_some_iff.1 hwalk
      have hqp : q = p := Option.some.inj (foldlM_advance?_stepsOf hlast)
      rw [hq, hqp]
  rw [hpieces, List.foldlM_append, hwalk]
  rfl

/-- A path leads its first step, and then on along its other pieces. -/
theorem OpensAt.exists_start (h : t.OpensAt directory cwd) (hne : directory ≠ "") (path : String) :
    ∃ steps start ps, Path.components path = steps ++ Path.stepsOf false ps ∧
      steps.foldlM t.advance? cwd = some start ∧
      (Path.pieces (Path.join directory path).toList).foldlM t.step? [] = ps.foldlM t.step? start := by
  have hcwd : ∀ step, t.advance? cwd step = some (cwd.move step) := fun step =>
    advance?_eq_some_iff.2 ⟨h.isDirectory, rfl⟩
  cases habsolute : Path.isAbsolute path with
  | true =>
    obtain ⟨cs, hcs⟩ := List.head?_eq_some_iff.1 (eq_of_beq habsolute)
    refine ⟨[.root], [], Path.pieces cs, ?_, ?_, ?_⟩
    · rw [Path.components_eq_stepsOfChars, hcs, Path.stepsOfChars_slash]
      rfl
    · rw [List.foldlM_cons, hcwd]
      rfl
    · rw [Path.join_of_isAbsolute _ habsolute, hcs, Path.pieces_slash]
      rfl
  | false =>
    rw [h.foldlM_join hne habsolute]
    cases hcs : path.toList with
    | nil => exact ⟨[], cwd, [[]], Path.components_eq_nil (congrArg Path.pieces hcs), rfl, rfl⟩
    | cons c cs =>
      have hc : c ≠ '/' := by
        rintro rfl
        rw [Path.isAbsolute, hcs] at habsolute
        cases habsolute
      obtain ⟨front, others, hfront⟩ := List.exists_cons_of_ne_nil (Path.pieces_ne_nil cs)
      have hpieces := Path.pieces_cons_of_ne hc hfront
      refine ⟨[Path.stepOf (c :: front)], cwd.move (Path.stepOf (c :: front)), others, ?_, ?_, ?_⟩
      · rw [Path.components_eq_stepsOfChars, hcs, Path.stepsOfChars_of_ne hc, hpieces]
        exact Path.stepsOf_true_cons (List.cons_ne_nil c front) others
      · rw [List.foldlM_cons, hcwd]
        rfl
      · rw [hpieces, List.foldlM_cons, step?_of_ne_nil h.isDirectory (List.cons_ne_nil c front)]
        rfl

/-- Where the pieces of a path lead, its steps lead. -/
theorem OpensAt.foldlM_advance?_of_join (h : t.OpensAt directory cwd) (hne : directory ≠ "")
    (hwalk : (Path.pieces (Path.join directory path).toList).foldlM t.step? [] = some p) :
    (Path.components path).foldlM t.advance? cwd = some p := by
  obtain ⟨steps, start, ps, hsteps, hstart, hjoin⟩ := h.exists_start hne path
  rw [hjoin] at hwalk
  rw [hsteps, List.foldlM_append, hstart]
  exact foldlM_advance?_stepsOf hwalk

/-- Where the steps of a path lead, its pieces lead as well, if that is a directory. -/
theorem OpensAt.join (h : t.OpensAt directory cwd) (hne : directory ≠ "")
    (hwalk : (Path.components path).foldlM t.advance? cwd = some p)
    (hp : t.isDirectory p = true) : t.OpensAt (Path.join directory path) p := by
  obtain ⟨steps, start, ps, hsteps, hstart, hjoin⟩ := h.exists_start hne path
  refine ⟨?_, hp⟩
  rw [hsteps, List.foldlM_append, hstart] at hwalk
  rw [hjoin]
  exact foldlM_step?_of_stepsOf hwalk hp

theorem locate?_eq_some_of_isFile (h : (Path.pieces path.toList).foldlM t.step? [] = some place)
    (hfile : t.isFile place = true) : t.locate? path = some place := by
  rw [locate?, h, Option.filter_some, has, hfile, Bool.true_or, if_pos rfl]

theorem isAbsolute_of_isFileName (h : isFileName name = true) : Path.isAbsolute name = false :=
  Path.isAbsolute_relativePath (List.forall_mem_singleton.2 h)

/-- A file in the directory that a path leads to. -/
theorem OpensAt.locate?_join_name (h : t.OpensAt directory cwd) (hne : directory ≠ "")
    (hname : isFileName name = true) (hwalk : (Path.components path).foldlM t.advance? cwd = some p)
    (hfile : t.isFile (p ++ [name]) = true) :
    t.locate? (Path.join directory (Path.join path name)) = some (p ++ [name]) := by
  have hdirectory := isDirectory_of_isFile_append hfile
  have hopens := h.join hne hwalk hdirectory
  obtain ⟨hempty, hdot, hdots, hslash⟩ := Path.isFileName_iff.1 hname
  refine locate?_eq_some_of_isFile ?_ hfile
  rw [← Path.join_assoc, hopens.foldlM_join (Path.join_ne_empty hne path)
    (isAbsolute_of_isFileName hname), Path.pieces_of_notMem hslash, List.foldlM_cons,
    step?_of_ne_nil hdirectory hempty, Path.stepOf, if_neg hdot, if_neg hdots, String.ofList_toList]
  rfl

theorem OpensAt.isFileAt_join_name (h : t.OpensAt directory cwd) (hne : directory ≠ "")
    (hname : isFileName name = true)
    (hwalk : (Path.components path).foldlM t.advance? cwd = some p) :
    t.isFileAt (Path.join directory (Path.join path name)) = t.isFile (p ++ [name]) := by
  have hsteps : Path.components (Path.join path name) = Path.components path ++ [.name name] := by
    have hnames : ∀ n ∈ [name], isFileName n = true := List.forall_mem_singleton.2 hname
    have hjoin := Path.components_join_relativePath path hnames
    rwa [Selection.relativePath, Text.join] at hjoin
  rw [Bool.eq_iff_iff]
  constructor
  · intro hat
    obtain ⟨place, hplace, hfile⟩ := (Option.any_eq_true _ _).1 hat
    have hadvance := h.foldlM_advance?_of_join hne (Option.filter_eq_some_iff.1 hplace).1
    rw [hsteps] at hadvance
    obtain ⟨q, hq, -, rfl⟩ := foldlM_advance?_concat.1 hadvance
    obtain rfl := Option.some.inj (hwalk.symm.trans hq)
    exact hfile
  · intro hfile
    rw [isFileAt, h.locate?_join_name hne hname hwalk hfile, Option.any_some, hfile]

end FileTree

end JavaLint
