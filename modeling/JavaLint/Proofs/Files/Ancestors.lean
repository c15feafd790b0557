import JavaLint.Proofs.Files.Path
import Mathlib.Data.List.DropRight
import Mathlib.Data.List.Infix
/-!
# The paths above a path

The parent of a path is found in its text: pieces that are no steps are cut off
at the end, then the last piece, then again pieces that are no steps. This file
says what that means for the steps of the path.

## Main definitions

- `Path.stepsAbove` — the steps of a path, those without the last one, and so on

## Main statements

- `Path.parent?_cases` — the parent of a path lacks its last step
- `Path.map_components_ancestors` — the steps of the paths above a path
- `Path.exists_names_of_components` — a path without steps up
-/

namespace JavaLint.Path

variable {path name : String} {piece first : List Char} {rest ps ps' : List (List Char)}
  {steps : List Component} {step : Component}

/-! ## Pieces and steps -/

theorem pieces_nil : pieces [] = [[]] :=
  rfl

theorem pieces_slash (cs : List Char) : pieces ('/' :: cs) = [] :: pieces cs :=
  pieces_append [] cs

theorem pieces_ne_nil (cs : List Char) : pieces cs ≠ [] := by
  rw [pieces, Text.splitChars_eq_splitOnP]
  exact List.splitOnP_ne_nil _ _

/-- A character that is no slash belongs to the first piece. -/
theorem pieces_cons_of_ne {c : Char} (hc : c ≠ '/') {cs : List Char}
    (h : pieces cs = first :: rest) : pieces (c :: cs) = (c :: first) :: rest := by
  rw [pieces] at h ⊢
  rw [Text.splitChars, h]
  exact if_neg (by simpa using hc)

theorem notMem_of_mem_pieces {cs : List Char} (h : piece ∈ pieces cs) : '/' ∉ piece := by
  induction cs generalizing piece with
  | nil =>
    rw [List.mem_singleton.1 h]
    exact List.not_mem_nil
  | cons c cs ih =>
    by_cases hc : c = '/'
    · rw [hc, pieces_slash] at h
      rcases List.mem_cons.1 h with rfl | h
      · exact List.not_mem_nil
      · exact ih h
    · obtain ⟨first, rest, hcs⟩ := List.exists_cons_of_ne_nil (pieces_ne_nil cs)
      rw [pieces_cons_of_ne hc hcs] at h
      rw [hcs] at ih
      rcases List.mem_cons.1 h with rfl | h
      · rw [List.mem_cons, not_or]
        exact ⟨Ne.symm hc, ih List.mem_cons_self⟩
      · exact ih (List.mem_cons_of_mem _ h)

/-- There is a piece more than there are slashes. -/
theorem length_flatten_pieces (cs : List Char) :
    (pieces cs).flatten.length + (pieces cs).length = cs.length + 1 := by
  induction cs with
  | nil => rfl
  | cons c cs ih =>
    by_cases hc : c = '/'
    · rw [hc, pieces_slash, List.flatten_cons, List.nil_append, List.length_cons, List.length_cons,
        ← ih]
      omega
    · obtain ⟨first, rest, hcs⟩ := List.exists_cons_of_ne_nil (pieces_ne_nil cs)
      rw [hcs] at ih
      rw [pieces_cons_of_ne hc hcs]
      simp only [List.flatten_cons, List.length_append, List.length_cons] at ih ⊢
      omega

/-- Is a piece behind the first one no step? -/
def isVoid (piece : List Char) : Bool :=
  piece = [] || piece = ['.']

/-- The step that a piece stands for. -/
def stepOf (piece : List Char) : Component :=
  if piece = ['.'] then .current
  else if piece = ['.', '.'] then .parent
  else .name (String.ofList piece)

theorem stepOf_ne_root (piece : List Char) : stepOf piece ≠ .root := by
  unfold stepOf
  split
  · nofun
  · split <;> nofun

/-- The step that the first piece of a path stands for. If it is empty, there is
    a slash in front. -/
def headStep (first : List Char) : Component :=
  if first = [] then .root else stepOf first

theorem stepsOf_false_cons (piece : List Char) (rest : List (List Char)) :
    stepsOf false (piece :: rest) =
      if isVoid piece then stepsOf false rest else stepOf piece :: stepsOf false rest := by
  rw [stepsOf, isVoid, stepOf]
  by_cases hempty : piece = []
  · simp [hempty]
  · by_cases hdot : piece = ['.']
    · simp [hdot]
    · by_cases hdots : piece = ['.', '.']
      · simp [hdots]
      · simp [hempty, hdot, hdots]

theorem stepsOf_true_cons (h : first ≠ []) (rest : List (List Char)) :
    stepsOf true (first :: rest) = stepOf first :: stepsOf false rest := by
  rw [stepsOf, stepOf, if_neg h]
  by_cases hdot : first = ['.']
  · simp [hdot]
  · by_cases hdots : first = ['.', '.']
    · simp [hdots]
    · simp [hdot, hdots]

theorem stepsOf_false_append (ps ps' : List (List Char)) :
    stepsOf false (ps ++ ps') = stepsOf false ps ++ stepsOf false ps' := by
  induction ps with
  | nil => rfl
  | cons piece ps ih =>
    rw [List.cons_append, stepsOf_false_cons, stepsOf_false_cons, ih]
    split
    · rfl
    · rfl

theorem components_eq_nil (h : pieces path.toList = [[]]) : components path = [] := by
  cases hcs : path.toList with
  | nil => rw [components_eq_stepsOfChars, hcs]; rfl
  | cons c cs =>
    rw [hcs] at h
    have hsum := length_flatten_pieces (c :: cs)
    rw [h] at hsum
    cases hsum

/-- The steps of a path that is not empty are those of its first piece and of the others. -/
theorem components_eq_cons (h : pieces path.toList = first :: rest) (hne : first :: rest ≠ [[]]) :
    components path = headStep first :: stepsOf false rest := by
  rw [components_eq_stepsOfChars]
  cases hcs : path.toList with
  | nil =>
    rw [hcs, pieces_nil] at h
    exact absurd h.symm hne
  | cons c cs =>
    rw [hcs] at h
    by_cases hc : c = '/'
    · rw [hc, pieces_slash] at h
      obtain ⟨rfl, rfl⟩ := List.cons.inj h
      rw [hc, stepsOfChars_slash, headStep, if_pos rfl]
    · obtain ⟨front, others, hfront⟩ := List.exists_cons_of_ne_nil (pieces_ne_nil cs)
      have hfirst : first ≠ [] := by
        rw [pieces_cons_of_ne hc hfront] at h
        rw [← (List.cons.inj h).1]
        exact List.cons_ne_nil c front
      rw [stepsOfChars_of_ne hc, h, stepsOf_true_cons hfirst, headStep, if_neg hfirst]

theorem name_mem_stepsOf_iff (h : isFileName name = true) (b : Bool) (ps : List (List Char)) :
    .name name ∈ stepsOf b ps ↔ name.toList ∈ ps := by
  obtain ⟨hempty, hdot, hdots, -⟩ := isFileName_iff.1 h
  induction ps generalizing b with
  | nil => simp [stepsOf]
  | cons piece ps ih =>
    rw [stepsOf, List.mem_cons]
    by_cases hpiece : piece = []
    · rw [if_pos hpiece, ih, hpiece, or_iff_right hempty]
    · rw [if_neg hpiece]
      by_cases hpiece : piece = ['.']
      · rw [if_pos hpiece, hpiece, or_iff_right hdot]
        cases b <;> simp [ih]
      · rw [if_neg hpiece]
        by_cases hpiece : piece = ['.', '.']
        · rw [if_pos hpiece, hpiece, or_iff_right hdots, List.mem_cons, ih,
          or_iff_right Component.noConfusion]
        · have hname : Component.name name = .name (String.ofList piece) ↔ name.toList = piece := by
            rw [Component.name.injEq, ← String.toList_inj, String.toList_ofList]
          rw [if_neg hpiece, List.mem_cons, ih, hname]

/-- A name is a step of a path just if it is one of its pieces. -/
theorem name_mem_components_iff (h : isFileName name = true) :
    .name name ∈ components path ↔ name.toList ∈ pieces path.toList := by
  rw [components_eq_stepsOfChars]
  unfold stepsOfChars
  split
  · next rest heq =>
    rw [heq, pieces_slash, List.mem_cons, List.mem_cons, name_mem_stepsOf_iff h, or_iff_right nofun,
      or_iff_right (isFileName_iff.1 h).1]
  · exact name_mem_stepsOf_iff h true _

theorem length_stepsOf_false_le (ps : List (List Char)) :
    (stepsOf false ps).length ≤ ps.flatten.length := by
  induction ps with
  | nil => exact Nat.le_refl 0
  | cons piece ps ih =>
    rw [stepsOf_false_cons, List.flatten_cons, List.length_append]
    split
    · exact ih.trans (Nat.le_add_left _ _)
    · next hvoid =>
      have hpos : 0 < piece.length := by
        rw [List.length_pos_iff]
        rintro rfl
        exact hvoid rfl
      rw [List.length_cons]
      omega

/-- A path has no more steps than characters. -/
theorem length_components_le (path : String) : (components path).length ≤ path.length := by
  obtain ⟨first, rest, h⟩ := List.exists_cons_of_ne_nil (pieces_ne_nil path.toList)
  by_cases hne : first :: rest = [[]]
  · rw [components_eq_nil (h.trans hne)]
    exact Nat.zero_le _
  · have hsum := length_flatten_pieces path.toList
    have hrest := length_stepsOf_false_le rest
    have hpos : 0 < first.length + rest.length := by
      rw [Nat.add_pos_iff_pos_or_pos, List.length_pos_iff, List.length_pos_iff]
      by_contra hnil
      rw [not_or, not_not, not_not] at hnil
      exact hne (by rw [hnil.1, hnil.2])
    rw [h, List.flatten_cons, List.length_append, List.length_cons] at hsum
    rw [components_eq_cons h hne, List.length_cons, ← String.length_toList]
    omega

/-! ## The parent -/

theorem trimPieces_cons (first : List Char) (rest : List (List Char)) :
    trimPieces (first :: rest) = first :: rest.rdropWhile isVoid :=
  rfl

/-- What is cut off at the end are no steps. -/
theorem stepsOf_rdropWhile (ps : List (List Char)) :
    stepsOf false (ps.rdropWhile isVoid) = stepsOf false ps := by
  induction ps using List.reverseRecOn with
  | nil => rfl
  | append_singleton ps piece ih =>
    by_cases hvoid : isVoid piece = true
    · rw [List.rdropWhile_concat_pos _ _ _ hvoid, ih, stepsOf_false_append, stepsOf_false_cons,
        if_pos hvoid]
      exact (List.append_nil _).symm
    · rw [List.rdropWhile_concat_neg _ _ _ hvoid]

theorem rdropWhile_isVoid_cases (ps : List (List Char)) :
    ps.rdropWhile isVoid = [] ∨
      ∃ front last, ps.rdropWhile isVoid = front ++ [last] ∧ isVoid last = false := by
  rcases List.eq_nil_or_concat (ps.rdropWhile isVoid) with hnone | ⟨front, last, hlast⟩
  · exact .inl hnone
  · rw [List.concat_eq_append] at hlast
    refine .inr ⟨front, last, hlast, ?_⟩
    have hnot := List.rdropWhile_last_not isVoid ps (by rw [hlast]; exact List.concat_ne_nil _ _)
    simpa [hlast] using hnot

/-- The path that pieces write. A single empty piece stands for the root. -/
def ofPieces : List (List Char) → String
  | [] => ""
  | [[]] => "/"
  | ps => Text.join "/" (ps.map String.ofList)

theorem components_ofPieces (h : ∀ piece ∈ first :: rest, '/' ∉ piece) :
    components (ofPieces (first :: rest)) = headStep first :: stepsOf false rest := by
  unfold ofPieces
  split
  · next heq => cases heq
  · next heq =>
    obtain ⟨rfl, rfl⟩ := List.cons.inj heq
    rfl
  · next hne => exact components_eq_cons (pieces_join (List.cons_ne_nil _ _) h) hne

/-- A path whose text ends in a step has the path in front of it as its parent. -/
theorem parent?_of_concat {front : List (List Char)} {last : List Char}
    (h : trimPieces (pieces path.toList) = first :: (front ++ [last])) :
    parent? path = some (ofPieces (first :: front.rdropWhile isVoid)) := by
  have hdrop : (first :: (front ++ [last])).dropLast = first :: front := by
    rw [← List.cons_append, List.dropLast_concat]
  unfold parent?
  rw [h]
  split
  · next heq => cases heq
  · next heq => exact absurd (List.cons.inj heq).2 (List.concat_ne_nil _ _)
  · rw [hdrop, trimPieces_cons]
    rcases first with - | ⟨c, cs⟩ <;> cases front.rdropWhile isVoid <;> rfl

/-- A path without steps or with the root alone has no parent. The parent of any
    other path lacks its last step. -/
theorem parent?_cases (path : String) :
    parent? path = none ∧ (components path = [] ∨ components path = [.root]) ∨
      ∃ parent step, parent? path = some parent ∧ step ≠ .root ∧
        components path = components parent ++ [step] := by
  obtain ⟨first, rest, h⟩ := List.exists_cons_of_ne_nil (pieces_ne_nil path.toList)
  have htrim : trimPieces (pieces path.toList) = first :: rest.rdropWhile isVoid :=
    congrArg trimPieces h
  by_cases hne : first :: rest = [[]]
  · obtain ⟨rfl, rfl⟩ := List.cons.inj hne
    refine .inl ⟨?_, .inl (components_eq_nil h)⟩
    unfold parent?
    rw [h]
    rfl
  have hsteps := components_eq_cons h hne
  rw [← stepsOf_rdropWhile rest] at hsteps
  rcases rdropWhile_isVoid_cases rest with hnone | ⟨front, last, hlast, hvoid⟩
  · -- the path has one step
    rw [hnone] at htrim hsteps
    by_cases hfirst : first = []
    · refine .inl ⟨?_, .inr (by rw [hsteps, headStep, if_pos hfirst]; rfl)⟩
      unfold parent?
      rw [htrim, hfirst]
    · refine .inr ⟨"", stepOf first, ?_, stepOf_ne_root first, ?_⟩
      · unfold parent?
        rw [htrim]
        split
        · next heq => cases heq
        · next heq => exact absurd (List.cons.inj heq).1 hfirst
        · rfl
      · rw [hsteps, headStep, if_neg hfirst]
        rfl
  · rw [hlast] at htrim hsteps
    refine .inr ⟨_, stepOf last, parent?_of_concat htrim, stepOf_ne_root last, ?_⟩
    have hprefix : front.rdropWhile isVoid <+: rest :=
      (List.rdropWhile_prefix isVoid front).trans
        ((List.prefix_append front [last]).trans (hlast ▸ List.rdropWhile_prefix isVoid rest))
    have hslash : ∀ piece ∈ first :: front.rdropWhile isVoid, '/' ∉ piece := fun piece hpiece =>
      notMem_of_mem_pieces (h ▸ List.cons_subset_cons first hprefix.subset hpiece)
    rw [hsteps, components_ofPieces hslash, stepsOf_rdropWhile, stepsOf_false_append,
      stepsOf_false_cons, hvoid]
    rfl

/-! ## The paths above -/

/-- The steps of a path, those without the last one, and so on. A path from the
    root goes up to the root, any other one to the empty path. -/
def stepsAbove : List Component → List (List Component)
  | .root :: rest => rest.inits.reverse.map (.root :: ·)
  | steps => steps.inits.reverse

theorem inits_concat {α : Type} (l : List α) (a : α) :
    (l ++ [a]).inits.reverse = (l ++ [a]) :: l.inits.reverse := by
  rw [List.inits_append]
  simp

theorem stepsAbove_concat (h : step ≠ .root) :
    stepsAbove (steps ++ [step]) = (steps ++ [step]) :: stepsAbove steps := by
  cases steps with
  | nil =>
    cases step with
    | root => exact absurd rfl h
    | current | parent | name => rfl
  | cons first rest =>
    cases first with
    | root =>
      rw [List.cons_append, stepsAbove, stepsAbove, inits_concat, List.map_cons]
    | current | parent | name =>
      exact inits_concat (_ :: rest) step

theorem map_components_ancestorsUpTo (count : Nat) (path : String)
    (h : (components path).length < count) :
    (ancestorsUpTo count path).map components = stepsAbove (components path) := by
  induction count generalizing path with
  | zero => exact absurd h (Nat.not_lt_zero _)
  | succ count ih =>
    rw [ancestorsUpTo, List.map_cons]
    rcases parent?_cases path with ⟨hparent, hsteps⟩ | ⟨parent, step, hparent, hstep, hsteps⟩
    · rw [hparent]
      rcases hsteps with hsteps | hsteps
      · rw [hsteps]
        rfl
      · rw [hsteps]
        rfl
    · rw [hsteps, List.length_append, List.length_singleton] at h
      rw [hparent, hsteps, stepsAbove_concat hstep, ih parent (Nat.lt_of_succ_lt_succ h)]

/-- The paths above a path have the steps of the path without the last ones. -/
theorem map_components_ancestors (path : String) :
    (ancestors path).map components = stepsAbove (components path) :=
  map_components_ancestorsUpTo _ path (Nat.lt_succ_of_le (length_components_le path))

theorem stepsAbove_of_head?_ne (h : steps.head? ≠ some .root) :
    stepsAbove steps = steps.inits.reverse := by
  unfold stepsAbove
  split
  · exact absurd rfl h
  · rfl

theorem isPrefix_of_mem_stepsAbove {front : List Component} (h : front ∈ stepsAbove steps) :
    front <+: steps := by
  unfold stepsAbove at h
  split at h
  · obtain ⟨front, hfront, rfl⟩ := List.mem_map.1 h
    exact List.cons_prefix_cons.2 ⟨rfl, (List.mem_inits _ _).1 (List.mem_reverse.1 hfront)⟩
  · exact (List.mem_inits _ _).1 (List.mem_reverse.1 h)

/-! ## Paths without steps up -/

theorem stepOf_cases (h : stepOf piece ≠ .parent) :
    piece = ['.'] ∨ stepOf piece = .name (String.ofList piece) := by
  by_cases hdot : piece = ['.']
  · exact .inl hdot
  · unfold stepOf at h ⊢
    rw [if_neg hdot] at h ⊢
    by_cases hdots : piece = ['.', '.']
    · exact absurd (if_pos hdots) h
    · exact .inr (if_neg hdots)

theorem exists_names_of_parent_notMem (h : Component.parent ∉ stepsOf false ps) :
    ∃ names : Place, stepsOf false ps = names.map .name := by
  induction ps with
  | nil => exact ⟨[], rfl⟩
  | cons piece ps ih =>
    rw [stepsOf_false_cons] at h ⊢
    cases hvoid : isVoid piece with
    | true =>
      rw [hvoid, if_pos rfl] at h
      exact ih h
    | false =>
      rw [hvoid, if_neg Bool.false_ne_true, List.mem_cons, not_or] at h
      obtain ⟨names, hnames⟩ := ih h.2
      have hstep : stepOf piece = .name (String.ofList piece) := by
        refine (stepOf_cases (Ne.symm h.1)).resolve_left ?_
        rintro rfl
        cases hvoid
      rw [if_neg Bool.false_ne_true, hnames, hstep]
      exact ⟨String.ofList piece :: names, rfl⟩

/-- A path without steps up consists of names, behind the root or a leading dot. -/
theorem exists_names_of_components (h : Component.parent ∉ components path) :
    ∃ (head : List Component) (names : Place), components path = head ++ names.map .name ∧
      (isAbsolute path = true ∧ head = [.root] ∨
        isAbsolute path = false ∧ (head = [] ∨ head = [.current])) := by
  rw [components_eq_stepsOfChars] at h ⊢
  unfold isAbsolute
  cases hcs : path.toList with
  | nil => exact ⟨[], [], rfl, .inr ⟨rfl, .inl rfl⟩⟩
  | cons c cs =>
    rw [hcs] at h
    by_cases hc : c = '/'
    · rw [hc, stepsOfChars_slash] at h ⊢
      obtain ⟨names, hnames⟩ := exists_names_of_parent_notMem (List.not_mem_of_not_mem_cons h)
      exact ⟨[.root], names, by rw [hnames]; rfl, .inl ⟨rfl, rfl⟩⟩
    · have hrelative : ((c :: cs).head? == some '/') = false := by simpa using hc
      obtain ⟨front, others, hfront⟩ := List.exists_cons_of_ne_nil (pieces_ne_nil cs)
      have hsteps : stepsOfChars (c :: cs) = stepOf (c :: front) :: stepsOf false others := by
        rw [stepsOfChars_of_ne hc, pieces_cons_of_ne hc hfront]
        exact stepsOf_true_cons (List.cons_ne_nil c front) others
      rw [hsteps, List.mem_cons, not_or] at h
      obtain ⟨names, hnames⟩ := exists_names_of_parent_notMem h.2
      rw [hsteps, hnames]
      rcases stepOf_cases (Ne.symm h.1) with hdot | hstep
      · exact ⟨[.current], names, by rw [hdot]; rfl, .inr ⟨hrelative, .inr rfl⟩⟩
      · exact ⟨[], _ :: names, by rw [hstep]; rfl, .inr ⟨hrelative, .inl rfl⟩⟩

end JavaLint.Path
