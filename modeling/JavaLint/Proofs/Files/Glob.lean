import JavaLint.Files.Glob
import JavaLint.Proofs.Files.Ancestors
/-!
# Patterns and the directories above a root

A pattern is matched against the path of a file from the root and against its
absolute path. This file says of two kinds of patterns which paths they match:
of patterns that start with an ordinary character, and of those for all that is
below directories with a certain name. The first match no absolute path, and the
others match one if the name is among the steps of the root.

## Main definitions

- `Glob.isPlain` — names without special characters
- `Glob.below` — the pattern for all that is below directories with a name
- `Glob.IsBlindTo` — patterns that do not see the directories above a root

## Main statements

- `Glob.accepts_eq_false_of_isAbsolute` — a pattern that starts with an ordinary character matches
  no absolute path
- `Glob.accepts_below_iff` — what is below a directory has the name of it among its steps
- `Glob.IsBlindTo.accepts_relativePath` — what such a pattern matches, it matches from the root
-/

namespace JavaLint

/-- The first piece of a path ends at a slash, if there is another piece. -/
theorem Path.exists_eq_append_of_pieces {cs first : List Char} {rest : List (List Char)}
    (h : pieces cs = first :: rest) :
    (rest ≠ [] → ∃ after, cs = first ++ '/' :: after) ∧
      ∀ piece ∈ rest.dropLast, ∃ before after, cs = before ++ '/' :: (piece ++ '/' :: after) := by
  induction cs generalizing first rest with
  | nil =>
    obtain ⟨rfl, rfl⟩ := List.cons.inj h
    exact ⟨fun hne => absurd rfl hne, nofun⟩
  | cons c cs ih =>
    obtain ⟨first', rest', hcs⟩ := List.exists_cons_of_ne_nil (pieces_ne_nil cs)
    obtain ⟨hfirst, hrest⟩ := ih hcs
    by_cases hc : c = '/'
    · rw [hc, pieces_slash, hcs] at h
      obtain ⟨rfl, rfl⟩ := List.cons.inj h
      refine ⟨fun _ => ⟨cs, by rw [hc]; rfl⟩, fun piece hpiece => ?_⟩
      by_cases hnil : rest' = []
      · rw [hnil] at hpiece
        cases hpiece
      · rw [List.dropLast_cons_of_ne_nil hnil] at hpiece
        rcases List.mem_cons.1 hpiece with rfl | hpiece
        · obtain ⟨after, hafter⟩ := hfirst hnil
          exact ⟨[], after, by rw [hc, hafter]; rfl⟩
        · obtain ⟨before, after, hsplit⟩ := hrest piece hpiece
          exact ⟨c :: before, after, by rw [hsplit]; rfl⟩
    · rw [pieces_cons_of_ne hc hcs] at h
      obtain ⟨rfl, rfl⟩ := List.cons.inj h
      refine ⟨fun hne => ?_, fun piece hpiece => ?_⟩
      · obtain ⟨after, hafter⟩ := hfirst hne
        exact ⟨after, by rw [hafter]; rfl⟩
      · obtain ⟨before, after, hsplit⟩ := hrest piece hpiece
        exact ⟨c :: before, after, by rw [hsplit]; rfl⟩

/-- A piece with a slash behind it is one of the pieces but the last one. -/
theorem Path.mem_dropLast_pieces_iff {cs piece : List Char} :
    piece ∈ (pieces cs).dropLast ↔ '/' ∉ piece ∧ ∃ after, cs = piece ++ '/' :: after ∨
      ∃ before, cs = before ++ '/' :: (piece ++ '/' :: after) := by
  have hlast : ∀ after, '/' ∉ piece → piece ∈ (pieces (piece ++ '/' :: after)).dropLast := by
    intro after hslash
    rw [pieces_append, pieces_of_notMem hslash, List.singleton_append,
      List.dropLast_cons_of_ne_nil (pieces_ne_nil after)]
    exact List.mem_cons_self
  constructor
  · intro hpiece
    refine ⟨notMem_of_mem_pieces (List.mem_of_mem_dropLast hpiece), ?_⟩
    obtain ⟨first, rest, h⟩ := List.exists_cons_of_ne_nil (pieces_ne_nil cs)
    obtain ⟨hfirst, hrest⟩ := exists_eq_append_of_pieces h
    rw [h] at hpiece
    by_cases hnil : rest = []
    · rw [hnil] at hpiece
      cases hpiece
    · rw [List.dropLast_cons_of_ne_nil hnil] at hpiece
      rcases List.mem_cons.1 hpiece with rfl | hpiece
      · obtain ⟨after, hafter⟩ := hfirst hnil
        exact ⟨after, .inl hafter⟩
      · obtain ⟨before, after, hsplit⟩ := hrest piece hpiece
        exact ⟨after, .inr ⟨before, hsplit⟩⟩
  · rintro ⟨hslash, after, rfl | ⟨before, rfl⟩⟩
    · exact hlast after hslash
    · rw [pieces_append, List.dropLast_append_of_ne_nil (pieces_ne_nil _)]
      exact List.mem_append_right _ (hlast after hslash)

namespace Glob

variable {c : Char} {cs rest v : List Char} {name text path root : String} {g : Glob}
  {todo : List (List Char)} {parts : List Part} {names : Place}

/-! ## Parts -/

/-- Is a character one of those that patterns give a meaning to? -/
def isSpecial (c : Char) : Bool :=
  c == '*' || c == '?' || c == '['

/-- Is a text the name of a file, without special characters? -/
def isPlain (name : String) : Bool :=
  isFileName name && name.toList.all fun c => !isSpecial c

/-- The pattern for all that is below directories with a name. -/
def below (name : String) : String :=
  "**/" ++ name ++ "/**"

theorem parts?_cons (h : isSpecial c = false) (atStep : Bool) (rest : List Char) :
    parts? atStep (c :: rest) = (parts? (c == '/') rest).map (.literal c :: ·) := by
  unfold isSpecial at h
  simp only [Bool.or_eq_false_iff, beq_eq_false_iff_ne, ne_eq] at h
  obtain ⟨⟨hstar, hquestion⟩, hbracket⟩ := h
  rw [parts?]
  all_goals intros; contradiction

/-- Ordinary characters up to a slash stand for themselves, and then a step starts. -/
theorem parts?_append (h : ∀ c ∈ cs, isSpecial c = false) (atStep : Bool) (rest : List Char) :
    parts? atStep (cs ++ '/' :: rest) =
      (parts? true rest).map (cs.map .literal ++ .literal '/' :: ·) := by
  induction cs generalizing atStep with
  | nil => exact parts?_cons rfl atStep rest
  | cons c cs ih =>
    obtain ⟨hc, hcs⟩ := List.forall_mem_cons.1 h
    rw [List.cons_append, parts?_cons hc, ih hcs, Option.map_map]
    rfl

theorem parse?_below (h : isPlain name = true) :
    parse? (below name) =
      some ⟨.anySteps :: (name.toList.map .literal ++ [.literal '/', .anySteps])⟩ := by
  unfold isPlain at h
  rw [Bool.and_eq_true, List.all_eq_true] at h
  have hordinary : ∀ c ∈ name.toList, isSpecial c = false := fun c hc => by simpa using h.2 c hc
  have htext : (below name).toList = '*' :: '*' :: '/' :: (name.toList ++ '/' :: ['*', '*']) := by
    rw [below, String.toList_append, String.toList_append]
    rfl
  have hlast : parts? true ['*', '*'] = some [.anySteps] := by
    rw [parts?]
    rfl
  rw [parse?, htext, parts?, if_pos rfl, parts?_append hordinary, hlast]
  rfl

/-! ## Matching -/

theorem accepts_iff : g.accepts path = true ↔ [] ∈ g.parts.foldl Part.step [path.toList] := by
  unfold accepts
  exact List.contains_iff_mem

theorem foldl_step_nil (parts : List Part) : parts.foldl Part.step [] = [] := by
  induction parts with
  | nil => rfl
  | cons part parts ih =>
    have hstep : part.step [] = [] := by cases part <;> rfl
    rw [List.foldl_cons, hstep, ih]

theorem mem_step_literal : v ∈ (Part.literal c).step todo ↔ c :: v ∈ todo := by
  unfold Part.step
  rw [List.mem_filterMap]
  constructor
  · rintro ⟨cs, hcs, hdrop⟩
    cases cs with
    | nil => cases hdrop
    | cons d cs =>
      rw [dropOne?, Option.ite_none_right_eq_some] at hdrop
      obtain ⟨hd, hv⟩ := hdrop
      rw [← eq_of_beq hd, ← Option.some.inj hv]
      exact hcs
  · intro h
    exact ⟨_, h, by simp [dropOne?]⟩

theorem mem_foldl_literal :
    v ∈ (cs.map Part.literal).foldl Part.step todo ↔ cs ++ v ∈ todo := by
  induction cs generalizing todo with
  | nil => rfl
  | cons c cs ih =>
    rw [List.map_cons, List.foldl_cons, ih, mem_step_literal]
    rfl

theorem mem_tailsAfterSlash : v ∈ tailsAfterSlash cs ↔ ∃ before, cs = before ++ '/' :: v := by
  induction cs with
  | nil => simp [tailsAfterSlash]
  | cons c cs ih =>
    have hcons : (∃ before, c :: cs = before ++ '/' :: v) ↔
        c = '/' ∧ cs = v ∨ ∃ before, cs = before ++ '/' :: v := by
      constructor
      · rintro ⟨before, hbefore⟩
        cases before with
        | nil => exact .inl (List.cons.inj hbefore)
        | cons d before => exact .inr ⟨before, (List.cons.inj hbefore).2⟩
      · rintro (⟨rfl, rfl⟩ | ⟨before, rfl⟩)
        · exact ⟨[], rfl⟩
        · exact ⟨c :: before, rfl⟩
    rw [hcons, tailsAfterSlash, ← ih]
    by_cases hc : c = '/'
    · rw [if_pos hc, List.mem_cons, and_iff_right hc, eq_comm]
    · rw [if_neg hc, or_iff_right fun h => hc h.1]

theorem nil_mem_step_anySteps : [] ∈ Part.anySteps.step todo ↔ ∃ v, v ∈ todo := by
  cases todo with
  | nil => simp [Part.step]
  | cons longest todo => simp [Part.step]

/-- A pattern that starts with an ordinary character matches no absolute path. -/
theorem accepts_eq_false_of_isAbsolute (hg : parse? text = some g)
    (h : ∀ c, text.toList.head? = some c → isSpecial c = false ∧ c ≠ '/')
    (hpath : Path.isAbsolute path = true) : g.accepts path = false := by
  obtain ⟨cs, hcs⟩ := List.head?_eq_some_iff.1 (eq_of_beq hpath)
  obtain ⟨parts, hparts, rfl⟩ := Option.map_eq_some_iff.1 hg
  rw [← Bool.not_eq_true, accepts_iff, hcs]
  cases htext : text.toList with
  | nil =>
    rw [htext, parts?] at hparts
    obtain rfl := Option.some.inj hparts
    simp
  | cons c rest =>
    obtain ⟨hc, hslash⟩ := h c (by rw [htext, List.head?_cons])
    rw [htext, parts?_cons hc] at hparts
    obtain ⟨parts, -, rfl⟩ := Option.map_eq_some_iff.1 hparts
    have hstep : (Part.literal c).step ['/' :: cs] = [] := by
      simp [Part.step, dropOne?, Ne.symm hslash]
    rw [List.foldl_cons, hstep, foldl_step_nil]
    exact List.not_mem_nil

/-- What is below a directory has the name of it among the steps of its path. -/
theorem accepts_below_iff (hname : isPlain name = true) (hg : parse? (below name) = some g) :
    g.accepts path = true ↔ name.toList ∈ (Path.pieces path.toList).dropLast := by
  obtain rfl := Option.some.inj ((parse?_below hname).symm.trans hg)
  obtain ⟨hne, -, -, hslash⟩ := Path.isFileName_iff.1 (Bool.and_eq_true_iff.1 hname).1
  rw [accepts_iff, Path.mem_dropLast_pieces_iff, and_iff_right hslash, List.foldl_cons,
    List.foldl_append]
  change [] ∈ Part.anySteps.step ((Part.literal '/').step _) ↔ _
  rw [nil_mem_step_anySteps]
  refine exists_congr fun after => ?_
  rw [mem_step_literal, mem_foldl_literal]
  change name.toList ++ '/' :: after ∈ [path.toList] ++ tailsAfterSlash path.toList ++ [[]] ↔ _
  rw [List.mem_append, List.mem_append, List.mem_singleton, List.mem_singleton,
    mem_tailsAfterSlash, or_iff_left (by simp), eq_comm]

/-! ## Files below a root -/

/-- Below a root, the pattern for all that is below directories with a name sees
    the steps of the root, and those of the path of the file but the last one. -/
theorem accepts_below_join_iff (hname : isPlain name = true) (hg : parse? (below name) = some g)
    (hroot : root ≠ "") (hnames : ∀ name ∈ names, isFileName name = true) :
    g.accepts (Path.join root (Selection.relativePath names)) = true ↔
      .name name ∈ Path.components root ∨ g.accepts (Selection.relativePath names) = true := by
  have hfile : isFileName name = true := (Bool.and_eq_true_iff.1 hname).1
  have hempty : name.toList ∉ [[]] := by
    rw [List.mem_singleton]
    exact (Path.isFileName_iff.1 hfile).1
  obtain ⟨front, hpieces, hfront⟩ :=
    Path.exists_pieces_join (Path.isAbsolute_relativePath hnames) hroot
  have hsteps : .name name ∈ Path.components root ↔ name.toList ∈ front := by
    rw [Path.name_mem_components_iff hfile]
    rcases hfront with hfront | hfront
    · rw [hfront]
    · rw [hfront, List.mem_append, or_iff_left hempty]
  rw [accepts_below_iff hname hg, accepts_below_iff hname hg, hsteps, hpieces,
    List.dropLast_append_of_ne_nil (Path.pieces_ne_nil _), List.mem_append]

/-- The directories above a root make no difference to a pattern. -/
inductive IsBlindTo (root : String) : String → Prop where
  /-- It starts with an ordinary character. -/
  | ordinary {text : String} : (∀ c, text.toList.head? = some c → isSpecial c = false ∧ c ≠ '/') →
      IsBlindTo root text
  /-- It is about directories with a name that is no step of the root. -/
  | below {name : String} : isPlain name = true → .name name ∉ Path.components root →
      IsBlindTo root (below name)

/-- What a pattern matches that does not see the directories above a root, it
    matches from the root. -/
theorem IsBlindTo.accepts_relativePath (h : IsBlindTo root text) (hg : parse? text = some g)
    (hroot : Path.isAbsolute root = true)
    (hnames : ∀ name ∈ names, isFileName name = true)
    (haccepts : g.accepts (Path.join root (Selection.relativePath names)) = true) :
    g.accepts (Selection.relativePath names) = true := by
  have hempty : root ≠ "" := by
    rintro rfl
    cases hroot
  cases h with
  | ordinary hfirst =>
    have habsolute : Path.isAbsolute (Path.join root (Selection.relativePath names)) = true := by
      rw [Path.join_of_relative (Path.isAbsolute_relativePath hnames) hempty,
        Path.isAbsolute_append (Path.withSlash_ne_empty hempty), Path.isAbsolute_withSlash hempty,
        hroot]
    rw [accepts_eq_false_of_isAbsolute hg hfirst habsolute] at haccepts
    cases haccepts
  | below hname hstep =>
    exact ((accepts_below_join_iff hname hg hempty hnames).1 haccepts).resolve_left hstep

end Glob

end JavaLint
