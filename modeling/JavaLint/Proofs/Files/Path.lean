import JavaLint.Files.Discovery
import JavaLint.Proofs.Text.Split
/-!
# Paths of files below a root

A file is listed by the names that lead to it from a root, and reported under
these names with slashes between them. The steps of such a path are the names
again. Paths therefore compare as the lists of names do, whether they are seen
from the root or not. Seen from a directory, a relative path has the pieces of
the directory in front of its own.

## Main statements

- `Path.components_relativePath` — the steps of the path of a file are its names
- `Path.exists_pieces_join` — the pieces of a path that is seen from a directory
- `Path.join_assoc` — seeing a path from a path that is itself seen from somewhere
- `Path.compare_relativePath_eq_lt_iff` — the paths of files compare as their names
- `Selection.compare_absolutePath` — the root in front does not change the order
-/

namespace JavaLint

namespace Path

variable {a b names : Place} {name : String} {ps : List (List Char)}
  {steps left right : List Component}

/-! ## Pieces -/

theorem pieces_of_notMem {cs : List Char} (h : '/' ∉ cs) : pieces cs = [cs] :=
  Text.splitChars_of_notMem h

theorem pieces_append (cs cs' : List Char) :
    pieces (cs ++ '/' :: cs') = pieces cs ++ pieces cs' :=
  Text.splitChars_append '/' cs cs'

theorem isFileName_iff :
    isFileName name = true ↔
      name.toList ≠ [] ∧ name.toList ≠ ['.'] ∧ name.toList ≠ ['.', '.'] ∧ '/' ∉ name.toList := by
  have hempty : name.toList = [] ↔ name = "" := @String.toList_inj name ""
  have hdot : name.toList = ['.'] ↔ name = "." := @String.toList_inj name "."
  have hdots : name.toList = ['.', '.'] ↔ name = ".." := @String.toList_inj name ".."
  simp only [ne_eq, hempty, hdot, hdots]
  simp [isFileName, and_assoc]

/-- The text of pieces has these pieces. -/
theorem pieces_join (hne : ps ≠ []) (h : ∀ piece ∈ ps, '/' ∉ piece) :
    pieces (Text.join "/" (ps.map String.ofList)).toList = ps :=
  Text.splitChars_join rfl hne h

/-- The pieces of the path of a file are the names that lead to it. -/
theorem pieces_relativePath (hne : names ≠ []) (h : ∀ name ∈ names, isFileName name = true) :
    pieces (Selection.relativePath names).toList = names.map String.toList := by
  have hslash : ∀ piece ∈ names.map String.toList, '/' ∉ piece := by
    rw [List.forall_mem_map]
    exact fun name hname => (isFileName_iff.1 (h name hname)).2.2.2
  have hnames : (names.map String.toList).map String.ofList = names := by
    simp [List.map_map, Function.comp_def]
  have hjoin := pieces_join (mt List.map_eq_nil_iff.1 hne) hslash
  rwa [hnames] at hjoin

/-! ## Steps -/

/-- What pieces contribute that do not depend on their place stands after the
    steps of the pieces in front. -/
theorem stepsOf_append {pieces' : List (List Char)} (h : ∀ first, stepsOf first pieces' = steps)
    (first : Bool) (pieces : List (List Char)) :
    stepsOf first (pieces ++ pieces') = stepsOf first pieces ++ steps := by
  induction pieces generalizing first with
  | nil => exact h first
  | cons piece pieces ih =>
    rw [List.cons_append]
    simp only [stepsOf]
    by_cases hempty : piece = []
    · rw [if_pos hempty, if_pos hempty, ih]
    · rw [if_neg hempty, if_neg hempty]
      by_cases hdot : piece = ['.']
      · rw [if_pos hdot, if_pos hdot]
        cases first <;> simp [ih]
      · rw [if_neg hdot, if_neg hdot]
        by_cases hdots : piece = ['.', '.']
        · rw [if_pos hdots, if_pos hdots, ih, List.cons_append]
        · rw [if_neg hdots, if_neg hdots, ih, List.cons_append]

theorem stepsOf_names (h : ∀ name ∈ names, isFileName name = true) (first : Bool) :
    stepsOf first (names.map String.toList) = names.map .name := by
  induction names generalizing first with
  | nil => rfl
  | cons name rest ih =>
    obtain ⟨hname, hrest⟩ := List.forall_mem_cons.1 h
    obtain ⟨hempty, hdot, hdots, -⟩ := isFileName_iff.1 hname
    rw [List.map_cons, stepsOf, if_neg hempty, if_neg hdot, if_neg hdots, ih hrest,
      String.ofList_toList, List.map_cons]

theorem stepsOf_pieces_relativePath (h : ∀ name ∈ names, isFileName name = true) (first : Bool) :
    stepsOf first (pieces (Selection.relativePath names).toList) = names.map .name := by
  by_cases hne : names = []
  · subst hne
    rfl
  · rw [pieces_relativePath hne h, stepsOf_names h]

/-- The steps of a path, given by its characters. -/
def stepsOfChars : List Char → List Component
  | '/' :: rest => .root :: stepsOf false (pieces rest)
  | cs => stepsOf true (pieces cs)

theorem components_eq_stepsOfChars (path : String) : components path = stepsOfChars path.toList :=
  rfl

theorem stepsOfChars_slash (cs : List Char) :
    stepsOfChars ('/' :: cs) = .root :: stepsOf false (pieces cs) :=
  rfl

theorem stepsOfChars_of_ne {c : Char} (hc : c ≠ '/') (cs : List Char) :
    stepsOfChars (c :: cs) = stepsOf true (pieces (c :: cs)) := by
  unfold stepsOfChars
  split
  · next heq => exact absurd (List.cons.inj heq).1 hc
  · rfl

/-- What follows a slash adds its steps to those in front of it. -/
theorem stepsOfChars_append {cs cs' : List Char} (hne : cs ≠ [])
    (h : ∀ first, stepsOf first (pieces cs') = steps) :
    stepsOfChars (cs ++ '/' :: cs') = stepsOfChars cs ++ steps := by
  cases cs with
  | nil => exact absurd rfl hne
  | cons c cs =>
    by_cases hc : c = '/'
    · subst hc
      rw [List.cons_append, stepsOfChars_slash, stepsOfChars_slash, pieces_append,
        stepsOf_append h, List.cons_append]
    · rw [List.cons_append, stepsOfChars_of_ne hc, stepsOfChars_of_ne hc, ← List.cons_append,
        pieces_append, stepsOf_append h]

/-- The path of a file does not start with a slash. -/
theorem relativePath_ne_slash (h : ∀ name ∈ names, isFileName name = true) {c : Char}
    {cs : List Char} (hchars : (Selection.relativePath names).toList = c :: cs) : c ≠ '/' := by
  rintro rfl
  cases names with
  | nil => cases hchars
  | cons name rest =>
    have hpieces := pieces_relativePath (List.cons_ne_nil name rest) h
    rw [hchars, ← List.nil_append ('/' :: cs), pieces_append, List.map_cons] at hpieces
    -- a slash at the start leaves an empty piece in front of it
    have hempty : [] = name.toList := (List.cons.inj hpieces).1
    exact (isFileName_iff.1 (h name List.mem_cons_self)).1 hempty.symm

/-- The steps of the path of a file are the names that lead to it. -/
theorem components_relativePath (h : ∀ name ∈ names, isFileName name = true) :
    components (Selection.relativePath names) = names.map .name := by
  rw [components_eq_stepsOfChars, ← stepsOf_pieces_relativePath h true]
  cases hchars : (Selection.relativePath names).toList with
  | nil => rfl
  | cons c cs => rw [stepsOfChars_of_ne (relativePath_ne_slash h hchars)]

theorem isAbsolute_relativePath (h : ∀ name ∈ names, isFileName name = true) :
    isAbsolute (Selection.relativePath names) = false := by
  unfold isAbsolute
  cases hchars : (Selection.relativePath names).toList with
  | nil => rfl
  | cons c cs => simpa using relativePath_ne_slash h hchars

/-- Seen from a directory, a file has its names as further steps. -/
theorem components_join_relativePath (base : String) (h : ∀ name ∈ names, isFileName name = true) :
    components (join base (Selection.relativePath names)) =
      components base ++ names.map .name := by
  have hsteps := stepsOf_pieces_relativePath h
  unfold join
  rw [isAbsolute_relativePath h, Bool.false_or]
  by_cases hempty : base.isEmpty = true
  · rw [if_pos hempty, components_relativePath h, String.isEmpty_iff.1 hempty]
    rfl
  · have hbase : base.toList ≠ [] := fun hnil => hempty (String.isEmpty_iff.2 (by simpa using hnil))
    rw [if_neg hempty]
    by_cases hslash : (base.toList.getLast? == some '/') = true
    · -- the slash is there already
      obtain ⟨front, hfront⟩ := List.getLast?_eq_some_iff.1 (eq_of_beq hslash)
      rw [if_pos hslash]
      simp only [components_eq_stepsOfChars, String.toList_append, hfront]
      rw [List.append_assoc, List.singleton_append]
      by_cases hroot : front = []
      · subst hroot
        rw [List.nil_append, List.nil_append, stepsOfChars_slash, stepsOfChars_slash, hsteps]
        rfl
      · have hend : ∀ first, stepsOf first (pieces []) = [] := fun _ => rfl
        rw [stepsOfChars_append hroot hsteps, stepsOfChars_append hroot hend, List.append_nil]
    · rw [if_neg hslash]
      simp only [components_eq_stepsOfChars, String.toList_append]
      rw [List.append_assoc]
      exact stepsOfChars_append hbase hsteps

/-! ## Joining -/

/-- A path that ends in a slash. -/
def withSlash (path : String) : String :=
  if path.toList.getLast? == some '/' then path else path ++ "/"

theorem join_of_isAbsolute {path : String} (base : String) (h : isAbsolute path = true) :
    join base path = path := by
  rw [join, h, Bool.true_or, if_pos rfl]

theorem join_of_relative {base path : String} (h : isAbsolute path = false) (hbase : base ≠ "") :
    join base path = withSlash base ++ path := by
  have hempty : base.isEmpty = false := by simpa [String.isEmpty_iff] using hbase
  unfold join withSlash
  rw [h, hempty, Bool.or_false, if_neg Bool.false_ne_true]
  split <;> rfl

theorem withSlash_ne_empty {path : String} (h : path ≠ "") : withSlash path ≠ "" := by
  unfold withSlash
  split
  · exact h
  · simp

theorem withSlash_append (base : String) {path : String} (h : path ≠ "") :
    withSlash (base ++ path) = base ++ withSlash path := by
  have hne : path.toList ≠ [] := by simpa using h
  have hlast : (base ++ path).toList.getLast? = path.toList.getLast? := by
    rw [String.toList_append, List.getLast?_append,
      Option.or_of_isSome (List.getLast?_isSome.2 hne)]
  unfold withSlash
  rw [hlast]
  split
  · rfl
  · exact String.append_assoc

theorem withSlash_withSlash (path : String) : withSlash (withSlash path) = withSlash path := by
  have hlast : ((withSlash path).toList.getLast? == some '/') = true := by
    unfold withSlash
    split
    · assumption
    · simp
  exact if_pos hlast

theorem isAbsolute_append {base : String} (h : base ≠ "") (path : String) :
    isAbsolute (base ++ path) = isAbsolute base := by
  unfold isAbsolute
  have hne : base.toList ≠ [] := by simpa using h
  rw [String.toList_append, List.head?_append, Option.or_of_isSome (List.isSome_head?.2 hne)]

theorem isAbsolute_withSlash {path : String} (h : path ≠ "") :
    isAbsolute (withSlash path) = isAbsolute path := by
  unfold withSlash
  split
  · rfl
  · exact isAbsolute_append h "/"

/-- A path seen from a base has the pieces of the base and its own. A slash at
    the end of the base counts for nothing. -/
theorem exists_pieces_join {base path : String} (h : isAbsolute path = false) (hbase : base ≠ "") :
    ∃ front, pieces (join base path).toList = front ++ pieces path.toList ∧
      (pieces base.toList = front ∨ pieces base.toList = front ++ [[]]) := by
  rw [join_of_relative h hbase, String.toList_append]
  unfold withSlash
  by_cases hslash : (base.toList.getLast? == some '/') = true
  · -- the slash is there already
    obtain ⟨front, hfront⟩ := List.getLast?_eq_some_iff.1 (eq_of_beq hslash)
    refine ⟨pieces front, ?_, .inr ?_⟩
    · rw [if_pos hslash, hfront, List.append_assoc, List.singleton_append, pieces_append]
    · rw [hfront, pieces_append]
      rfl
  · refine ⟨pieces base.toList, ?_, .inl rfl⟩
    rw [if_neg hslash, String.toList_append, List.append_assoc]
    exact pieces_append base.toList path.toList

theorem join_ne_empty {base : String} (h : base ≠ "") (path : String) : join base path ≠ "" := by
  cases hpath : isAbsolute path with
  | true =>
    rw [join_of_isAbsolute _ hpath]
    rintro rfl
    cases hpath
  | false =>
    rw [join_of_relative hpath h]
    intro hempty
    have hslash := withSlash_ne_empty h
    simp_all

/-- A path seen from a path that is itself seen from somewhere. -/
theorem join_assoc (a b c : String) : join (join a b) c = join a (join b c) := by
  cases hc : isAbsolute c with
  | true => rw [join_of_isAbsolute _ hc, join_of_isAbsolute _ hc, join_of_isAbsolute _ hc]
  | false =>
    cases hb : isAbsolute b with
    | true =>
      have hne : b ≠ "" := by
        rintro rfl
        cases hb
      have hbc : isAbsolute (join b c) = true := by
        rw [join_of_relative hc hne, isAbsolute_append (withSlash_ne_empty hne),
          isAbsolute_withSlash hne, hb]
      rw [join_of_isAbsolute _ hb, join_of_isAbsolute _ hbc]
    | false =>
      by_cases ha : a = ""
      · simp [join, ha]
      · have hempty : join "" c = c := by simp [join]
        have hjoin := join_of_relative hb ha
        by_cases hne : b = ""
        · rw [hne] at hjoin ⊢
          rw [hempty, hjoin, String.append_empty, join_of_relative hc (withSlash_ne_empty ha),
            join_of_relative hc ha, withSlash_withSlash]
        · have hbc : isAbsolute (join b c) = false := by
            rw [join_of_relative hc hne, isAbsolute_append (withSlash_ne_empty hne),
              isAbsolute_withSlash hne, hb]
          have hab : withSlash a ++ b ≠ "" := by
            intro h
            simp [hne] at h
          rw [hjoin, join_of_relative hc hab, join_of_relative hbc ha, join_of_relative hc hne,
            withSlash_append _ hne, String.append_assoc]

/-! ## Order -/

/-- Steps compare by kind, and by text among names. -/
theorem Component.compare_eq :
    Component.compare = compareLex (compareOn Component.rank) (compareOn Component.text) := by
  funext a b
  cases a <;> cases b <;> rfl

instance : Std.TransCmp Component.compare := by
  rw [Component.compare_eq]
  infer_instance

theorem compareSteps_eq : compareSteps = List.compareLex Component.compare := by
  funext a b
  induction a generalizing b with
  | nil => cases b <;> rfl
  | cons c a ih =>
    cases b with
    | nil => rfl
    | cons d b =>
      rw [compareSteps, ih, List.compareLex_cons_cons]

instance : Std.TransCmp compare := by
  have hsteps : Std.TransCmp compareSteps := by
    rw [compareSteps_eq]
    infer_instance
  exact { eq_swap := hsteps.eq_swap, isLE_trans := hsteps.isLE_trans }

theorem compare_self_component (c : Component) : c.compare c = .eq := by
  cases c with
  | name s => exact Std.ReflOrd.compare_self
  | root | current | parent => rfl

theorem compareSteps_append_left (front left right : List Component) :
    compareSteps (front ++ left) (front ++ right) = compareSteps left right := by
  induction front with
  | nil => rfl
  | cons c front ih =>
    rw [List.cons_append, List.cons_append, compareSteps, compare_self_component, ih]
    rfl

theorem compare_self (path : String) : compare path path = .eq := by
  have h := compareSteps_append_left (components path) [] []
  rw [List.append_nil] at h
  exact h

variable {path path' path'' : String}

theorem same_iff : same path path' = true ↔ components path = components path' :=
  beq_iff_eq

theorem same_self (path : String) : same path path = true :=
  same_iff.2 rfl

theorem same_symm (h : same path path' = true) : same path' path = true :=
  same_iff.2 (same_iff.1 h).symm

theorem same_trans (h : same path path' = true) (h' : same path' path'' = true) :
    same path path'' = true :=
  same_iff.2 ((same_iff.1 h).trans (same_iff.1 h'))

/-- Steps that compare equal are the same step. -/
theorem Component.eq_of_compare {s t : Component} (h : s.compare t = .eq) : s = t := by
  rw [Component.compare_eq, compareLex_eq_eq] at h
  obtain ⟨hrank, htext⟩ := h
  have hrank : s.rank = t.rank := Nat.compare_eq_eq.1 hrank
  have htext : s.text = t.text := Std.LawfulEqOrd.eq_of_compare htext
  cases s <;> cases t <;> simp_all [Component.rank, Component.text]

theorem eq_of_compareSteps {steps steps' : List Component} (h : compareSteps steps steps' = .eq) :
    steps = steps' := by
  induction steps generalizing steps' with
  | nil =>
    cases steps' with
    | nil => rfl
    | cons step' steps' => cases h
  | cons step steps ih =>
    cases steps' with
    | nil => cases h
    | cons step' steps' =>
      rw [compareSteps, Ordering.then_eq_eq] at h
      rw [Component.eq_of_compare h.1, ih h.2]

/-- Paths compare equal if they are the same path. -/
theorem compare_eq_eq_iff : compare path path' = .eq ↔ same path path' = true := by
  rw [same_iff]
  constructor
  · exact eq_of_compareSteps
  · intro h
    rw [compare, h]
    exact compare_self path'

instance : Trans (fun a b : String => compare a b = .lt) (fun a b => compare a b = .lt)
    fun a b => compare a b = .lt :=
  ⟨Std.TransCmp.lt_trans⟩

theorem ne_of_compare_eq_lt (h : compare path path' = .lt) :
    path ≠ path' := by
  rintro rfl
  rw [compare_self] at h
  cases h

theorem compareSteps_names : compareSteps (a.map .name) (b.map .name) = .lt ↔ a < b := by
  induction a generalizing b with
  | nil =>
    cases b with
    | nil => simp [compareSteps]
    | cons name b => simp [compareSteps]
  | cons name a ih =>
    cases b with
    | nil => simp [compareSteps]
    | cons name' b =>
      have hlt : Component.compare (.name name) (.name name') = .lt ↔ name < name' :=
        compareOfLessAndEq_eq_lt
      have heq : Component.compare (.name name) (.name name') = .eq ↔ name = name' :=
        Std.compare_eq_iff_eq
      rw [List.map_cons, List.map_cons, compareSteps, Ordering.then_eq_lt, ih, hlt, heq,
        List.cons_lt_cons_iff]

/-- The paths of files compare as the names that lead to them. -/
theorem compare_relativePath_eq_lt_iff (ha : ∀ name ∈ a, isFileName name = true)
    (hb : ∀ name ∈ b, isFileName name = true) :
    compare (Selection.relativePath a) (Selection.relativePath b) = .lt ↔ a < b := by
  rw [compare, components_relativePath ha, components_relativePath hb, compareSteps_names]

end Path

namespace Selection

variable {a b names : Place}

theorem components_absolutePath (s : Selection) (h : ∀ name ∈ names, isFileName name = true) :
    Path.components (s.absolutePath names) = Path.components s.root ++ names.map .name := by
  unfold absolutePath
  by_cases hnames : names = []
  · simp [hnames]
  · rw [if_neg (by simpa using hnames), Path.components_join_relativePath s.root h]

/-- The root in front of the paths of files does not change their order. -/
theorem compare_absolutePath (s : Selection) (ha : ∀ name ∈ a, isFileName name = true)
    (hb : ∀ name ∈ b, isFileName name = true) :
    Path.compare (s.absolutePath a) (s.absolutePath b) =
      Path.compare (relativePath a) (relativePath b) := by
  rw [Path.compare, Path.compare, s.components_absolutePath ha, s.components_absolutePath hb,
    Path.compareSteps_append_left, Path.components_relativePath ha, Path.components_relativePath hb]

end Selection

end JavaLint
