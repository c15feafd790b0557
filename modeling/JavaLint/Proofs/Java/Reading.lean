import JavaLint.Java.Extraction
import JavaLint.Proofs.Java.Cst
import JavaLint.Proofs.Java.Spacing
/-!
# Programs over tokens

The concrete syntax tree of a program says of each node with which token it
starts and before which one it ends. A text with these tokens has the same tree,
only that bytes stand for the numbers of tokens.

## Main definitions

- `Java.Cst.placed` — a tree with other places
- `Java.Reading` — the places that a text has for tokens
- `Java.Cst.IsOver` — a program over a list of tokens
- `Java.Spacing.reading` — the places of tokens with gaps between them

## Main statements

- `Java.Spacing.text_reading` — the text of a node is that of its tokens and the gaps between them
- `Java.Spacing.agree` — texts with the same tokens agree in the names of parameters
-/

namespace JavaLint.Java

namespace Cst

variable {c d : Cst} {role : Role} {kind : CstKind} {start stop : Nat → Nat}

/-! ## Other places -/

mutual

/-- The node with other places, given by the old ones. -/
def placed (start stop : Nat → Nat) : Cst → Cst
  | .node kind role missing i j children =>
    .node kind role missing (start i) (stop j) (placedAll start stop children)

/-- The nodes of a list with other places. -/
def placedAll (start stop : Nat → Nat) : List Cst → List Cst
  | [] => []
  | c :: rest => c.placed start stop :: placedAll start stop rest

end

theorem placedAll_eq_map (cs : List Cst) :
    placedAll start stop cs = cs.map (placed start stop) := by
  induction cs with
  | nil => rfl
  | cons c cs ih => rw [placedAll, ih, List.map_cons]

@[simp] theorem kind_placed (c : Cst) : (c.placed start stop).kind = c.kind := by
  cases c
  rfl

@[simp] theorem role_placed (c : Cst) : (c.placed start stop).role = c.role := by
  cases c
  rfl

@[simp] theorem start_placed (c : Cst) : (c.placed start stop).start = start c.start := by
  cases c
  rfl

@[simp] theorem stop_placed (c : Cst) : (c.placed start stop).stop = stop c.stop := by
  cases c
  rfl

theorem children_placed (c : Cst) :
    (c.placed start stop).children = c.children.map (placed start stop) := by
  cases c
  exact placedAll_eq_map _

theorem namedChildren_placed (c : Cst) :
    (c.placed start stop).namedChildren = c.namedChildren.map (placed start stop) := by
  unfold namedChildren
  rw [children_placed, List.filter_map]
  simp only [Function.comp_def, kind_placed]

theorem find?_namedChildren_placed (c : Cst) (kind : CstKind) :
    (c.placed start stop).namedChildren.find? (·.kind == kind) =
      (c.namedChildren.find? (·.kind == kind)).map (placed start stop) := by
  rw [namedChildren_placed, List.find?_map]
  simp only [Function.comp_def, kind_placed]

theorem child?_placed (c : Cst) (role : Role) :
    (c.placed start stop).child? role = (c.child? role).map (placed start stop) := by
  unfold child?
  rw [children_placed, List.find?_map]
  simp only [Function.comp_def, role_placed]

theorem childOfKind?_placed (c : Cst) (kind : CstKind) :
    (c.placed start stop).childOfKind? kind = (c.childOfKind? kind).map (placed start stop) := by
  unfold childOfKind?
  rw [children_placed, List.find?_map]
  simp only [Function.comp_def, kind_placed]

theorem namedExcept_placed (c : Cst) (skip : List CstKind) :
    (c.placed start stop).namedExcept skip = (c.namedExcept skip).map (placed start stop) := by
  unfold namedExcept
  rw [namedChildren_placed, List.filter_map]
  simp only [Function.comp_def, kind_placed]

mutual

theorem weight_placed (start stop : Nat → Nat) : (c : Cst) → (c.placed start stop).weight = c.weight
  | .node _ _ _ _ _ children => by rw [placed, weight, weight, weights_placedAll start stop children]

theorem weights_placedAll (start stop : Nat → Nat) :
    (cs : List Cst) → weights (placedAll start stop cs) = weights cs
  | [] => rfl
  | c :: rest => by
    rw [placedAll, weights, weights, weight_placed start stop c, weights_placedAll start stop rest]

end

mutual

theorem hasFlaw_placed (start stop : Nat → Nat) :
    (c : Cst) → (c.placed start stop).hasFlaw = c.hasFlaw
  | .node _ _ _ _ _ children => by rw [placed, hasFlaw, hasFlaw, haveFlaw_placedAll start stop children]

theorem haveFlaw_placedAll (start stop : Nat → Nat) :
    (cs : List Cst) → haveFlaw (placedAll start stop cs) = haveFlaw cs
  | [] => rfl
  | c :: rest => by
    rw [placedAll, haveFlaw, haveFlaw, hasFlaw_placed start stop c, haveFlaw_placedAll start stop rest]

end

/-! ## Programs over tokens -/

/-- A node stands below the program. -/
def Below (d program : Cst) : Prop :=
  ∃ c : Cst, c.Within program ∧ d ∈ c.children

theorem Below.within {program : Cst} (h : d.Below program) : d.Within program := by
  obtain ⟨c, hc, hd⟩ := h
  exact (within_of_mem hd).trans hc

theorem NamesParameter.below {param name program : Cst} (h : param.NamesParameter name)
    (hparam : param.Within program) : name.Below program := by
  cases h with
  | formal _ hname => exact ⟨param, hparam, List.mem_of_find?_eq_some hname⟩
  | spread _ hmem hname =>
    exact ⟨_, (within_of_mem_namedChildren hmem).trans hparam, List.mem_of_find?_eq_some hname⟩

/-- A program over a list of tokens: the places of its nodes are numbers of tokens.
    Every node below the program holds a token, the name of a parameter a single one. -/
structure IsOver (program : Cst) (ts : List (List Char)) : Prop where
  isTrimmed {text : List Char} : text ∈ ts → Text.IsTrimmed text
  start_lt_stop {d : Cst} : d.Below program → d.start < d.stop
  stop_le {d : Cst} : d.Below program → d.stop ≤ ts.length
  stop_name {param name : Cst} : param.Within program → param.NamesParameter name →
    name.stop = name.start + 1

theorem IsOver.start_name_lt {program param name : Cst} {ts : List (List Char)}
    (h : program.IsOver ts) (hparam : param.Within program) (hname : param.NamesParameter name) :
    name.start < ts.length := by
  have hbelow := hname.below hparam
  exact Nat.lt_of_lt_of_le (h.start_lt_stop hbelow) (h.stop_le hbelow)

end Cst

/-! ## Readings -/

/-- The places that a text has for tokens: the bytes at which they start and end. -/
structure Reading where
  source : Source
  start : Nat → Nat
  stop : Nat → Nat

namespace Reading

/-- The node of the text that stands for a node over tokens. -/
def place (a : Reading) (c : Cst) : Cst :=
  c.placed a.start a.stop

/-- The text of a node over tokens. -/
def text (a : Reading) (c : Cst) : String :=
  a.source.text (a.place c)

/-- The name that a node over tokens writes. -/
def identOf (a : Reading) (c : Cst) : Ident :=
  a.source.identOf (a.place c) ""

/-- Two texts agree on a program over tokens: every node has a text in both of them, and
    the names of parameters are the same. -/
structure Agree (a b : Reading) (program : Cst) : Prop where
  text_ne_left {d : Cst} : d.Below program → a.text d ≠ ""
  text_ne_right {d : Cst} : d.Below program → b.text d ≠ ""
  text_eq {param name : Cst} : param.Within program → param.NamesParameter name →
    a.text name = b.text name

theorem Agree.symm {a b : Reading} {program : Cst} (h : a.Agree b program) : b.Agree a program :=
  ⟨h.text_ne_right, h.text_ne_left, fun hparam hname => (h.text_eq hparam hname).symm⟩

end Reading

namespace Spacing

variable {S S' : Spacing} {ts : List (List Char)} {tabWidth : UInt64} {c program : Cst}

/-- The text of a list of tokens with the places of the tokens. -/
def reading (S : Spacing) (ts : List (List Char)) (tabWidth : UInt64) : Reading :=
  ⟨.ofText (S.text ts) tabWidth, S.start ts, S.stop ts⟩

/-- The text of a node below the program is that of its tokens and of the gaps between them. -/
theorem text_reading (h : program.IsOver ts) (S : Spacing) (hc : c.Below program) :
    (S.reading ts tabWidth).text c =
      String.ofList (S.written c.start (between ts c.start c.stop)) := by
  have hlt := h.start_lt_stop hc
  have hle := h.stop_le hc
  unfold Reading.text Source.text Source.rawText reading Reading.place Source.ofText
  rw [Cst.start_placed, Cst.stop_placed, toList_text, slice?_chars S hlt hle, Option.getD_some,
    (isTrimmed_written (fun _ => h.isTrimmed) S hlt hle).stripChars_eq]

theorem text_reading_name {param name : Cst} (h : program.IsOver ts) (S : Spacing)
    (hparam : param.Within program) (hname : param.NamesParameter name) :
    (S.reading ts tabWidth).text name =
      String.ofList (ts.get ⟨name.start, h.start_name_lt hparam hname⟩) := by
  rw [text_reading h S (hname.below hparam), h.stop_name hparam hname,
    written_between_succ S (h.start_name_lt hparam hname), List.get_eq_getElem]

theorem agree (h : program.IsOver ts) (S S' : Spacing) :
    (S.reading ts tabWidth).Agree (S'.reading ts tabWidth) program := by
  have hne : ∀ (S : Spacing) {d : Cst}, d.Below program → (S.reading ts tabWidth).text d ≠ "" := by
    intro S d hd hempty
    rw [text_reading h S hd] at hempty
    exact (isTrimmed_written (fun _ => h.isTrimmed) S (h.start_lt_stop hd) (h.stop_le hd)).ne_nil
      (String.ofList_eq_empty_iff.1 hempty)
  refine ⟨hne S, hne S', fun {param name} hparam hname => ?_⟩
  rw [text_reading_name h S hparam hname, text_reading_name h S' hparam hname]

end Spacing

end JavaLint.Java
