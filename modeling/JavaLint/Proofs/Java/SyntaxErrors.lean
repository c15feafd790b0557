import JavaLint.Proofs.Except
import JavaLint.Proofs.Java.Flaws
import JavaLint.Proofs.Java.Places
/-!
# The places of syntax errors

A text that does not follow the grammar is refused for the first flaw of its
concrete syntax tree. The error has the line and column of the flaw, but the
violation for the error has no offset of its own.

## Main statements

- `Java.parseWith_eq_badSyntax` — the error of a text has the position of the first flaw
- `Java.position_violation_eq_iff` — when the violation has the position of its offset
-/

namespace JavaLint.Java

variable {grammar : List Char → Cst} {unit source message path : String} {tabWidth : Nat}
  {position : Position}

/-- A text is refused at the first flaw of its concrete syntax tree. -/
theorem parseWith_eq_badSyntax
    (h : parseWith grammar unit source tabWidth.toUInt64 = .error (.badSyntax position message)) :
    ∃ flaw, (grammar source.toList).firstFlaw? = some flaw ∧
      flaw.Within (grammar source.toList) ∧ position = positionOf source tabWidth flaw.start := by
  change (if (grammar source.toList).hasFlaw then _ else _) = _ at h
  split at h
  · next hflaw =>
    obtain ⟨flaw, _, _, hfirst, hnodes, -⟩ := Cst.exists_firstFlaw? hflaw
    have hwithin : flaw.Within (grammar source.toList) :=
      Cst.within_of_mem_nodes (hnodes ▸ List.mem_append_right _ List.mem_cons_self)
    change Except.error (syntaxError _ (grammar source.toList)) = _ at h
    rw [syntaxError, hfirst] at h
    cases h
    exact ⟨flaw, hfirst, hwithin, rfl⟩
  · obtain ⟨cause, -, hcause⟩ := Except.mapError_eq_error_iff.1 h
    cases hcause

/-- The violation for a syntax error has the position of its offset just if that
    is the start of the text. If columns fit and the nodes of the concrete syntax
    tree start at characters, this says that the first flaw starts the text. -/
theorem position_violation_eq_iff
    (h : parseWith grammar unit source tabWidth.toUInt64 = .error (.badSyntax position message))
    (path : String) :
    ∃ flaw v, (grammar source.toList).firstFlaw? = some flaw ∧
      v = (ParseError.badSyntax position message).violation path ∧ v.position = position ∧
      (v.position = positionOf source tabWidth v.location.offset ↔ position = ⟨1, 1⟩) ∧
      ((grammar source.toList).StartsAtCharacters source →
        Text.ColumnsFit (Text.tabSpan tabWidth) source.toList →
        (v.position = positionOf source tabWidth v.location.offset ↔ flaw.start = 0)) := by
  obtain ⟨flaw, hfirst, hwithin, hposition⟩ := parseWith_eq_badSyntax h
  refine ⟨flaw, _, hfirst, rfl, rfl, ?_, fun hstarts hfit => ?_⟩
  · change position = positionOf source tabWidth 0 ↔ _
    rw [positionOf_zero]
  · change position = positionOf source tabWidth 0 ↔ _
    rw [hposition]
    exact positionOf_eq_iff (hstarts flaw hwithin) String.Pos.Raw.isValid_zero hfit

theorem parseWith_of_hasFlaw (h : (grammar source.toList).hasFlaw = true) :
    parseWith grammar unit source tabWidth.toUInt64 =
      .error (syntaxError (.ofText source tabWidth.toUInt64) (grammar source.toList)) :=
  if_pos h

/-- The concrete syntax tree of a text that is nothing but a stray brace. -/
def strayBrace : Cst :=
  .node .program none false 0 1 [.node .error none false 0 1 [.leaf (.token "\x7d") 0 1]]

/-- A flaw at the start of the text is reported where it is. -/
theorem position_violation_eq_iff_strayBrace :
    ∃ position message v,
      parseWith (fun _ => strayBrace) "A.java" "\x7d" (8 : Nat).toUInt64 =
        .error (.badSyntax position message) ∧
      strayBrace.StartsAtCharacters "\x7d" ∧
      Text.ColumnsFit (Text.tabSpan 8) "\x7d".toList ∧
      v = (ParseError.badSyntax position message).violation "A.java" ∧
      v.position = positionOf "\x7d" 8 v.location.offset := by
  have hparse : parseWith (fun _ => strayBrace) "A.java" "\x7d" (8 : Nat).toUInt64 =
      .error (.badSyntax ⟨1, 1⟩ "unexpected '\x7d'") :=
    (parseWith_of_hasFlaw (by decide)).trans (congrArg Except.error (by decide +kernel))
  have hstarts : strayBrace.StartsAtCharacters "\x7d" := by
    have hall : ∀ c ∈ strayBrace.nodes, (String.Pos.Raw.mk c.start).IsValid "\x7d" := by decide
    exact fun c hc => hall c (Cst.mem_nodes_of_within hc)
  have hfit : Text.ColumnsFit (Text.tabSpan 8) "\x7d".toList :=
    Text.columnsFit_of_length (by decide) (by decide)
  obtain ⟨flaw, v, hfirst, hv, -, -, hplaced⟩ := position_violation_eq_iff hparse "A.java"
  refine ⟨_, _, v, hparse, hstarts, hfit, hv, (hplaced hstarts hfit).2 ?_⟩
  have hflaw : strayBrace.firstFlaw? = some (.node .error none false 0 1 [.leaf (.token "\x7d") 0 1]) :=
    rfl
  rw [← Option.some.inj (hflaw.symm.trans hfirst)]
  rfl

/-- A field that lacks its semicolon. -/
def bareField : String := "class A \x7b\n  int x\n\x7d\n"

/-- The concrete syntax tree of that text. -/
def bareFieldProgram : Cst :=
  .node .program none false 0 20 [
    .node .classDeclaration none false 0 19 [
      .leaf (.token "class") 0 5,
      .node .identifier (some .name) false 6 7 [],
      .node .classBody (some .body) false 8 19 [
        .leaf (.token "\x7b") 8 9,
        .node .fieldDeclaration none false 12 17 [
          .node .phrase (some .type) false 12 15 [],
          .node .variableDeclarator (some .declarator) false 16 17 [
            .node .identifier (some .name) false 16 17 []],
          .node (.token ";") none true 17 17 []],
        .leaf (.token "\x7d") 18 19]]]

/-- The missing semicolon is reported at its line and column, but at the first byte. -/
theorem position_violation_ne_bareField :
    parseWith (fun _ => bareFieldProgram) "A.java" bareField (8 : Nat).toUInt64 =
        .error (.badSyntax ⟨2, 8⟩ "missing ;") ∧
      positionOf bareField 8 17 = ⟨2, 8⟩ ∧
      ∀ v, v = (ParseError.badSyntax ⟨2, 8⟩ "missing ;").violation "A.java" →
        v.position = ⟨2, 8⟩ ∧ v.location.offset = 0 ∧
          v.position ≠ positionOf bareField 8 v.location.offset := by
  refine ⟨?_, by decide +kernel, ?_⟩
  · exact (parseWith_of_hasFlaw (by decide)).trans (congrArg Except.error (by decide +kernel))
  · rintro _ rfl
    refine ⟨rfl, rfl, ?_⟩
    change (⟨2, 8⟩ : Position) ≠ positionOf bareField 8 0
    rw [positionOf_zero]
    decide

end JavaLint.Java
