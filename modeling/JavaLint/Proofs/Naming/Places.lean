import JavaLint.Proofs.Naming.Runs
import JavaLint.Proofs.Text.Gaps
import JavaLint.Proofs.Text.LineIndex
/-!
# The places of reported names

A reported name has come through the concrete syntax tree, the lines of the
text and the tree of declarations. It still stands where its violation says.

## Main definitions

- `Java.Cst.Fits` — what is assumed of the concrete syntax tree of a text
- `Violation.PointsAt` — a violation stands at a name

## Main statements

- `Run.exists_pointsAt` — every reported violation stands at the name that it is about
-/

namespace JavaLint

namespace Java

/-- What is assumed of the concrete syntax tree of a text: every node takes
    whole characters of it, and the names of parameters are trimmed. -/
structure Cst.Fits (program : Cst) (source : String) : Prop where
  start_le_stop {c : Cst} : c.Within program → c.start ≤ c.stop
  isValid_start {c : Cst} : c.Within program → (String.Pos.Raw.mk c.start).IsValid source
  isValid_stop {c : Cst} : c.Within program → (String.Pos.Raw.mk c.stop).IsValid source
  isTrimmed {param name : Cst} {before cs after : List Char} :
    param.Within program → param.NamesParameter name →
      source.toList = before ++ cs ++ after → Text.byteLength before = name.start →
        Text.byteLength (before ++ cs) = name.stop → Text.IsTrimmed cs

namespace Source

variable {source : String} {tabWidth : UInt64} {c : Cst} {before cs after : List Char}

/-- The text of a node that takes trimmed characters of the source. -/
theorem text_eq_of_isTrimmed (h : source.toList = before ++ cs ++ after)
    (hstart : Text.byteLength before = c.start) (hstop : Text.byteLength (before ++ cs) = c.stop)
    (hcs : Text.IsTrimmed cs) : (ofText source tabWidth).text c = String.ofList cs := by
  have hraw : (ofText source tabWidth).rawText c = cs := by
    unfold rawText ofText
    rw [h, ← hstart, ← hstop, Text.slice?_append, Option.getD_some]
  unfold text
  rw [hraw, hcs.stripChars_eq]

/-- The position of a node that starts with a character of the source. -/
theorem position_byteLength (h : source.toList = before ++ after) (tabWidth : UInt64) :
    (ofText source tabWidth).position (Text.byteLength before) =
      ⟨1 + before.count '\n', (Text.columnAfter (Text.lastLine before) tabWidth).toNat⟩ := by
  unfold position ofText
  rw [Text.LineIndex.position_ofSource h]

/-- What a parameter of a fitting program writes stands in the text at the place
    that its declaration has. -/
theorem Writes.exists_place {program param name : Cst} {decl : Declaration} {tabWidth : Nat}
    (h : (ofText source tabWidth.toUInt64).Writes name decl) (hfits : program.Fits source)
    (htab : 0 < tabWidth) (hcolumns : Text.ColumnsFit tabWidth source.toList)
    (hparam : param.Within program) (hname : param.NamesParameter name) :
    ∃ before after : String, source = before ++ decl.ident ++ after ∧
      decl.offset = before.utf8ByteSize ∧
      decl.position =
        ⟨1 + before.toList.count '\n', 1 + Text.width tabWidth (Text.lastLine before.toList)⟩ := by
  have hwithin := hname.within.trans hparam
  obtain ⟨before, cs, after, hsource, hstart, hstop⟩ :=
    Text.exists_split_of_isValid (hfits.start_le_stop hwithin) (hfits.isValid_start hwithin)
      (hfits.isValid_stop hwithin)
  have hcs := hfits.isTrimmed hparam hname hsource hstart hstop
  have hident : decl.ident = String.ofList cs :=
    h.ident_eq.trans (text_eq_of_isTrimmed hsource hstart hstop hcs)
  rw [List.append_assoc] at hsource
  have hcolumn := Text.toNat_columnAfter htab (hcolumns before _ hsource)
  refine ⟨String.ofList before, String.ofList after, ?_, h.offset_eq.trans hstart.symm, ?_⟩
  · rw [hident, ← String.ofList_append, ← String.ofList_append, List.append_assoc, ← hsource,
      String.ofList_toList]
  · rw [h.position_eq, ← hstart, position_byteLength hsource, hcolumn, String.toList_ofList,
      Nat.add_comm (Text.width _ _) 1]

end Source

end Java

/-- A violation stands at a name: its bytes are those of the name, which is its
    first argument, its line counts the bytes of line feeds before them, and its
    column counts the columns that the line takes up to them. -/
structure Violation.PointsAt (v : Violation) (source : String) (tabWidth : Nat)
    (before name after : String) : Prop where
  source_eq : source = before ++ name ++ after
  head?_messageArgs : v.messageArgs.head? = some name
  offset_eq : v.location.offset = before.utf8ByteSize
  extract_eq :
    source.toUTF8.extract v.location.offset (v.location.offset + v.location.length) = name.toUTF8
  length_eq : v.location.length = name.utf8ByteSize
  line_eq : v.location.line = 1 + (source.toUTF8.extract 0 v.location.offset).data.count 10
  column_eq : v.location.column = 1 + Text.width tabWidth (Text.lastLine before.toList)

/-- A violation stands at a name if its place is that of the name in the text. -/
theorem Violation.pointsAt_of_position {v : Violation} {source before name after : String}
    {tabWidth : Nat} {position : Position} (hsource : source = before ++ name ++ after)
    (hargs : v.messageArgs.head? = some name) (hoffset : v.location.offset = before.utf8ByteSize)
    (hlength : v.location.length = name.utf8ByteSize)
    (hposition : position =
      ⟨1 + before.toList.count '\n', 1 + Text.width tabWidth (Text.lastLine before.toList)⟩)
    (hline : v.location.line = position.line) (hcolumn : v.location.column = position.column) :
    v.PointsAt source tabWidth before name after where
  source_eq := hsource
  head?_messageArgs := hargs
  offset_eq := hoffset
  extract_eq := by rw [hoffset, hlength, hsource, Text.extract_toUTF8]
  length_eq := hlength
  line_eq := by
    rw [hline, hposition, hoffset, hsource, String.append_assoc, Text.extract_toUTF8_zero,
      Text.count_toUTF8]
  column_eq := by rw [hcolumn, hposition]

namespace Run

variable {directory path source : String} {setup : Setup} {r : Run} {vs : List Violation}
  {grammar : List Char → Java.Cst}

/-- Every violation that a run of checks of parameter names reports on a source
    text stands at the name that it is about. -/
theorem exists_pointsAt (hs : setup.ChecksParameterNames grammar)
    (hr : ofSetup directory setup = .ok r) (htab : 0 < setup.config.checker.tabWidth)
    (hfits : (grammar source.toList).Fits source)
    (hcolumns : Text.ColumnsFit setup.config.checker.tabWidth source.toList)
    (hvs : r.checkSource path source = .ok vs) {v : Violation} (hv : v ∈ vs) :
    ∃ before name after, v.PointsAt source setup.config.checker.tabWidth before name after := by
  obtain ⟨tree, htree, hmem⟩ := mem_checkSource_iff hs hr hvs
  obtain ⟨p, id, node, -, hreported, rfl⟩ := (hmem v).1 hv
  obtain ⟨param, name, hparam, hname, hwrites⟩ :=
    Java.Source.exists_parameter_of_get? htree hreported.get?_eq hreported.kind_eq
  obtain ⟨before, after, hsource, hoffset, hposition⟩ :=
    hwrites.exists_place hfits htab hcolumns hparam hname
  obtain ⟨severity, hseverity⟩ :=
    withConfiguredSeverity_eq setup.config (p.violationAt ⟨path, tree⟩ node)
  refine ⟨before, node.ident, after, ?_⟩
  rw [hseverity]
  exact Violation.pointsAt_of_position hsource rfl hoffset rfl hposition rfl rfl

end Run

/-- A method with a name and a parameter beyond ASCII, in a line that starts with a tab. -/
def umlautSource : String := "interface A \x7b\n\tvoid é(int Ü);\n\x7d"

open Java in
/-- The concrete syntax tree of that text. -/
def umlautProgram : Cst :=
  .node .program none false 0 33 [
    .node .interfaceDeclaration none false 0 33 [
      .leaf (.token "interface") 0 9,
      .node .identifier (some .name) false 10 11 [],
      .node .phrase (some .body) false 12 33 [
        .leaf (.token "\x7b") 12 13,
        .node .methodDeclaration none false 15 31 [
          .leaf .phrase 15 19,
          .node .identifier (some .name) false 20 22 [],
          .node .formalParameters (some .parameters) false 22 30 [
            .leaf (.token "(") 22 23,
            .node .formalParameter none false 23 29 [
              .leaf .phrase 23 26,
              .node .identifier (some .name) false 27 29 []],
            .leaf (.token ")") 29 30],
          .leaf (.token ";") 30 31],
        .leaf (.token "\x7d") 32 33]]]

theorem fits_umlautProgram : umlautProgram.Fits umlautSource := by
  have hplaces : ∀ c ∈ umlautProgram.nodes, c.start ≤ c.stop ∧
      (String.Pos.Raw.mk c.start).IsValid umlautSource ∧
      (String.Pos.Raw.mk c.stop).IsValid umlautSource := by decide
  have hformal : ∀ c ∈ umlautProgram.nodes, c.kind = .formalParameter →
      (c.child? .name).all fun name => name.start = 27 && name.stop = 29 := by decide
  have hspread : ∀ c ∈ umlautProgram.nodes, c.kind ≠ .spreadParameter := by decide
  have hname : ∀ {param name : Java.Cst}, param.Within umlautProgram → param.NamesParameter name →
      name.start = 27 ∧ name.stop = 29 := by
    intro param name hparam hname
    cases hname with
    | formal hkind hchild =>
      simpa [hchild] using hformal param (Java.Cst.mem_nodes_of_within hparam) hkind
    | spread hkind => exact absurd hkind (hspread param (Java.Cst.mem_nodes_of_within hparam))
  refine ⟨fun hc => (hplaces _ (Java.Cst.mem_nodes_of_within hc)).1,
    fun hc => (hplaces _ (Java.Cst.mem_nodes_of_within hc)).2.1,
    fun hc => (hplaces _ (Java.Cst.mem_nodes_of_within hc)).2.2, ?_⟩
  intro param name before cs after hparam hnames hsource hstart hstop
  obtain ⟨hstart', hstop'⟩ := hname hparam hnames
  have hslice := Text.slice?_append before cs after
  rw [← hsource, hstart, hstop, hstart', hstop'] at hslice
  have hcs : Text.slice? umlautSource.toList 27 29 = some ['Ü'] := by decide +kernel
  obtain rfl := Option.some.inj (hslice.symm.trans hcs)
  exact ⟨by decide, by rintro c ⟨⟩; decide, by rintro c ⟨⟩; decide⟩

/-- A setup with tabs of four columns whose check takes no name but `h`. -/
def umlautSetup : Run.Setup :=
  { registrations := [{ check := ParameterName.onlyH.toCheck }]
    frontend := some (Java.frontendWith fun _ => umlautProgram)
    config := { checker := { tabWidth := 4 } } }

/-- What the run of that setup reports. -/
def umlautViolation : Violation :=
  .ofMessage "SC101" "parameter-name" .error
    { file := "A.java", line := 2, column := 16, offset := 27, length := 2 }
    "name.invalidPattern" ["Ü", "h"]

theorem Run.exists_pointsAt_umlaut :
    ∃ r, ofSetup "/" umlautSetup = .ok r ∧
      umlautSetup.ChecksParameterNames (fun _ => umlautProgram) ∧
      0 < umlautSetup.config.checker.tabWidth ∧ umlautProgram.Fits umlautSource ∧
      Text.ColumnsFit umlautSetup.config.checker.tabWidth umlautSource.toList ∧
      r.checkSource "A.java" umlautSource = .ok [umlautViolation] ∧
      ∃ before name after, umlautViolation.PointsAt umlautSource
        umlautSetup.config.checker.tabWidth before name after := by
  have hs : umlautSetup.ChecksParameterNames (fun _ => umlautProgram) :=
    ⟨rfl, by rintro r (_ | ⟨_, ⟨⟩⟩); exact ⟨_, rfl⟩⟩
  have htab : 0 < umlautSetup.config.checker.tabWidth := by decide
  have hcolumns : Text.ColumnsFit umlautSetup.config.checker.tabWidth umlautSource.toList :=
    Text.columnsFit_of_length htab (by decide)
  obtain ⟨r, hr, hvs⟩ : ∃ r, ofSetup "/" umlautSetup = .ok r ∧
      r.checkSource "A.java" umlautSource = .ok [umlautViolation] := ⟨_, rfl, by decide +kernel⟩
  exact ⟨r, hr, hs, htab, fits_umlautProgram, hcolumns, hvs,
    exists_pointsAt hs hr htab fits_umlautProgram hcolumns hvs (List.mem_singleton_self _)⟩

end JavaLint
