import JavaLint.Proofs.Run.TabWidth
import JavaLint.Proofs.Text.Columns
import JavaLint.Proofs.Toml.Integers
/-!
# Columns of a run

A configuration may set any tab width that fits in 64 bits with a sign. Columns are
counted in words, so at large tab widths the columns behind a few tabs wrap around, and
a run reports them as they are.

## Main statements

- `Config.tabWidth_le_of_parse` — the tab widths that a configuration may set
- `Config.columnArithmetic_fits_iff` — when the columns after a text are right
- `Run.exists_column_eq_iff` — when the columns of a run are right
-/

namespace JavaLint

open Text (ArithmeticFits SafeTabs columnAfter lastLine tabSpan widestTab width)

/-! ## Tab widths of configurations -/

namespace CheckerSettings

variable {v w : Toml} {entries : List (Option Toml)} {settings : CheckerSettings}

theorem fits_of_values? (hv : v.Fits) (h : values? v = some entries) (hw : some w ∈ entries) :
    w.Fits := by
  cases hv with
  | table hentries =>
    rw [← Option.some.inj h] at hw
    obtain ⟨key, -, hlookup⟩ := List.mem_map.1 hw
    exact Toml.of_lookup hentries hlookup
  | array hitems =>
    rw [← Option.some.inj h] at hw
    obtain ⟨i, -, hitem⟩ := List.mem_map.1 hw
    exact hitems w (List.mem_of_getElem? hitem)
  | _ => cases h

theorem word?_le (hv : v.Fits) {n : Nat} (h : v.word? = some n) : n ≤ widestTab := by
  cases hv with
  | @integer n hrange =>
    obtain ⟨-, heq⟩ := Option.ite_none_right_eq_some.1 h
    have hle : n ≤ Int64.maxValue.toInt := of_decide_eq_true (Bool.and_eq_true_iff.1 hrange).2
    have hmax : Int64.maxValue.toInt = (widestTab : Int) := by decide
    have hnat := Option.some.inj heq
    omega
  | _ => cases h

/-- The tab width of settings is that of the text, or else eight. -/
theorem tabWidth_le_of_ofToml? (hv : v.Fits) (h : ofToml? v = some settings) :
    settings.tabWidth ≤ widestTab := by
  obtain ⟨entries, hentries, h⟩ := Option.bind_eq_some_iff.1 h
  split at h
  · next root exclude extensions gitignore tab fail =>
    obtain ⟨_, -, h⟩ := Option.bind_eq_some_iff.1 h
    obtain ⟨_, -, h⟩ := Option.bind_eq_some_iff.1 h
    obtain ⟨_, -, h⟩ := Option.bind_eq_some_iff.1 h
    obtain ⟨_, -, h⟩ := Option.bind_eq_some_iff.1 h
    obtain ⟨tabWidth, htab, h⟩ := Option.bind_eq_some_iff.1 h
    obtain ⟨_, -, h⟩ := Option.bind_eq_some_iff.1 h
    rw [← Option.some.inj h]
    cases tab with
    | none =>
      rw [← Option.some.inj htab]
      exact (by decide : 8 ≤ widestTab)
    | some w => exact word?_le (fits_of_values? hv hentries (by simp)) htab
  · cases h

end CheckerSettings

namespace Config

/-- A configuration sets a tab width that fits in 64 bits with a sign. -/
theorem tabWidth_le_of_parse {text : String} {c : Config} (h : parse text = .ok c) :
    c.checker.tabWidth ≤ widestTab := by
  unfold parse at h
  split at h
  · next htable =>
    cases h
    obtain ⟨entries, hentries, h⟩ := Option.bind_eq_some_iff.1 htable
    obtain ⟨preset, -, h⟩ := Option.bind_eq_some_iff.1 h
    obtain ⟨checker, hchecker, h⟩ := Option.bind_eq_some_iff.1 h
    obtain ⟨checks, -, h⟩ := Option.bind_eq_some_iff.1 h
    rw [← Option.some.inj h]
    dsimp only
    cases hlookup : entries.lookup "checker" with
    | none =>
      rw [hlookup] at hchecker
      rw [← Option.some.inj hchecker]
      decide
    | some v =>
      rw [hlookup] at hchecker
      have hv : v.Fits := Toml.of_lookup (Toml.fits_of_parse? hentries) hlookup
      exact CheckerSettings.tabWidth_le_of_ofToml? hv hchecker
  · cases h

/-- The text of a configuration with the largest tab width. -/
def widestTabText : String := "[checker]\ntab_width = 9223372036854775807\n"

/-- The configuration of that text. -/
def widestTabConfig : Config := { checker := { tabWidth := widestTab } }

theorem parse_widestTabText : parse widestTabText = .ok widestTabConfig := by
  have hparts : (parse widestTabText).map (fun c => (c.preset, c.checker, c.checks.entries.isEmpty)) =
      .ok (none, { tabWidth := widestTab }, true) := by decide +kernel
  obtain ⟨⟨preset, checker, ⟨entries, hincreasing⟩⟩, hparse, hparts⟩ := Except.map_eq_ok_iff.1 hparts
  obtain ⟨rfl, hrest⟩ := Prod.mk.inj hparts
  obtain ⟨rfl, hempty⟩ := Prod.mk.inj hrest
  obtain rfl := List.isEmpty_iff.1 hempty
  exact hparse

/-- The column after a text is right, whatever a configuration says, exactly when no value
    on the way to it overflows. None does so at any tab width that a configuration may set
    exactly if the text has at most one tab, or two of which one comes last. -/
theorem columnArithmetic_fits_iff {cs : List Char} (hlength : cs.length < Nat.pow 2 62) :
    (∀ text c, parse text = .ok c →
      (ArithmeticFits (tabSpan c.checker.tabWidth) cs ↔
        (columnAfter cs c.checker.tabWidth.toUInt64).toNat =
          width (tabSpan c.checker.tabWidth) cs + 1)) ∧
    ((∀ text c, parse text = .ok c → ArithmeticFits (tabSpan c.checker.tabWidth) cs) ↔
      SafeTabs cs) := by
  refine ⟨fun _ c _ => Text.arithmeticFits_iff_toNat_columnAfter c.checker.tabWidth cs, ?_⟩
  constructor
  · intro h
    exact Text.safeTabs_of_arithmeticFits (h _ _ parse_widestTabText)
  · intro h text c hc
    exact h.arithmeticFits hlength (Text.tabSpan_pos _)
      (Nat.max_le.2 ⟨tabWidth_le_of_parse hc, by decide⟩)

/-- There is room for two tabs behind each other. -/
theorem columnArithmetic_fits_iff_twoTabs :
    "\x7b\t\t".toList.length < Nat.pow 2 62 ∧ SafeTabs "\x7b\t\t".toList ∧
      ∀ text c, parse text = .ok c → ArithmeticFits (tabSpan c.checker.tabWidth) "\x7b\t\t".toList := by
  have hlength : "\x7b\t\t".toList.length < Nat.pow 2 62 := by decide
  have hsafe : SafeTabs "\x7b\t\t".toList := by decide
  exact ⟨hlength, hsafe, (columnArithmetic_fits_iff hlength).2.2 hsafe⟩

end Config

/-! ## Columns that are reported -/

namespace Run

variable {directory path source : String} {setup : Setup} {r : Run} {vs : List Violation}
  {grammar : List Char → Java.Cst}

/-- The column of a reported violation is right exactly when no value on the way to it
    overflows. -/
theorem exists_column_eq_iff (hs : setup.ChecksParameterNames grammar)
    (hr : ofSetup directory setup = .ok r)
    (hstarts : (grammar source.toList).StartsAtCharacters source)
    (hvs : r.checkSource path source = .ok vs) {v : Violation} (hv : v ∈ vs) :
    ∃ before after, source.toList = before ++ after ∧
      v.location.offset = Text.byteLength before ∧
      (v.location.column = width (tabSpan setup.config.checker.tabWidth) (lastLine before) + 1 ↔
        ArithmeticFits (tabSpan setup.config.checker.tabWidth) (lastLine before)) := by
  obtain ⟨tree, htree, hmem⟩ := mem_checkSource_iff hs hr hvs
  obtain ⟨p, id, node, -, hreported, rfl⟩ := (hmem v).1 hv
  obtain ⟨hvalid, hposition⟩ := Java.treeOf_placesParameters htree hstarts id node
    hreported.get?_eq hreported.kind_eq
  obtain ⟨before, cs, after, hsource, hoffset, -⟩ :=
    Text.exists_split_of_isValid (Nat.le_refl _) hvalid hvalid
  obtain ⟨severity, hseverity⟩ :=
    withConfiguredSeverity_eq setup.config (p.violationAt ⟨path, tree⟩ node)
  rw [List.append_assoc] at hsource
  refine ⟨before, cs ++ after, hsource, ?_, ?_⟩
  · rw [hseverity]
    exact hoffset.symm
  · have hcolumn : node.position.column =
        (columnAfter (lastLine before) setup.config.checker.tabWidth.toUInt64).toNat := by
      rw [hposition, ← hoffset]
      exact congrArg Position.column (Java.Source.position_byteLength hsource _)
    rw [hseverity, Text.arithmeticFits_iff_toNat_columnAfter, ← hcolumn]
    rfl

end Run

/-- A parameter behind three tabs. -/
def threeTabsSource : String := "class A \x7b void m(\t\t\tint X) \x7b\x7d \x7d"

open Java in
/-- The concrete syntax tree of that text. -/
def threeTabsProgram : Cst :=
  .node .program none false 0 31 [
    .node .classDeclaration none false 0 31 [
      .leaf (.token "class") 0 5,
      .node .identifier (some .name) false 6 7 [],
      .node .classBody (some .body) false 8 31 [
        .leaf (.token "\x7b") 8 9,
        .node .methodDeclaration none false 10 29 [
          .leaf .phrase 10 14,
          .node .identifier (some .name) false 15 16 [],
          .node .formalParameters (some .parameters) false 16 26 [
            .leaf (.token "(") 16 17,
            .node .formalParameter none false 20 25 [
              .leaf .phrase 20 23,
              .node .identifier (some .name) false 24 25 []],
            .leaf (.token ")") 25 26],
          .node .phrase (some .body) false 27 29 [
            .leaf (.token "\x7b") 27 28, .leaf (.token "\x7d") 28 29]],
        .leaf (.token "\x7d") 30 31]]]

/-- The setup of the largest tab width whose check takes no name but `h`. -/
def threeTabsSetup : Run.Setup :=
  { registrations := [{ check := ParameterName.onlyH.toCheck }]
    frontend := some (Java.frontendWith fun _ => threeTabsProgram)
    config := Config.widestTabConfig }

/-- The column of the parameter is three tab widths and five, and is reported as what is left
    of that in a word. -/
theorem Run.column_ne_width_threeTabs :
    Config.parse Config.widestTabText = .ok threeTabsSetup.config ∧
      ∃ r vs, ofSetup "/" threeTabsSetup = .ok r ∧
        r.checkSource "A.java" threeTabsSource = .ok vs ∧
        vs.map (fun v => (v.location.offset, v.location.column)) = [(24, 9223372036854775810)] ∧
        width (tabSpan threeTabsSetup.config.checker.tabWidth) (threeTabsSource.toList.take 24) + 1 =
          27670116110564327426 ∧
        ¬ ArithmeticFits (tabSpan threeTabsSetup.config.checker.tabWidth)
          (threeTabsSource.toList.take 24) := by
  refine ⟨Config.parse_widestTabText, ?_⟩
  have hwidth : width (tabSpan threeTabsSetup.config.checker.tabWidth)
      (threeTabsSource.toList.take 24) + 1 = 27670116110564327426 := by decide +kernel
  obtain ⟨r, hr, hcolumns⟩ : ∃ r, ofSetup "/" threeTabsSetup = .ok r ∧
      (r.checkSource "A.java" threeTabsSource).map
        (fun vs => vs.map fun v => (v.location.offset, v.location.column)) =
          .ok [(24, 9223372036854775810)] := ⟨_, rfl, by decide +kernel⟩
  obtain ⟨vs, hvs, hcolumns⟩ := Except.map_eq_ok_iff.1 hcolumns
  refine ⟨r, vs, hr, hvs, hcolumns, hwidth, ?_⟩
  rw [Text.arithmeticFits_iff (Text.tabSpan_pos _), hwidth]
  decide

end JavaLint
