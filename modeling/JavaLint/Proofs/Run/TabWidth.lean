import JavaLint.Proofs.Java.Places
import JavaLint.Proofs.Java.Unplaced
import JavaLint.Proofs.Java.Walk
import JavaLint.Proofs.Naming.Places
import Mathlib.Data.List.Forall2
/-!
# The tab width

The tab width decides about the columns of what is reported. It does not decide
about what is reported, nor about the order: in a text, places that are further
on have larger positions, whatever the tab width is.

## Main definitions

- `Violation.SameButColumn` — violations that differ in nothing but the column
- `Run.withTabWidth`, `Run.Setup.withTabWidth` — another tab width

## Main statements

- `ParameterName.plainFindings_eq_map` — the same is found, at other columns
- `Run.checkSource_withTabWidth` — the tab width changes columns and nothing else
-/

namespace JavaLint

/-! ## Violations with their places -/

namespace Violation

variable {source : String} {tabWidth tabWidth' : Nat} {v : Violation}

/-- Two violations that differ in nothing but the column. -/
def SameButColumn (v w : Violation) : Prop :=
  w = { v with location.column := w.location.column }

/-- A violation with its column counted by another tab width. -/
def withTabWidth (source : String) (tabWidth : Nat) (v : Violation) : Violation :=
  { v with location.column := (Java.positionOf source tabWidth v.location.offset).column }

theorem sameButColumn_withTabWidth (v : Violation) :
    v.SameButColumn (v.withTabWidth source tabWidth) :=
  rfl

theorem IsPlaced.withTabWidth (h : v.IsPlaced source tabWidth) (tabWidth' : Nat) :
    (v.withTabWidth source tabWidth').IsPlaced source tabWidth' where
  isValid := h.isValid
  position_eq := by
    have hline : v.location.line = (Java.positionOf source tabWidth' v.location.offset).line :=
      (congrArg Position.line h.position_eq).trans (Java.line_positionOf source tabWidth tabWidth' _)
    exact congrArg (Position.mk · (Java.positionOf source tabWidth' v.location.offset).column) hline

/-- Sorting by place does not depend on the tab width. -/
theorem map_withTabWidth_mergeSort {vs : List Violation}
    (h : ∀ v ∈ vs, v.IsPlaced source tabWidth)
    (hfit : Text.ColumnsFit (Text.tabSpan tabWidth) source.toList)
    (hfit' : Text.ColumnsFit (Text.tabSpan tabWidth') source.toList) :
    (vs.mergeSort fun a b => (a.comparePosition b).isLE).map (withTabWidth source tabWidth') =
      (vs.map (withTabWidth source tabWidth')).mergeSort fun a b => (a.comparePosition b).isLE := by
  refine List.map_mergeSort fun a ha b hb => ?_
  rw [Bool.eq_iff_iff, (h a ha).comparePosition_isLE_iff (h b hb) hfit,
    ((h a ha).withTabWidth tabWidth').comparePosition_isLE_iff ((h b hb).withTabWidth tabWidth') hfit']
  rfl

end Violation

/-! ## Trees that differ in their positions -/

/-- The formal parameters of a tree stand at characters, and where their offsets say. -/
def Tree.PlacesParameters (t : Tree) (source : String) (tabWidth : Nat) : Prop :=
  ∀ id node, t.get? id = some node → node.kind = .parameter .formal →
    (String.Pos.Raw.mk node.offset).IsValid source ∧
      node.position = Java.positionOf source tabWidth node.offset

theorem Java.treeOf_placesParameters {grammar : List Char → Cst} {unit source : String}
    {tabWidth : Nat} {t : Tree} (h : treeOf grammar unit source tabWidth = .ok t)
    (hstarts : (grammar source.toList).StartsAtCharacters source) :
    t.PlacesParameters source tabWidth := by
  intro id node hnode hkind
  obtain ⟨name, hname, hoffset, hposition⟩ := Source.exists_start_of_get? h hnode hkind
  refine ⟨?_, hposition⟩
  rw [hoffset]
  exact hstarts name hname

/-- The trees of a text for two tab widths differ in their positions only. -/
theorem Java.unplaced_eq_of_treeOf {grammar : List Char → Cst} {unit source : String}
    {tabWidth tabWidth' : Nat} {t t' : Tree} (h : treeOf grammar unit source tabWidth = .ok t)
    (h' : treeOf grammar unit source tabWidth' = .ok t') : t.unplaced = t'.unplaced :=
  have hchars : (Source.ofText source tabWidth.toUInt64).chars =
      (Source.ofText source tabWidth'.toUInt64).chars := rfl
  Source.unplaced_eq_of_declarations hchars h h'

namespace ParameterName

variable {p : ParameterName} {t t' : Tree} {path source : String} {id : NodeId}
  {node node' : TreeNode} {v : Violation} {tabWidth tabWidth' : Nat}

/-- The check finds the same nodes, whatever their positions are. -/
theorem found?_unplaced (p : ParameterName) (t : Tree) (id : NodeId) :
    p.found? t.unplaced id = (p.found? t id).map fun n => (n.1, n.2.unplaced) := by
  unfold found? covers
  rw [Tree.get?_unplaced, Tree.resolvedScope_unplaced, Tree.belongsToOverride_unplaced]
  cases t.get? id with
  | none => rfl
  | some node =>
    rw [Option.map_some, Option.bind_some, Option.bind_some]
    change (if node.kind = _ && _ && !p.rule.pattern.accepts node.ident then _ else _) = _
    split <;> rfl

theorem isPlaced_of_violation? (h : t.PlacesParameters source tabWidth)
    (hv : p.violation? ⟨path, t⟩ id = some v) : v.IsPlaced source tabWidth := by
  obtain ⟨node, hreported, rfl⟩ := violation?_eq_some_iff.1 hv
  obtain ⟨hvalid, hposition⟩ := h id node hreported.get?_eq hreported.kind_eq
  exact ⟨hvalid, hposition⟩

/-- What is said of nodes that differ in their positions differs in the column. -/
theorem violationAt_eq_withTabWidth (p : ParameterName) (h : node.unplaced = node'.unplaced)
    (hposition : node.position = Java.positionOf source tabWidth node.offset)
    (hposition' : node'.position = Java.positionOf source tabWidth' node'.offset) :
    p.violationAt ⟨path, t'⟩ node' =
      (p.violationAt ⟨path, t⟩ node).withTabWidth source tabWidth' := by
  have hoffset : node.offset = node'.offset := congrArg (·.offset) h
  have hident : node.ident = node'.ident := congrArg (·.ident) h
  have hline : node'.position.line = node.position.line := by
    rw [hposition, hposition', hoffset]
    exact Java.line_positionOf source tabWidth' tabWidth node'.offset
  have hcolumn : node'.position.column =
      (Java.positionOf source tabWidth' node.offset).column := by
    rw [hposition', hoffset]
  unfold violationAt SourceUnit.location
  rw [← hident, ← hoffset, hline, hcolumn]
  rfl

/-- The check says the same of trees that differ in their positions, but for the columns. -/
theorem violation?_eq_map (p : ParameterName) (path : String) (hsame : t.unplaced = t'.unplaced)
    (h : t.PlacesParameters source tabWidth) (h' : t'.PlacesParameters source tabWidth')
    (id : NodeId) :
    p.violation? ⟨path, t'⟩ id =
      (p.violation? ⟨path, t⟩ id).map (Violation.withTabWidth source tabWidth') := by
  have hfound := found?_unplaced p t id
  rw [hsame, found?_unplaced] at hfound
  rw [violation?_eq, violation?_eq, Option.map_map]
  cases hn : p.found? t id with
  | none =>
    rw [hn, Option.map_none, Option.map_eq_none_iff] at hfound
    rw [hfound]
    rfl
  | some n =>
    rw [hn, Option.map_some, Option.map_eq_some_iff] at hfound
    obtain ⟨n', hn', hunplaced⟩ := hfound
    have hreported := (found?_eq_some_iff.1 hn).2
    have hreported' := (found?_eq_some_iff.1 hn').2
    have hposition := (h id n.2 hreported.get?_eq hreported.kind_eq).2
    have hposition' := (h' id n'.2 hreported'.get?_eq hreported'.kind_eq).2
    rw [hn', Option.map_some, Option.map_some]
    exact congrArg some
      (violationAt_eq_withTabWidth p (Prod.mk.inj hunplaced).2.symm hposition hposition')

variable {rs : List Registration}

/-- Checks of parameter names find the same in trees that differ in their
    positions, but for the columns. -/
theorem plainFindings_eq_map (path : String) (hrs : ∀ r ∈ rs, ∃ p : ParameterName, r.check = p.toCheck)
    (hsame : t.unplaced = t'.unplaced) (h : t.PlacesParameters source tabWidth)
    (h' : t'.PlacesParameters source tabWidth') :
    CheckSet.plainFindings rs ⟨path, t'⟩ =
      (CheckSet.plainFindings rs ⟨path, t⟩).map (Violation.withTabWidth source tabWidth') := by
  have hpreorder : t'.preorder = t.preorder := by
    rw [← Tree.preorder_unplaced t', ← hsame, Tree.preorder_unplaced]
  unfold CheckSet.plainFindings
  rw [List.map_flatMap, hpreorder]
  refine List.flatMap_congr fun id _ => ?_
  rw [List.map_filterMap]
  refine List.filterMap_congr fun r hr => ?_
  obtain ⟨p, hp⟩ := hrs r hr
  rw [Registration.verdict?_eq hp, Registration.verdict?_eq hp]
  exact violation?_eq_map p path hsame h h' id

theorem isPlaced_of_mem_plainFindings (hrs : ∀ r ∈ rs, ∃ p : ParameterName, r.check = p.toCheck)
    (h : t.PlacesParameters source tabWidth) (hv : v ∈ CheckSet.plainFindings rs ⟨path, t⟩) :
    v.IsPlaced source tabWidth := by
  obtain ⟨id, -, hv⟩ := List.mem_flatMap.1 hv
  obtain ⟨r, hr, hverdict⟩ := List.mem_filterMap.1 hv
  obtain ⟨p, hp⟩ := hrs r hr
  rw [Registration.verdict?_eq hp] at hverdict
  exact isPlaced_of_violation? h hverdict

end ParameterName

/-! ## Runs -/

namespace Run

variable {directory path source : String} {setup : Setup} {r : Run} {tabWidth : Nat}
  {grammar : List Char → Java.Cst}

/-- A setup with another tab width. -/
def Setup.withTabWidth (setup : Setup) (tabWidth : Nat) : Setup :=
  { setup with config.checker.tabWidth := tabWidth }

/-- A run with another tab width. -/
def withTabWidth (r : Run) (tabWidth : Nat) : Run :=
  { r with config.checker.tabWidth := tabWidth }

theorem ofSetup_withTabWidth (h : ofSetup directory setup = .ok r) (tabWidth : Nat) :
    ofSetup directory (setup.withTabWidth tabWidth) = .ok (r.withTabWidth tabWidth) := by
  obtain ⟨frontend, excludes, checks, hfrontend, hexcludes, hchecks, rfl⟩ := ofSetup_eq_ok_iff.1 h
  exact ofSetup_eq_ok_iff.2 ⟨frontend, excludes, checks, hfrontend, hexcludes, hchecks, rfl⟩

theorem Setup.ChecksParameterNames.withTabWidth (h : setup.ChecksParameterNames grammar)
    (tabWidth : Nat) : (setup.withTabWidth tabWidth).ChecksParameterNames grammar :=
  ⟨h.frontend_eq, h.exists_toCheck⟩

theorem Setup.ChecksParameterNames.exists_toCheck_enabled (h : setup.ChecksParameterNames grammar) :
    ∀ reg ∈ setup.enabled, ∃ p : ParameterName, reg.check = p.toCheck :=
  fun reg hreg => h.exists_toCheck reg (List.mem_filter.1 hreg).1

/-- A source without flaws has a tree, and what a run reports on it is found there. -/
theorem exists_checkSource_eq_ok (hs : setup.ChecksParameterNames grammar)
    (hr : ofSetup directory setup = .ok r) (hparse : (grammar source.toList).hasFlaw = false)
    (path : String) :
    ∃ tree, Java.treeOf grammar ((Path.fileName? path).getD "") source
        setup.config.checker.tabWidth = .ok tree ∧
      r.checkSource path source =
        .ok (((CheckSet.plainFindings setup.enabled ⟨path, tree⟩).mergeSort
          fun a b => (a.comparePosition b).isLE).map (withConfiguredSeverity setup.config)) := by
  obtain ⟨hfrontend, hconfig, hchecks⟩ := ofSetup_eq_ok hr
  rw [hs.frontend_eq, Option.some.injEq] at hfrontend
  obtain ⟨-, tree, -, htree⟩ := (Java.Source.ofText source
    setup.config.checker.tabWidth.toUInt64).exists_walk_declarations
      ((Path.fileName? path).getD "") (grammar source.toList)
  refine ⟨tree, htree, checkSource_eq_ok_iff.2 ⟨tree, ?_, ?_⟩⟩
  · rw [← hfrontend, hconfig]
    change (if (grammar source.toList).hasFlaw then _ else _) = _
    rw [hparse]
    exact Except.mapError_eq_ok_iff.2 htree
  · rw [hconfig, CheckSet.inspect_eq_mergeSort_plainFindings hchecks]

/-- The severity of a check has nothing to do with the column. -/
theorem withConfiguredSeverity_withTabWidth (c : Config) (v : Violation) :
    withConfiguredSeverity c (v.withTabWidth source tabWidth) =
      (withConfiguredSeverity c v).withTabWidth source tabWidth := by
  rw [withConfiguredSeverity_eq_getD, withConfiguredSeverity_eq_getD]
  rfl

/-- What is in the order of the places is in the order of the offsets. -/
theorem pairwise_offset_mergeSort {vs : List Violation}
    (h : ∀ v ∈ vs, v.IsPlaced source tabWidth)
    (hfit : Text.ColumnsFit (Text.tabSpan tabWidth) source.toList) (c : Config) :
    ((vs.mergeSort fun a b => (a.comparePosition b).isLE).map
      (withConfiguredSeverity c)).Pairwise fun a b => a.location.offset ≤ b.location.offset := by
  rw [List.pairwise_map]
  simp only [location_withConfiguredSeverity]
  refine (Violation.pairwise_mergeSort_comparePosition vs).imp_of_mem fun {a b} ha hb hab => ?_
  rw [List.mem_mergeSort] at ha hb
  exact ((h a ha).comparePosition_isLE_iff (h b hb) hfit).1 hab

/-- Two runs of the same checks of parameter names that differ in their tab
    widths report the same on a source without flaws, in the same order, but for
    the columns. The order is that of the offsets. -/
theorem checkSource_withTabWidth (hs : setup.ChecksParameterNames grammar)
    (hr : ofSetup directory setup = .ok r) (hparse : (grammar source.toList).hasFlaw = false)
    (hstarts : (grammar source.toList).StartsAtCharacters source)
    (hfit : Text.ColumnsFit (Text.tabSpan setup.config.checker.tabWidth) source.toList)
    (hfit' : Text.ColumnsFit (Text.tabSpan tabWidth) source.toList) (path : String) :
    ∃ r' vs vs', ofSetup directory (setup.withTabWidth tabWidth) = .ok r' ∧
      r.checkSource path source = .ok vs ∧ r'.checkSource path source = .ok vs' ∧
      List.Forall₂ Violation.SameButColumn vs vs' ∧
      vs.Pairwise (fun a b => a.location.offset ≤ b.location.offset) ∧
      vs'.Pairwise fun a b => a.location.offset ≤ b.location.offset := by
  have hr' := ofSetup_withTabWidth hr tabWidth
  obtain ⟨tree, htree, hvs⟩ := exists_checkSource_eq_ok hs hr hparse path
  obtain ⟨tree', htree', hvs'⟩ := exists_checkSource_eq_ok (hs.withTabWidth tabWidth) hr' hparse path
  have hsame := Java.unplaced_eq_of_treeOf htree htree'
  have hplaces := Java.treeOf_placesParameters htree hstarts
  have hplaces' : tree'.PlacesParameters source tabWidth :=
    Java.treeOf_placesParameters htree' hstarts
  have hrs := hs.exists_toCheck_enabled
  have hplaced : ∀ v ∈ CheckSet.plainFindings setup.enabled ⟨path, tree⟩, v.IsPlaced source _ :=
    fun _ => ParameterName.isPlaced_of_mem_plainFindings hrs hplaces
  have hplaced' : ∀ v ∈ CheckSet.plainFindings setup.enabled ⟨path, tree'⟩, v.IsPlaced source _ :=
    fun _ => ParameterName.isPlaced_of_mem_plainFindings hrs hplaces'
  refine ⟨_, _, _, hr', hvs, hvs', ?_, pairwise_offset_mergeSort hplaced hfit _,
    pairwise_offset_mergeSort hplaced' hfit' _⟩
  change List.Forall₂ Violation.SameButColumn _ (((CheckSet.plainFindings setup.enabled
    ⟨path, tree'⟩).mergeSort _).map (withConfiguredSeverity setup.config))
  rw [ParameterName.plainFindings_eq_map path hrs hsame hplaces hplaces',
    ← Violation.map_withTabWidth_mergeSort hplaced hfit hfit', List.map_map,
    List.forall₂_map_left_iff, List.forall₂_map_right_iff, List.forall₂_same]
  intro v _
  rw [Function.comp_apply, withConfiguredSeverity_withTabWidth]
  exact Violation.sameButColumn_withTabWidth _

/-- Without a tab width a tab takes one column. -/
theorem checkSource_withTabWidth_umlaut :
    ∃ r r' vs', ofSetup "/" umlautSetup = .ok r ∧
      umlautSetup.ChecksParameterNames (fun _ => umlautProgram) ∧
      umlautProgram.hasFlaw = false ∧ umlautProgram.StartsAtCharacters umlautSource ∧
      Text.ColumnsFit (Text.tabSpan umlautSetup.config.checker.tabWidth) umlautSource.toList ∧
      Text.ColumnsFit (Text.tabSpan 0) umlautSource.toList ∧
      ofSetup "/" (umlautSetup.withTabWidth 0) = .ok r' ∧
      r.checkSource "A.java" umlautSource = .ok [umlautViolation] ∧
      r'.checkSource "A.java" umlautSource = .ok vs' ∧ vs'.map (·.location.column) = [13] ∧
      List.Forall₂ Violation.SameButColumn [umlautViolation] vs' := by
  have hs : umlautSetup.ChecksParameterNames (fun _ => umlautProgram) :=
    ⟨rfl, by rintro r (_ | ⟨_, ⟨⟩⟩); exact ⟨_, rfl⟩⟩
  have hparse : umlautProgram.hasFlaw = false := by decide
  have hstarts : umlautProgram.StartsAtCharacters umlautSource :=
    fun c hc => fits_umlautProgram.isValid_start hc
  have hfit : ∀ tabWidth ≤ 4, Text.ColumnsFit (Text.tabSpan tabWidth) umlautSource.toList := by
    intro tabWidth hle
    refine Text.columnsFit_of_length (Text.tabSpan_pos tabWidth) ?_
    have hspan : Text.tabSpan tabWidth ≤ 4 := Nat.max_le.2 ⟨hle, by decide⟩
    exact (Nat.succ_le_succ (Nat.mul_le_mul_left _ hspan)).trans_lt (by decide)
  obtain ⟨r, hr, hvs⟩ : ∃ r, ofSetup "/" umlautSetup = .ok r ∧
      r.checkSource "A.java" umlautSource = .ok [umlautViolation] := ⟨_, rfl, by decide +kernel⟩
  obtain ⟨r', vs, vs', hr', hvs₁, hvs', hsame, -, -⟩ :=
    checkSource_withTabWidth hs hr hparse hstarts (hfit 4 (Nat.le_refl 4)) (hfit 0 (Nat.zero_le 4))
      "A.java"
  obtain rfl := Except.ok.inj (hvs.symm.trans hvs₁)
  refine ⟨r, r', vs', hr, hs, hparse, hstarts, hfit 4 (Nat.le_refl 4), hfit 0 (Nat.zero_le 4), hr',
    hvs, hvs', ?_, hsame⟩
  obtain ⟨r₀, hr₀, vs₀, hvs₀, hcolumns⟩ : ∃ r₀, ofSetup "/" (umlautSetup.withTabWidth 0) = .ok r₀ ∧
      ∃ vs₀, r₀.checkSource "A.java" umlautSource = .ok vs₀ ∧
        vs₀.map (·.location.column) = [13] :=
    ⟨_, rfl, [{ umlautViolation with location.column := 13 }], by decide +kernel, rfl⟩
  obtain rfl := Except.ok.inj (hr'.symm.trans hr₀)
  obtain rfl := Except.ok.inj (hvs'.symm.trans hvs₀)
  exact hcolumns

end Run

end JavaLint
