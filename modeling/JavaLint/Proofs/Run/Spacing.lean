import JavaLint.Proofs.Java.SameTokens
import JavaLint.Proofs.Run.TabWidth
import Mathlib.Data.List.ProdSigma
/-!
# Blanks and comments

Two texts with the same tokens have the same declarations, and a run reports the
same names on both of them, with one exception. Whether a method counts as
overriding depends on the text of its annotations, and the gaps between tokens
are part of that text.

## Main definitions

- `Java.Spacing.Marks` — tokens that spell an override marker without gaps between them
- `Violation.SameToken` — violations that stand at the same token in two texts
- `Run.Setup.Exempts` — the parameters that are left out for their overriding method alone

## Main statements

- `Run.checkSource_of_spacings` — what a run reports on two texts with the same tokens
- `Run.exists_spacings_differ` — an override marker with blanks in it does not count
-/

namespace JavaLint

open Java (Spacing Reading Cst)

/-! ## Override markers -/

namespace Java.Spacing

variable {S S' : Spacing} {ts : List (List Char)} {program name : Cst} {tabWidth : UInt64}
  {x y : Annotation}

/-- The tokens of a node spell the name of an override marker, and no gap stands between them. -/
structure Marks (S : Spacing) (ts : List (List Char)) (name : Cst) : Prop where
  spelled : String.ofList (between ts name.start name.stop).flatten ∈ overrideNames
  gap_eq_nil {k : Nat} : name.start < k → k < name.stop → S.gap k = []

/-- Two annotations in texts with the same tokens. A node of the program writes their names,
    with the gaps of each of the texts. -/
structure SameMarking (S S' : Spacing) (ts : List (List Char)) (program : Cst)
    (x y : Annotation) (name : Cst) : Prop where
  below : name.Below program
  name_eq_left : x.name = String.ofList (S.written name.start (between ts name.start name.stop))
  name_eq_right : y.name = String.ofList (S'.written name.start (between ts name.start name.stop))
  marks_left : x.isOverrideMarker = true ↔ S.Marks ts name
  marks_right : y.isOverrideMarker = true ↔ S'.Marks ts name

theorem isOverrideMarker_iff (hprogram : program.IsOver ts) (hname : name.Below program)
    (hx : x.name = String.ofList (S.written name.start (between ts name.start name.stop))) :
    x.isOverrideMarker = true ↔ S.Marks ts name := by
  have hlt := hprogram.start_lt_stop hname
  have hle := hprogram.stop_le hname
  have htrimmed := isTrimmed_written (fun _ => hprogram.isTrimmed) S hlt hle
  unfold Annotation.isOverrideMarker Text.trim
  rw [hx, String.toList_ofList, htrimmed.stripChars_eq, List.contains_iff_mem,
    written_mem_overrideNames_iff S hlt hle]
  exact ⟨fun h => ⟨h.1, fun {k} => h.2 k⟩, fun h => ⟨h.spelled, fun _ => h.gap_eq_nil⟩⟩

theorem exists_sameMarking (hprogram : program.IsOver ts)
    (h : (S.reading ts tabWidth).SameMarking (S'.reading ts tabWidth) program x y) :
    ∃ name, S.SameMarking S' ts program x y name := by
  obtain ⟨name, hname, hx, hy⟩ := h
  rw [text_reading hprogram _ hname] at hx hy
  exact ⟨name, hname, hx, hy, isOverrideMarker_iff hprogram hname hx,
    isOverrideMarker_iff hprogram hname hy⟩

/-- The second text has gaps wherever the first one has some. -/
def FewerGaps (S S' : Spacing) : Prop :=
  ∀ k, S'.gap k = [] → S.gap k = []

theorem FewerGaps.marks (h : S.FewerGaps S') (hmarks : S'.Marks ts name) : S.Marks ts name :=
  ⟨hmarks.spelled, fun hlt hgt => h _ (hmarks.gap_eq_nil hlt hgt)⟩

/-- Two trees of a program, for two texts with its tokens. -/
structure SameTrees (S S' : Spacing) (ts : List (List Char)) (program : Cst) (tabWidth : UInt64)
    (t t' : Tree) : Prop where
  isOver : program.IsOver ts
  forth : Reading.SameTree (S.reading ts tabWidth) (S'.reading ts tabWidth) program t t'
  back : Reading.SameTree (S'.reading ts tabWidth) (S.reading ts tabWidth) program t' t

namespace SameTrees

variable {t t' : Tree} {id : NodeId} {node node' : TreeNode}

theorem symm (h : SameTrees S S' ts program tabWidth t t') :
    SameTrees S' S ts program tabWidth t' t :=
  ⟨h.isOver, h.back, h.forth⟩

theorem sameSkeleton (h : SameTrees S S' ts program tabWidth t t') : t.SameSkeleton t' :=
  h.forth.sameSkeleton fun _ _ hd => ⟨hd.kind_eq, hd.modifiers.visibility_eq⟩

theorem sameAnnotations (h : SameTrees S S' ts program tabWidth t t') (hn : t.get? id = some node)
    (hn' : t'.get? id = some node') :
    List.Forall₂ (fun x y => ∃ name, S.SameMarking S' ts program x y name)
      node.modifiers.annotations node'.modifiers.annotations :=
  (h.forth.declaration hn hn').modifiers.annotations.imp fun _ _ => exists_sameMarking h.isOver

/-- If no marker is lost, no method stops to be overriding. -/
theorem hasMarkedParent (h : SameTrees S S' ts program tabWidth t t')
    (hmarks : ∀ name : Cst, name.Below program → S.Marks ts name → S'.Marks ts name)
    (hmarked : t.HasMarkedParent id) : t'.HasMarkedParent id := by
  obtain ⟨parent, node, hparent, hn, hkind, x, hx, hmarker⟩ := hmarked
  obtain ⟨node', hn', hrelated⟩ := h.forth.exists_get? hn
  have hannotations := h.sameAnnotations hn hn'
  obtain ⟨i, hi, rfl⟩ := List.getElem_of_mem hx
  have hi' : i < node'.modifiers.annotations.length := hannotations.length_eq ▸ hi
  obtain ⟨name, hname⟩ := hannotations.get hi hi'
  refine ⟨parent, node', (h.sameSkeleton.parent?_eq id).symm.trans hparent, hn',
    hrelated.kind_eq.symm.trans hkind, _, List.getElem_mem hi', ?_⟩
  exact hname.marks_right.2 (hmarks name hname.below (hname.marks_left.1 hmarker))

/-- A check for which overriding methods count as well reports the same nodes. -/
theorem exists_reported {q : ParameterName} (h : SameTrees S S' ts program tabWidth t t')
    (hq : q.rule.ignoreOverridden = false) (hreported : q.Reported t id node) :
    ∃ node', q.Reported t' id node' ∧
      Reading.SameDeclaration (S.reading ts tabWidth) (S'.reading ts tabWidth) program
        node.toDeclaration node'.toDeclaration := by
  obtain ⟨node', hn', hsame⟩ := h.forth.exists_get? hreported.get?_eq
  have hident : node.ident = node'.ident :=
    (agree h.isOver S S').ident_eq hsame hreported.kind_eq
  exact ⟨node', ⟨hn', hsame.kind_eq.symm.trans hreported.kind_eq,
    h.sameSkeleton.resolvedScope_eq id ▸ hreported.in_range, by simp [hq],
    hident ▸ hreported.mismatch⟩, hsame⟩

end SameTrees

theorem sameTrees_of_treeOf {grammar : List Char → Cst} {unit : String} {tabWidth : Nat} {t t' : Tree}
    (hprogram : program.IsOver ts)
    (hread : grammar (S.chars ts) = program.placed (S.start ts) (S.stop ts))
    (hread' : grammar (S'.chars ts) = program.placed (S'.start ts) (S'.stop ts))
    (ht : treeOf grammar unit (S.text ts) tabWidth = .ok t)
    (ht' : treeOf grammar unit (S'.text ts) tabWidth = .ok t') :
    SameTrees S S' ts program tabWidth.toUInt64 t t' := by
  unfold treeOf at ht ht'
  rw [S.toList_text, hread] at ht
  rw [S'.toList_text, hread'] at ht'
  exact ⟨hprogram, (agree hprogram S S').matches_declarations ht ht',
    (agree hprogram S' S).matches_declarations ht' ht⟩

end Java.Spacing

/-! ## Reports -/

namespace Violation

variable {S S' : Spacing} {ts : List (List Char)} {tabWidth : Nat} {v w v' w' : Violation}

/-- Two violations that differ in nothing but the place, and stand at the same token
    in two texts. -/
structure SameToken (S S' : Spacing) (ts : List (List Char)) (v w : Violation) : Prop where
  eq_at : w = { v with
    location.line := w.location.line, location.column := w.location.column,
    location.offset := w.location.offset }
  exists_token : ∃ i, i < ts.length ∧
    v.location.offset = S.start ts i ∧ w.location.offset = S'.start ts i

/-- Two violations at the same token that have the positions of their offsets. -/
structure SamePlaced (S S' : Spacing) (ts : List (List Char)) (tabWidth : Nat) (v w : Violation) :
    Prop extends SameToken S S' ts v w where
  isPlaced_left : v.IsPlaced (S.text ts) tabWidth
  isPlaced_right : w.IsPlaced (S'.text ts) tabWidth

/-- Violations at the same tokens are in the same order. -/
theorem SamePlaced.comparePosition_isLE_eq (hts : ∀ text ∈ ts, Text.IsTrimmed text)
    (hfit : Text.ColumnsFit (Text.tabSpan tabWidth) (S.chars ts))
    (hfit' : Text.ColumnsFit (Text.tabSpan tabWidth) (S'.chars ts))
    (h : SamePlaced S S' ts tabWidth v w) (h' : SamePlaced S S' ts tabWidth v' w') :
    (v.comparePosition v').isLE = (w.comparePosition w').isLE := by
  obtain ⟨i, hi, hv, hw⟩ := h.exists_token
  obtain ⟨j, hj, hv', hw'⟩ := h'.exists_token
  rw [Bool.eq_iff_iff,
    h.isPlaced_left.comparePosition_isLE_iff h'.isPlaced_left (by rwa [Spacing.toList_text]),
    h.isPlaced_right.comparePosition_isLE_iff h'.isPlaced_right (by rwa [Spacing.toList_text]),
    hv, hv', hw, hw', Spacing.start_le_start_iff hts S hi hj, Spacing.start_le_start_iff hts S' hi hj]

theorem SamePlaced.withConfiguredSeverity (h : SamePlaced S S' ts tabWidth v w) (c : Config) :
    SameToken S S' ts (Run.withConfiguredSeverity c v) (Run.withConfiguredSeverity c w) := by
  have hcheck : w.check = v.check := by rw [h.eq_at]
  have hseverity : w.severity = v.severity := by rw [h.eq_at]
  refine ⟨?_, ?_⟩
  · rw [Run.withConfiguredSeverity_eq_getD, Run.withConfiguredSeverity_eq_getD, hcheck, hseverity]
    conv => lhs; rw [h.eq_at]
  · rw [Run.location_withConfiguredSeverity, Run.location_withConfiguredSeverity]
    exact h.exists_token

theorem map_head?_eq_of_forall₂ {vs vs' : List Violation}
    (h : List.Forall₂ (SameToken S S' ts) vs vs') :
    vs.map (·.messageArgs.head?) = vs'.map (·.messageArgs.head?) := by
  rw [← List.forall₂_eq_eq_eq, List.forall₂_map_left_iff, List.forall₂_map_right_iff]
  refine h.imp fun v w hvw => ?_
  rw [hvw.eq_at]

end Violation

/-! ## Verdicts -/

theorem CheckSet.plainFindings_eq_filterMap (rs : List Registration) (u : SourceUnit) :
    plainFindings rs u = (u.tree.preorder ×ˢ rs).filterMap fun x => x.2.verdict? u x.1 := by
  unfold plainFindings
  simp only [SProd.sprod, List.product, List.filterMap_flatMap, List.filterMap_map,
    Function.comp_def]

/-- If `g` keeps what `f` keeps and no more elements than `f`, then `f` keeps what `g` keeps. -/
theorem isSome_of_length_filterMap_eq {α β : Type} {f g : α → Option β} {l : List α}
    (h : ∀ a ∈ l, (f a).isSome = true → (g a).isSome = true)
    (hlength : (l.filterMap f).length = (l.filterMap g).length) :
    ∀ a ∈ l, (g a).isSome = true → (f a).isSome = true := by
  rw [List.length_filterMap_eq_countP, List.length_filterMap_eq_countP, List.countP_eq_length_filter,
    List.countP_eq_length_filter] at hlength
  -- what `f` keeps it keeps of what `g` keeps
  have hboth : l.filter (fun a => (f a).isSome) =
      (l.filter fun a => (g a).isSome).filter fun a => (f a).isSome := by
    rw [List.filter_filter]
    refine List.filter_congr fun a ha => ?_
    cases hf : (f a).isSome with
    | false => rfl
    | true => rw [h a ha hf, Bool.and_true]
  rw [hboth, List.length_filter_eq_length_iff] at hlength
  exact fun a ha hg => hlength a (List.mem_filter.2 ⟨ha, hg⟩)

namespace ParameterName

variable {p : ParameterName} {t t' : Tree} {id : NodeId} {node node' : TreeNode} {S S' : Spacing}
  {ts : List (List Char)} {program : Cst} {path : String} {tabWidth : Nat}

/-- A check reports what it reports if overriding methods count, less what it
    leaves out for them. -/
theorem reported_iff_withIgnoreOverridden :
    p.Reported t id node ↔ (p.withIgnoreOverridden false).Reported t id node ∧
      ¬ (p.rule.ignoreOverridden = true ∧ t.HasMarkedParent id) := by
  constructor
  · intro h
    exact ⟨⟨h.get?_eq, h.kind_eq, h.in_range, by simp [withIgnoreOverridden], h.mismatch⟩,
      h.not_left_out⟩
  · rintro ⟨h, hout⟩
    exact ⟨h.get?_eq, h.kind_eq, h.in_range, hout, h.mismatch⟩

/-- What is said of a parameter that two texts share stands at its token. -/
theorem samePlaced_violationAt (p : ParameterName) (hprogram : program.IsOver ts)
    (hsame : Reading.SameDeclaration (S.reading ts tabWidth.toUInt64)
      (S'.reading ts tabWidth.toUInt64) program node.toDeclaration node'.toDeclaration)
    (hkind : node.kind = .parameter .formal) :
    Violation.SamePlaced S S' ts tabWidth (p.violationAt ⟨path, t⟩ node)
      (p.violationAt ⟨path, t'⟩ node') := by
  obtain ⟨param, name, hparam, hname, hwrites, hwrites'⟩ := hsame.exists_name hkind
  have hident : node.ident = node'.ident := (Spacing.agree hprogram S S').ident_eq hsame hkind
  have hlt : name.start < ts.length := hprogram.start_name_lt hparam hname
  have hoffset : node.offset = S.start ts name.start := hwrites.offset_eq.trans (Cst.start_placed _)
  have hoffset' : node'.offset = S'.start ts name.start :=
    hwrites'.offset_eq.trans (Cst.start_placed _)
  refine ⟨⟨?_, name.start, hlt, hoffset, hoffset'⟩, ⟨?_, ?_⟩, ⟨?_, ?_⟩⟩
  · unfold violationAt SourceUnit.location
    rw [hident]
    rfl
  · exact (congrArg (fun i => (String.Pos.Raw.mk i).IsValid (S.text ts)) hoffset).mpr
      (S.isValid_start hlt)
  · exact hwrites.position_eq.trans (congrArg _ hwrites.offset_eq.symm)
  · exact (congrArg (fun i => (String.Pos.Raw.mk i).IsValid (S'.text ts)) hoffset').mpr
      (S'.isValid_start hlt)
  · exact hwrites'.position_eq.trans (congrArg _ hwrites'.offset_eq.symm)

end ParameterName

namespace Run

variable {directory path : String} {setup : Setup} {r : Run} {grammar : List Char → Cst}
  {S S' : Spacing} {ts : List (List Char)} {program : Cst} {tabWidth : Nat} {t t' : Tree}
  {p : ParameterName} {id : NodeId} {node : TreeNode}

/-- A parameter is exempt if some enabled check has nothing against it but the
    override marker of its method. -/
def Setup.Exempts (setup : Setup) (t : Tree) (id : NodeId) : Prop :=
  ∃ p node, setup.Enables p ∧ p.rule.ignoreOverridden = true ∧
    (p.withIgnoreOverridden false).Reported t id node ∧ t.HasMarkedParent id

/-- What is exempt in one tree belongs to an overriding method in another one as well. -/
def Setup.KeepsExempt (setup : Setup) (t t' : Tree) : Prop :=
  ∀ id, setup.Exempts t id → t'.HasMarkedParent id

/-- What is exempt stays so if no marker is lost that counts for some check. -/
theorem Setup.keepsExempt_of_marks (hsame : Spacing.SameTrees S S' ts program tabWidth.toUInt64 t t')
    (hmarks : ∀ p, setup.Enables p → p.rule.ignoreOverridden = true →
      ∀ name : Cst, name.Below program → S.Marks ts name → S'.Marks ts name) :
    setup.KeepsExempt t t' := by
  rintro id ⟨p, -, hp, hignore, -, hmarked⟩
  exact hsame.hasMarkedParent (hmarks p hp hignore) hmarked

/-- If nothing more is exempt in the second text, what is reported in the first
    one is reported there as well. -/
theorem Setup.KeepsExempt.exists_reported (h : setup.KeepsExempt t' t) (hp : setup.Enables p)
    (hsame : Spacing.SameTrees S S' ts program tabWidth.toUInt64 t t')
    (hreported : p.Reported t id node) :
    ∃ node', p.Reported t' id node' ∧
      Reading.SameDeclaration (S.reading ts tabWidth.toUInt64) (S'.reading ts tabWidth.toUInt64)
        program node.toDeclaration node'.toDeclaration := by
  obtain ⟨hplain, hout⟩ := ParameterName.reported_iff_withIgnoreOverridden.1 hreported
  obtain ⟨node', hplain', hdeclaration⟩ := hsame.exists_reported rfl hplain
  refine ⟨node', ParameterName.reported_iff_withIgnoreOverridden.2 ⟨hplain', ?_⟩, hdeclaration⟩
  rintro ⟨hignore, hmarked⟩
  exact hout ⟨hignore, h id ⟨p, node', hp, hignore, hplain', hmarked⟩⟩

/-- If the same is exempt in both texts, a check says the same of their nodes. -/
theorem rel_violation? (hp : setup.Enables p)
    (hsame : Spacing.SameTrees S S' ts program tabWidth.toUInt64 t t')
    (hkeep : setup.KeepsExempt t t') (hkeep' : setup.KeepsExempt t' t) (path : String)
    (id : NodeId) :
    Option.Rel (Violation.SamePlaced S S' ts tabWidth) (p.violation? ⟨path, t⟩ id)
      (p.violation? ⟨path, t'⟩ id) := by
  -- a verdict on one side comes with one on the other side
  cases hv : p.violation? ⟨path, t⟩ id with
  | none =>
    cases hw : p.violation? ⟨path, t'⟩ id with
    | none => exact .none
    | some w =>
      obtain ⟨node', hreported', -⟩ := ParameterName.violation?_eq_some_iff.1 hw
      obtain ⟨node, hreported, -⟩ := hkeep.exists_reported hp hsame.symm hreported'
      rw [ParameterName.violation?_eq_some_iff.2 ⟨node, hreported, rfl⟩] at hv
      cases hv
  | some v =>
    obtain ⟨node, hreported, rfl⟩ := ParameterName.violation?_eq_some_iff.1 hv
    obtain ⟨node', hreported', hdeclaration⟩ := hkeep'.exists_reported hp hsame hreported
    rw [ParameterName.violation?_eq_some_iff.2 ⟨node', hreported', rfl⟩]
    exact .some (p.samePlaced_violationAt hsame.isOver hdeclaration hreported.kind_eq)

theorem forall₂_plainFindings (hs : setup.ChecksParameterNames grammar)
    (hsame : Spacing.SameTrees S S' ts program tabWidth.toUInt64 t t')
    (hkeep : setup.KeepsExempt t t') (hkeep' : setup.KeepsExempt t' t) (path : String) :
    List.Forall₂ (Violation.SamePlaced S S' ts tabWidth)
      (CheckSet.plainFindings setup.enabled ⟨path, t⟩)
      (CheckSet.plainFindings setup.enabled ⟨path, t'⟩) := by
  rw [CheckSet.plainFindings_eq_filterMap, CheckSet.plainFindings_eq_filterMap,
    ← hsame.sameSkeleton.preorder_eq]
  refine List.rel_filterMap (R := fun x y => x = y ∧ x ∈ t.preorder ×ˢ setup.enabled) ?_
    (List.forall₂_same.2 fun _ hx => ⟨rfl, hx⟩)
  rintro ⟨id, reg⟩ _ ⟨rfl, hmem⟩
  obtain ⟨-, p, hcheck, hp⟩ := hs.mem_enabled_iff.1 (List.mem_product.1 hmem).2
  dsimp only
  rw [Registration.verdict?_eq hcheck, Registration.verdict?_eq hcheck]
  exact rel_violation? hp hsame hkeep hkeep' path id

theorem forall₂_sameToken (hs : setup.ChecksParameterNames grammar)
    (hsame : Spacing.SameTrees S S' ts program tabWidth.toUInt64 t t')
    (hfit : Text.ColumnsFit (Text.tabSpan tabWidth) (S.chars ts))
    (hfit' : Text.ColumnsFit (Text.tabSpan tabWidth) (S'.chars ts)) (path : String)
    (hkeep : setup.KeepsExempt t t') (hkeep' : setup.KeepsExempt t' t) :
    List.Forall₂ (Violation.SameToken S S' ts)
      (((CheckSet.plainFindings setup.enabled ⟨path, t⟩).mergeSort
        fun a b => (a.comparePosition b).isLE).map (withConfiguredSeverity setup.config))
      (((CheckSet.plainFindings setup.enabled ⟨path, t'⟩).mergeSort
        fun a b => (a.comparePosition b).isLE).map (withConfiguredSeverity setup.config)) := by
  rw [List.forall₂_map_left_iff, List.forall₂_map_right_iff]
  refine (forall₂_mergeSort (forall₂_plainFindings hs hsame hkeep hkeep' path) ?_).imp
    fun _ _ h => h.withConfiguredSeverity setup.config
  intro v v' w w' h h'
  exact h.comparePosition_isLE_eq (fun _ => hsame.isOver.isTrimmed) hfit hfit' h'

/-- If nothing more is exempt in the second text and as much is found there,
    the same is exempt. -/
theorem keepsExempt_of_length_eq (hs : setup.ChecksParameterNames grammar) (hwf : t.WellFormed)
    (hsame : Spacing.SameTrees S S' ts program tabWidth.toUInt64 t t')
    (hkeep : setup.KeepsExempt t' t) (path : String)
    (hlength : (CheckSet.plainFindings setup.enabled ⟨path, t⟩).length =
      (CheckSet.plainFindings setup.enabled ⟨path, t'⟩).length) :
    setup.KeepsExempt t t' := by
  rw [CheckSet.plainFindings_eq_filterMap, CheckSet.plainFindings_eq_filterMap,
    ← hsame.sameSkeleton.preorder_eq] at hlength
  -- the first text has as many verdicts as the second one, so it has all of its verdicts
  have hfound := isSome_of_length_filterMap_eq ?_ hlength
  · rintro id ⟨p, node, hp, hignore, hplain, hmarked⟩
    by_contra hnot
    obtain ⟨node', hplain', -⟩ := hsame.exists_reported rfl hplain
    have hreported' := ParameterName.reported_iff_withIgnoreOverridden.2
      ⟨hplain', fun h => hnot h.2⟩
    obtain ⟨reg, hreg, hcheck⟩ := hp.2
    have hmem : (id, reg) ∈ t.preorder ×ˢ setup.enabled :=
      List.mem_product.2 ⟨hwf.mem_preorder.2 (Tree.lt_size_of_get? hplain.get?_eq),
        hs.mem_enabled_iff.2 ⟨hreg, p, hcheck, hp⟩⟩
    have hsome := hfound (id, reg) hmem
    rw [Registration.verdict?_eq hcheck, Registration.verdict?_eq hcheck,
      ParameterName.violation?_eq_some_iff.2 ⟨node', hreported', rfl⟩] at hsome
    obtain ⟨v, hv⟩ := Option.isSome_iff_exists.1 (hsome rfl)
    obtain ⟨node, hreported, -⟩ := ParameterName.violation?_eq_some_iff.1 hv
    exact hreported.not_left_out ⟨hignore, hmarked⟩
  · rintro ⟨id, reg⟩ hmem hsome
    obtain ⟨-, p, hcheck, hp⟩ := hs.mem_enabled_iff.1 (List.mem_product.1 hmem).2
    rw [Registration.verdict?_eq hcheck] at hsome ⊢
    obtain ⟨v, hv⟩ := Option.isSome_iff_exists.1 hsome
    obtain ⟨node, hreported, -⟩ := ParameterName.violation?_eq_some_iff.1 hv
    obtain ⟨node', hreported', -⟩ := hkeep.exists_reported hp hsame hreported
    rw [ParameterName.violation?_eq_some_iff.2 ⟨node', hreported', rfl⟩]
    rfl

/-! ## Runs -/

/-- A run reports the same names on two texts of a program with the same tokens, at
    the same tokens, if the same parameters are exempt in both of them. This holds
    where the same annotations count as override markers, which they do if their tokens
    spell one without a gap, and where overriding methods make no difference to the
    checks. If the second text has gaps wherever the first one has some, the names are
    the same just if what is exempt in the first text belongs to an overriding method
    in the second one as well. -/
theorem checkSource_of_spacings (hs : setup.ChecksParameterNames grammar)
    (hr : ofSetup directory setup = .ok r) (hprogram : program.IsOver ts)
    (hparse : program.hasFlaw = false)
    (hread : grammar (S.chars ts) = program.placed (S.start ts) (S.stop ts))
    (hread' : grammar (S'.chars ts) = program.placed (S'.start ts) (S'.stop ts))
    (hfit : Text.ColumnsFit (Text.tabSpan setup.config.checker.tabWidth) (S.chars ts))
    (hfit' : Text.ColumnsFit (Text.tabSpan setup.config.checker.tabWidth) (S'.chars ts))
    (path : String) :
    ∃ t t' vs vs',
      Java.treeOf grammar ((Path.fileName? path).getD "") (S.text ts)
        setup.config.checker.tabWidth = .ok t ∧
      Java.treeOf grammar ((Path.fileName? path).getD "") (S'.text ts)
        setup.config.checker.tabWidth = .ok t' ∧
      r.checkSource path (S.text ts) = .ok vs ∧ r.checkSource path (S'.text ts) = .ok vs' ∧
      (∀ id node node', t.get? id = some node → t'.get? id = some node' →
        List.Forall₂ (fun x y => ∃ name, S.SameMarking S' ts program x y name)
          node.modifiers.annotations node'.modifiers.annotations) ∧
      (setup.KeepsExempt t t' → setup.KeepsExempt t' t →
        List.Forall₂ (Violation.SameToken S S' ts) vs vs') ∧
      ((∀ p, setup.Enables p → p.rule.ignoreOverridden = true →
          ∀ name : Cst, name.Below program → (S.Marks ts name ↔ S'.Marks ts name)) →
        setup.KeepsExempt t t' ∧ setup.KeepsExempt t' t) ∧
      (S.FewerGaps S' → (vs.map (·.messageArgs.head?) = vs'.map (·.messageArgs.head?) ↔
        setup.KeepsExempt t t')) := by
  have hclean : ∀ {S : Spacing},
      grammar (S.chars ts) = program.placed (S.start ts) (S.stop ts) →
        (grammar (S.text ts).toList).hasFlaw = false := by
    intro S hread
    rw [S.toList_text, hread, Cst.hasFlaw_placed, hparse]
  obtain ⟨t, ht, hvs⟩ := exists_checkSource_eq_ok hs hr (hclean hread) path
  obtain ⟨t', ht', hvs'⟩ := exists_checkSource_eq_ok hs hr (hclean hread') path
  have hsame := Spacing.sameTrees_of_treeOf hprogram hread hread' ht ht'
  have hreports := forall₂_sameToken hs hsame hfit hfit' path
  refine ⟨t, t', _, _, ht, ht', hvs, hvs', fun id node node' => hsame.sameAnnotations, hreports,
    fun hmarks => ⟨?_, ?_⟩, fun hgaps => ?_⟩
  · exact Setup.keepsExempt_of_marks hsame fun p hp hignore name hname =>
      (hmarks p hp hignore name hname).1
  · exact Setup.keepsExempt_of_marks hsame.symm fun p hp hignore name hname =>
      (hmarks p hp hignore name hname).2
  -- what marks with gaps marks without them, so the second text has nothing more that is exempt
  have hkeep' : setup.KeepsExempt t' t :=
    Setup.keepsExempt_of_marks hsame.symm fun _ _ _ _ _ => hgaps.marks
  constructor
  · intro heq
    refine keepsExempt_of_length_eq hs (Java.Source.built_declarations ht).wellFormed hsame hkeep'
      path ?_
    simpa only [List.length_map, List.length_mergeSort] using congrArg List.length heq
  · exact fun hkeep => Violation.map_head?_eq_of_forall₂ (hreports hkeep hkeep')

end Run

/-- The tokens of a class with a method whose override marker is a name with points. -/
def overrideTokens : List (List Char) :=
  ["class", "A", "\x7b", "@", "java", ".", "lang", ".", "Override", "void", "m", "(", "int", "x",
    ")", "\x7b", "\x7d", "\x7d"].map String.toList

open Java in
/-- The concrete syntax tree over these tokens. -/
def overrideProgram : Cst :=
  .node .program none false 0 18 [
    .node .classDeclaration none false 0 18 [
      .leaf (.token "class") 0 1,
      .node .identifier (some .name) false 1 2 [],
      .node .classBody (some .body) false 2 18 [
        .leaf (.token "\x7b") 2 3,
        .node .methodDeclaration none false 3 17 [
          .node .modifiers none false 3 9 [
            .node .annotationUse none false 3 9 [
              .leaf (.token "@") 3 4,
              .node .phrase (some .name) false 4 9 [
                .leaf .identifier 4 5,
                .leaf (.token ".") 5 6,
                .leaf .identifier 6 7,
                .leaf (.token ".") 7 8,
                .leaf .identifier 8 9]]],
          .leaf .phrase 9 10,
          .node .identifier (some .name) false 10 11 [],
          .node .formalParameters (some .parameters) false 11 15 [
            .leaf (.token "(") 11 12,
            .node .formalParameter none false 12 14 [
              .leaf .phrase 12 13,
              .node .identifier (some .name) false 13 14 []],
            .leaf (.token ")") 14 15],
          .node .phrase (some .body) false 15 17 [
            .leaf (.token "\x7b") 15 16,
            .leaf (.token "\x7d") 16 17]],
        .leaf (.token "\x7d") 17 18]]]

/-- A blank before every token, and one after the last one. -/
def looseSpacing : Spacing where
  gap _ := [' ']
  isGap _ := .blank rfl .nil

/-- The same blanks but for those in the name of the annotation. -/
def tightSpacing : Spacing where
  gap i := if 3 < i ∧ i < 9 then [] else [' ']
  isGap i := by
    split
    · exact .nil
    · exact .blank rfl .nil

/-- A grammar that has that tree for both texts. -/
def overrideGrammar (cs : List Char) : Cst :=
  if cs = tightSpacing.chars overrideTokens then
    overrideProgram.placed (tightSpacing.start overrideTokens) (tightSpacing.stop overrideTokens)
  else
    overrideProgram.placed (looseSpacing.start overrideTokens) (looseSpacing.stop overrideTokens)

/-- A setup whose check takes no name but `h`, outside of overriding methods. -/
def overrideSetup : Run.Setup :=
  { registrations := [{ check := (ParameterName.onlyH.withIgnoreOverridden true).toCheck }]
    frontend := some (Java.frontendWith overrideGrammar)
    config := { checker := {} } }

/-- What the run of that setup reports where the name of the annotation has blanks. -/
def overrideViolation : Violation :=
  .ofMessage "SC101" "parameter-name" .error
    { file := "A.java", line := 1, column := 50, offset := 49, length := 1 }
    "name.invalidPattern" ["x", "h"]

theorem isOver_overrideProgram : overrideProgram.IsOver overrideTokens := by
  have hchars : ∀ text ∈ overrideTokens, text ≠ [] ∧ (text.all fun c => !Text.isBlank c) = true := by
    decide
  have hplaces : ∀ c ∈ overrideProgram.nodes, c.start < c.stop ∧ c.stop ≤ overrideTokens.length := by
    decide
  have hformal : ∀ c ∈ overrideProgram.nodes, c.kind = .formalParameter →
      (c.child? .name).all fun name => name.stop = name.start + 1 := by decide
  have hspread : ∀ c ∈ overrideProgram.nodes, c.kind ≠ .spreadParameter := by decide
  refine ⟨fun h => Text.isTrimmed_of_all (hchars _ h).1 (hchars _ h).2,
    fun h => (hplaces _ (Cst.mem_nodes_of_within h.within)).1,
    fun h => (hplaces _ (Cst.mem_nodes_of_within h.within)).2, fun {param name} hparam hname => ?_⟩
  cases hname with
  | formal hkind hchild =>
    simpa [hchild] using hformal param (Cst.mem_nodes_of_within hparam) hkind
  | spread hkind => exact absurd hkind (hspread param (Cst.mem_nodes_of_within hparam))

theorem overrideGrammar_tight :
    overrideGrammar (tightSpacing.chars overrideTokens) =
      overrideProgram.placed (tightSpacing.start overrideTokens)
        (tightSpacing.stop overrideTokens) :=
  if_pos rfl

theorem overrideGrammar_loose :
    overrideGrammar (looseSpacing.chars overrideTokens) =
      overrideProgram.placed (looseSpacing.start overrideTokens)
        (looseSpacing.stop overrideTokens) := by
  have hne : looseSpacing.chars overrideTokens ≠ tightSpacing.chars overrideTokens := by
    decide +kernel
  exact if_neg hne

theorem checksParameterNames_overrideSetup :
    overrideSetup.ChecksParameterNames overrideGrammar where
  frontend_eq := rfl
  exists_toCheck := by
    rintro r (_ | ⟨_, ⟨⟩⟩)
    exact ⟨_, rfl⟩

theorem exists_run_overrideSetup :
    ∃ r, Run.ofSetup "/" overrideSetup = .ok r ∧
      r.checkSource "A.java" (tightSpacing.text overrideTokens) = .ok [] ∧
      r.checkSource "A.java" (looseSpacing.text overrideTokens) = .ok [overrideViolation] :=
  ⟨_, rfl, by decide +kernel, by decide +kernel⟩

theorem columnsFit_overrideSetup :
    ∀ S ∈ [tightSpacing, looseSpacing],
      Text.ColumnsFit (Text.tabSpan overrideSetup.config.checker.tabWidth)
        (S.chars overrideTokens) := by
  intro S hS
  refine Text.columnsFit_of_length (Text.tabSpan_pos _) ?_
  rcases List.mem_pair.1 hS with rfl | rfl
  · decide +kernel
  · decide +kernel

theorem Run.checkSource_of_spacings_override :
    ∃ r t t' vs vs', overrideSetup.ChecksParameterNames overrideGrammar ∧
      ofSetup "/" overrideSetup = .ok r ∧ overrideProgram.IsOver overrideTokens ∧
      overrideProgram.hasFlaw = false ∧
      Java.treeOf overrideGrammar "A.java" (tightSpacing.text overrideTokens) 8 = .ok t ∧
      Java.treeOf overrideGrammar "A.java" (looseSpacing.text overrideTokens) 8 = .ok t' ∧
      r.checkSource "A.java" (tightSpacing.text overrideTokens) = .ok vs ∧
      r.checkSource "A.java" (looseSpacing.text overrideTokens) = .ok vs' ∧
      tightSpacing.FewerGaps looseSpacing ∧
      (vs.map (·.messageArgs.head?) = vs'.map (·.messageArgs.head?) ↔
        overrideSetup.KeepsExempt t t') := by
  obtain ⟨r, hr, -, -⟩ := exists_run_overrideSetup
  have hs := checksParameterNames_overrideSetup
  have hparse : overrideProgram.hasFlaw = false := by decide
  have hgaps : tightSpacing.FewerGaps looseSpacing := nofun
  obtain ⟨t, t', vs, vs', ht, ht', hvs, hvs', -, -, -, hiff⟩ :=
    checkSource_of_spacings hs hr isOver_overrideProgram hparse overrideGrammar_tight
      overrideGrammar_loose (columnsFit_overrideSetup _ (by simp))
      (columnsFit_overrideSetup _ (by simp)) "A.java"
  exact ⟨r, t, t', vs, vs', hs, hr, isOver_overrideProgram, hparse, ht, ht', hvs, hvs', hgaps,
    hiff hgaps⟩

/-- A run may report a name on one of two texts with the same tokens only: an
    override marker with blanks in it does not count. -/
theorem Run.exists_spacings_differ :
    ∃ r, overrideSetup.ChecksParameterNames overrideGrammar ∧
      ofSetup "/" overrideSetup = .ok r ∧ overrideProgram.IsOver overrideTokens ∧
      overrideGrammar (tightSpacing.chars overrideTokens) =
        overrideProgram.placed (tightSpacing.start overrideTokens)
          (tightSpacing.stop overrideTokens) ∧
      overrideGrammar (looseSpacing.chars overrideTokens) =
        overrideProgram.placed (looseSpacing.start overrideTokens)
          (looseSpacing.stop overrideTokens) ∧
      r.checkSource "A.java" (tightSpacing.text overrideTokens) = .ok [] ∧
      r.checkSource "A.java" (looseSpacing.text overrideTokens) = .ok [overrideViolation] := by
  obtain ⟨r, hr, htight, hloose⟩ := exists_run_overrideSetup
  exact ⟨r, checksParameterNames_overrideSetup, hr, isOver_overrideProgram, overrideGrammar_tight,
    overrideGrammar_loose, htight, hloose⟩

end JavaLint
