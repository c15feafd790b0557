import JavaLint.Proofs.CheckSet.Traversal
import Mathlib.Data.List.Perm.Basic
/-!
# Checks do not influence each other

An inspection interleaves the checks node by node and sorts what they say. What
one of them contributes is nevertheless what it says alone, and the order of the
registrations shows only among violations at one place.

## Main definitions

- `CheckSet.attributed` — the violations of an inspection, each with the number of its check

## Main statements

- `CheckSet.filter_attributed_eq` — the contribution of a check is the inspection by it alone
- `CheckSet.inspect_perm_of_perm`, `CheckSet.map_position_inspect_of_perm` — what another order
  of the registrations changes
-/

namespace JavaLint

/-- Of what a list is mapped to under the numbers of its elements, the part under
    one number is what that element is mapped to. -/
theorem filterMap_zipIdx_filter_eq {α β : Type} (f : α → Option β) (before : List α) (a : α)
    (after : List α) :
    (((before ++ a :: after).zipIdx.filterMap fun x => (f x.1).map (x.2, ·)).filter
      fun y => y.1 = before.length).map Prod.snd = (f a).toList := by
  have hother : ∀ (l : List α) (k : Nat), (∀ x ∈ l.zipIdx k, x.2 ≠ before.length) →
      ((l.zipIdx k).filterMap fun x => (f x.1).map (x.2, ·)).filter
        (fun y => y.1 = before.length) = [] := by
    intro l k hl
    refine List.filter_eq_nil_iff.2 fun y hy => ?_
    obtain ⟨x, hx, hy⟩ := List.mem_filterMap.1 hy
    obtain ⟨b, -, rfl⟩ := Option.map_eq_some_iff.1 hy
    simpa using hl x hx
  have hbefore := hother before 0 fun x hx =>
    Nat.ne_of_lt (by simpa using (List.mem_zipIdx hx).2.1)
  have hafter := hother after (before.length + 1) fun x hx =>
    Nat.ne_of_gt (List.mem_zipIdx hx).1
  rw [List.zipIdx_append, List.zipIdx_cons, List.filterMap_append, List.filter_append, hbefore,
    List.nil_append, Nat.zero_add, List.filterMap_cons]
  cases f a with
  | none => simp [hafter]
  | some b => simp [hafter]

namespace CheckSet

variable {rs rs' before after : List Registration} {r : Registration} {s s' : CheckSet}

/-- The violations of an inspection in their order, each with the number of the
    check that reports it. -/
def attributed (s : CheckSet) (u : SourceUnit) : List (Nat × Violation) :=
  (s.reports u).mergeSort fun a b => (a.2.comparePosition b.2).isLE

theorem map_snd_attributed (s : CheckSet) (u : SourceUnit) :
    (s.attributed u).map Prod.snd = s.inspect u := by
  rw [inspect_eq_mergeSort_said?, ← map_snd_reports]
  exact List.map_mergeSort fun _ _ _ _ => rfl

/-! ## The contribution of one check -/

theorem plainFindings_singleton (r : Registration) (u : SourceUnit) :
    plainFindings [r] u = u.tree.preorder.flatMap fun id => (r.verdict? u id).toList := by
  unfold plainFindings
  refine List.flatMap_congr fun id _ => ?_
  cases h : r.verdict? u id <;> simp [h]

/-- What comes from one check is what an inspection by it alone yields. -/
theorem filter_attributed_eq (h : ofRegistrations (before ++ r :: after) = .ok s)
    {alone : CheckSet} (halone : ofRegistrations [r] = .ok alone) (u : SourceUnit) :
    ((s.attributed u).filter fun report => report.1 = before.length).map Prod.snd =
      alone.inspect u := by
  have hfilter := filter_mergeSort (fun a b : Nat × Violation => (a.2.comparePosition b.2).isLE)
    (fun _ _ _ => Violation.comparePosition_trans)
    (fun a b => Violation.comparePosition_total a.2 b.2)
    (fun report => decide (report.1 = before.length)) (s.reports u)
  have hmine : ((s.reports u).filter fun report => report.1 = before.length).map Prod.snd =
      plainFindings [r] u := by
    rw [reports_eq h, List.filter_flatMap, List.map_flatMap, plainFindings_singleton]
    exact List.flatMap_congr fun id _ =>
      filterMap_zipIdx_filter_eq (fun r : Registration => r.verdict? u id) before r after
  calc ((s.attributed u).filter fun report => report.1 = before.length).map Prod.snd
      = (((s.reports u).filter fun report => report.1 = before.length).mergeSort
          fun a b => (a.2.comparePosition b.2).isLE).map Prod.snd := by
        rw [attributed, hfilter]
    _ = (plainFindings [r] u).mergeSort fun a b => (a.comparePosition b).isLE := by
        rw [← hmine]
        exact List.map_mergeSort fun _ _ _ _ => rfl
    _ = alone.inspect u := (inspect_eq_mergeSort_plainFindings halone u).symm

/-- A violation is attributed to a check that reports it. -/
theorem exists_verdict?_of_mem_attributed (h : ofRegistrations rs = .ok s) {u : SourceUnit}
    {report : Nat × Violation} (hreport : report ∈ s.attributed u) :
    ∃ r id, rs[report.1]? = some r ∧ r.verdict? u id = some report.2 := by
  rw [attributed, List.mem_mergeSort, reports_eq h, List.mem_flatMap] at hreport
  obtain ⟨id, -, hreport⟩ := hreport
  obtain ⟨⟨r, i⟩, hr, hsome⟩ := List.mem_filterMap.1 hreport
  obtain ⟨v, hverdict, rfl⟩ := Option.map_eq_some_iff.1 hsome
  exact ⟨r, id, List.mem_zipIdx_iff_getElem?.1 hr, hverdict⟩

/-! ## Another order of the registrations -/

theorem plainFindings_perm (h : rs'.Perm rs) (u : SourceUnit) :
    (plainFindings rs' u).Perm (plainFindings rs u) :=
  List.Perm.flatMap_left _ fun id _ => h.filterMap (·.verdict? u id)

theorem inspect_perm_of_perm (h : ofRegistrations rs = .ok s) (h' : ofRegistrations rs' = .ok s')
    (hperm : rs'.Perm rs) (u : SourceUnit) : (s'.inspect u).Perm (s.inspect u) := by
  rw [inspect_eq_mergeSort_plainFindings h, inspect_eq_mergeSort_plainFindings h']
  exact (List.mergeSort_perm _ _).trans
    ((plainFindings_perm hperm u).trans (List.mergeSort_perm _ _).symm)

theorem map_position_inspect_of_perm (h : ofRegistrations rs = .ok s)
    (h' : ofRegistrations rs' = .ok s') (hperm : rs'.Perm rs) (u : SourceUnit) :
    (s'.inspect u).map Violation.position = (s.inspect u).map Violation.position := by
  rw [inspect_eq_mergeSort_plainFindings h, inspect_eq_mergeSort_plainFindings h']
  exact Violation.map_position_mergeSort_of_perm (plainFindings_perm hperm u)

/-- Registrations that make a set do so in any selection and order. -/
theorem exists_ofRegistrations_of_subset (h : ofRegistrations rs = .ok s) (hsub : rs' ⊆ rs) :
    ∃ s', ofRegistrations rs' = .ok s' :=
  exists_ofRegistrations_iff.2 fun r hr => exists_ofRegistrations_iff.1 ⟨s, h⟩ r (hsub hr)

/-- Checks do not influence each other. The violations of an inspection can be
    attributed to the checks that report them, and those of each check are what an
    inspection by that check alone yields, in the same order. Registering the
    checks in another order permutes the violations, and as the places stay as they
    are one by one, only violations at one place change their order. -/
theorem inspect_independent (h : ofRegistrations rs = .ok s) :
    (∀ u, (s.attributed u).map Prod.snd = s.inspect u ∧
      ∀ report ∈ s.attributed u, ∃ r id, rs[report.1]? = some r ∧
        r.verdict? u id = some report.2) ∧
    (∀ before r after, rs = before ++ r :: after → ∃ alone, ofRegistrations [r] = .ok alone ∧
      ∀ u, ((s.attributed u).filter fun report => report.1 = before.length).map Prod.snd =
        alone.inspect u) ∧
    ∀ rs', rs'.Perm rs → ∃ s', ofRegistrations rs' = .ok s' ∧
      ∀ u, (s'.inspect u).Perm (s.inspect u) ∧
        (s'.inspect u).map Violation.position = (s.inspect u).map Violation.position := by
  refine ⟨fun u => ⟨s.map_snd_attributed u, fun _ => exists_verdict?_of_mem_attributed h⟩, ?_, ?_⟩
  · rintro before r after rfl
    have hsub : [r] ⊆ before ++ r :: after := by simp
    obtain ⟨alone, halone⟩ := exists_ofRegistrations_of_subset h hsub
    exact ⟨alone, halone, filter_attributed_eq h halone⟩
  · intro rs' hperm
    obtain ⟨s', h'⟩ := exists_ofRegistrations_of_subset h hperm.subset
    exact ⟨s', h', fun u =>
      ⟨inspect_perm_of_perm h h' hperm u, map_position_inspect_of_perm h h' hperm u⟩⟩

/-- A method and its parameter at one place. -/
def crowded : SourceUnit :=
  ⟨"A.java", ((Tree.ofUnit "A.java").attached 0 ⟨.method, "m", ⟨1, 1⟩, 0, {}⟩).attached 1
    ⟨.parameter .formal, "x", ⟨1, 1⟩, 0, {}⟩⟩

/-- One check is registered twice, the second time for methods as well. -/
theorem inspect_independent_recorder :
    ∃ s alone swapped, ofRegistrations [{ check := recorder, tokens := some [.parameterDef] },
        { check := recorder }] = .ok s ∧
      ofRegistrations [{ check := recorder }] = .ok alone ∧
      ofRegistrations [{ check := recorder },
        { check := recorder, tokens := some [.parameterDef] }] = .ok swapped ∧
      (s.attributed crowded).map Prod.snd = s.inspect crowded ∧
      ((s.attributed crowded).filter fun report => report.1 = 1).map Prod.snd =
        alone.inspect crowded ∧
      (swapped.inspect crowded).Perm (s.inspect crowded) ∧
      (swapped.inspect crowded).map Violation.position =
        (s.inspect crowded).map Violation.position := by
  obtain ⟨s, hs⟩ : ∃ s, ofRegistrations [{ check := recorder, tokens := some [.parameterDef] },
    { check := recorder }] = .ok s := ⟨_, rfl⟩
  obtain ⟨hattributed, hone, hperm⟩ := inspect_independent hs
  obtain ⟨alone, halone, hmine⟩ := hone [_] { check := recorder } [] rfl
  obtain ⟨swapped, hswapped, hsame⟩ := hperm [{ check := recorder },
    { check := recorder, tokens := some [.parameterDef] }] (List.Perm.swap _ _ _)
  exact ⟨s, alone, swapped, hs, halone, hswapped, (hattributed crowded).1, hmine crowded,
    (hsame crowded).1, (hsame crowded).2⟩

end CheckSet

end JavaLint
