import JavaLint.Tree
import JavaLint.Violation
import Mathlib.Data.List.Forall2
/-!
# Stable sorting

Violations are sorted by place, and those at one place keep the order in which
they were found.

## Main definitions

- `Violation.SortsStably` — one list is another one, sorted by place with ties left in order

## Main statements

- `pairwise_mergeSort_stable` — a sorted list is in order, and ties keep the order of the input
- `filter_mergeSort`, `filterMap_mergeSort` — elements can be left out or changed before or
  after sorting
- `forall₂_mergeSort` — lists that correspond element by element do so when they are sorted
- `Violation.comparePosition_isLE_iff` — the order by line and column
- `Violation.map_position_mergeSort_of_perm` — the places of a sorted list do not depend on the
  order of the input
-/

namespace JavaLint

/-- A sorted list is in order, and what compares equal keeps a relation that
    holds along the input. -/
theorem pairwise_mergeSort_stable {α : Type} (le : α → α → Bool) {R : α → α → Prop} {l : List α}
    (trans : ∀ a b c, le a b = true → le b c = true → le a c = true)
    (total : ∀ a b, (le a b || le b a) = true) (hl : l.Pairwise R) :
    (l.mergeSort le).Pairwise fun a b => le a b = true ∧ (le b a = true → R a b) := by
  -- positions in the input decide between elements that compare equal
  rw [← List.mergeSort_zipIdx, List.pairwise_map]
  have hsorted := List.pairwise_mergeSort (List.zipIdxLE_trans trans) (List.zipIdxLE_total total)
    l.zipIdx
  have hperm := List.mergeSort_perm l.zipIdx (List.zipIdxLE le)
  have hdistinct : (l.zipIdx.mergeSort (List.zipIdxLE le)).Pairwise fun a b => a.2 ≠ b.2 := by
    refine (hperm.pairwise_iff fun {a b} (h : a.2 ≠ b.2) => h.symm).2 ?_
    refine List.pairwise_iff_getElem.2 fun i j hi hj hij => ?_
    simpa using Nat.ne_of_lt hij
  refine (hsorted.and hdistinct).imp_of_mem ?_
  rintro ⟨a, i⟩ ⟨b, j⟩ ha hb ⟨hle, hne⟩
  obtain ⟨-, hi, hai⟩ := List.mem_zipIdx (hperm.mem_iff.1 ha)
  obtain ⟨-, hj, hbj⟩ := List.mem_zipIdx (hperm.mem_iff.1 hb)
  simp only [List.zipIdxLE] at hle
  split at hle
  · next hab =>
    refine ⟨hab, fun hba => ?_⟩
    simp only [hba, if_true, decide_eq_true_eq] at hle
    have hlt : i < j := Nat.lt_of_le_of_ne hle hne
    simp only [Nat.sub_zero] at hai hbj
    rw [hai, hbj]
    exact List.pairwise_iff_getElem.1 hl i j _ _ hlt
  · simp at hle

/-- Along a list that some relation puts in a strict order, what is left out of
    the sorted list can be left out before sorting. -/
theorem filter_mergeSort_of_pairwise {α : Type} (le : α → α → Bool) {R : α → α → Prop} {l : List α}
    (trans : ∀ a b c, le a b = true → le b c = true → le a c = true)
    (total : ∀ a b, (le a b || le b a) = true) (asymm : ∀ a b, R a b → ¬ R b a)
    (hl : l.Pairwise R) (p : α → Bool) :
    (l.mergeSort le).filter p = (l.filter p).mergeSort le := by
  have hperm : ((l.mergeSort le).filter p).Perm ((l.filter p).mergeSort le) :=
    ((List.mergeSort_perm l le).filter p).trans (List.mergeSort_perm _ le).symm
  -- both lists are in the order of `le` with ties in the order of `R`, and only one list is
  refine hperm.eq_of_pairwise ?_ ((pairwise_mergeSort_stable le trans total hl).filter p)
    (pairwise_mergeSort_stable le trans total (hl.filter p))
  rintro a b - - ⟨hab, hties⟩ ⟨hba, hties'⟩
  exact absurd (hties' hab) (asymm a b (hties hba))

/-- Elements can be left out before or after sorting. -/
theorem filter_mergeSort {α : Type} (le : α → α → Bool)
    (trans : ∀ a b c, le a b = true → le b c = true → le a c = true)
    (total : ∀ a b, (le a b || le b a) = true) (p : α → Bool) (l : List α) :
    (l.mergeSort le).filter p = (l.filter p).mergeSort le := by
  -- the positions in the list tell equal elements apart
  have hsort : ∀ m : List (α × Nat),
      (m.mergeSort fun a b => le a.1 b.1).map Prod.fst = (m.map Prod.fst).mergeSort le :=
    fun m => List.map_mergeSort fun _ _ _ _ => rfl
  have hpositions : l.zipIdx.Pairwise fun a b => a.2 < b.2 := by
    refine List.pairwise_iff_getElem.2 fun i j hi hj hij => ?_
    simpa using hij
  have hfilter := filter_mergeSort_of_pairwise (fun a b : α × Nat => le a.1 b.1)
    (fun a b c => trans a.1 b.1 c.1) (fun a b => total a.1 b.1)
    (fun a b hab hba => Nat.lt_asymm hab hba) hpositions (p ∘ Prod.fst)
  calc (l.mergeSort le).filter p
      = ((l.zipIdx.mergeSort fun a b => le a.1 b.1).map Prod.fst).filter p := by
        rw [hsort, List.zipIdx_map_fst]
    _ = ((l.zipIdx.filter (p ∘ Prod.fst)).mergeSort fun a b => le a.1 b.1).map Prod.fst := by
        rw [List.filter_map, hfilter]
    _ = (l.filter p).mergeSort le := by
        rw [hsort, ← List.filter_map, List.zipIdx_map_fst]

/-- Elements can be left out or changed before or after sorting, if the changes keep the
    order that they are sorted by. -/
theorem filterMap_mergeSort {α : Type} (le : α → α → Bool)
    (trans : ∀ a b c, le a b = true → le b c = true → le a c = true)
    (total : ∀ a b, (le a b || le b a) = true) {g : α → Option α}
    (hg : ∀ a b a' b', g a = some a' → g b = some b' → le a' b' = le a b) (l : List α) :
    (l.mergeSort le).filterMap g = (l.filterMap g).mergeSort le := by
  -- leave out first, then change what is left
  have hsplit : ∀ m : List α, m.filterMap g =
      (m.filter fun a => (g a).isSome).map fun a => (g a).getD a := by
    intro m
    induction m with
    | nil => rfl
    | cons a m ih =>
      cases ha : g a with
      | none => simp [ha, ih]
      | some a' => simp [ha, ih]
  rw [hsplit, hsplit, filter_mergeSort le trans total]
  refine List.map_mergeSort fun a ha b hb => ?_
  obtain ⟨a', ha'⟩ := Option.isSome_iff_exists.1 (List.mem_filter.1 ha).2
  obtain ⟨b', hb'⟩ := Option.isSome_iff_exists.1 (List.mem_filter.1 hb).2
  rw [ha', hb']
  exact (hg a b a' b' ha' hb').symm

/-- Lists that correspond element by element do so when they are sorted, if corresponding
    elements compare alike. -/
theorem forall₂_mergeSort {α β : Type} {R : α → β → Prop} {le : α → α → Bool} {le' : β → β → Bool}
    {l : List α} {l' : List β} (h : List.Forall₂ R l l')
    (hle : ∀ a b a' b', R a a' → R b b' → le a b = le' a' b') :
    List.Forall₂ R (l.mergeSort le) (l'.mergeSort le') := by
  obtain ⟨hlength, hzip⟩ := List.forall₂_iff_zip.1 h
  have hpairs : ∀ p ∈ l.zip l', R p.1 p.2 := fun p hp => hzip hp
  -- both lists are sorted as the list of their pairs is
  have hleft := List.map_mergeSort (r := fun p q => le p.1 q.1) (s := le) (f := Prod.fst)
    (l := l.zip l') fun _ _ _ _ => rfl
  have hright := List.map_mergeSort (r := fun p q => le p.1 q.1) (s := le') (f := Prod.snd)
    (l := l.zip l') fun p hp q hq => hle _ _ _ _ (hpairs p hp) (hpairs q hq)
  rw [List.map_fst_zip (Nat.le_of_eq hlength)] at hleft
  rw [List.map_snd_zip (Nat.le_of_eq hlength.symm)] at hright
  rw [← hleft, ← hright, List.forall₂_map_left_iff, List.forall₂_map_right_iff, List.forall₂_same]
  exact fun p hp => hpairs p (List.mem_mergeSort.1 hp)

namespace Violation

variable {a b c : Violation} {found found' : List Violation}

/-- One violation comes before another one by its line, and on one line by its column. -/
theorem comparePosition_isLE_iff :
    (a.comparePosition b).isLE = true ↔
      a.location.line < b.location.line ∨
        a.location.line = b.location.line ∧ a.location.column ≤ b.location.column := by
  unfold comparePosition
  rw [Ordering.isLE_then_iff_or, Nat.compare_eq_lt, Nat.compare_eq_eq, Nat.isLE_compare]

theorem comparePosition_trans (hab : (a.comparePosition b).isLE = true)
    (hbc : (b.comparePosition c).isLE = true) : (a.comparePosition c).isLE = true := by
  rw [comparePosition_isLE_iff] at hab hbc ⊢
  omega

theorem comparePosition_total (a b : Violation) :
    ((a.comparePosition b).isLE || (b.comparePosition a).isLE) = true := by
  rw [Bool.or_eq_true, comparePosition_isLE_iff, comparePosition_isLE_iff]
  omega

/-- Where a violation stands in its file. -/
def position (v : Violation) : Position :=
  ⟨v.location.line, v.location.column⟩

theorem comparePosition_isLE_of_position_eq (h : a.position = b.position) :
    (a.comparePosition b).isLE = true := by
  obtain ⟨hline, hcolumn⟩ := Position.mk.inj h
  exact comparePosition_isLE_iff.2 (.inr ⟨hline, Nat.le_of_eq hcolumn⟩)

/-- `SortsStably found sorted`: the violations of `sorted` are those of `found`
    in the order of their places, and those at one place stand as in `found`. -/
structure SortsStably (found sorted : List Violation) : Prop where
  perm : sorted.Perm found
  pairwise : sorted.Pairwise fun a b => (a.comparePosition b).isLE = true
  filter_position (place : Position) :
    sorted.filter (·.position = place) = found.filter (·.position = place)

theorem pairwise_mergeSort_comparePosition (found : List Violation) :
    (found.mergeSort fun a b => (a.comparePosition b).isLE).Pairwise
      fun a b => (a.comparePosition b).isLE = true := by
  refine List.pairwise_mergeSort ?_ comparePosition_total found
  exact fun _ _ _ => comparePosition_trans

theorem sortsStably_mergeSort (found : List Violation) :
    SortsStably found (found.mergeSort fun a b => (a.comparePosition b).isLE) where
  perm := List.mergeSort_perm ..
  pairwise := pairwise_mergeSort_comparePosition found
  filter_position place := by
    rw [filter_mergeSort (fun a b : Violation => (a.comparePosition b).isLE)
      (fun _ _ _ => comparePosition_trans) comparePosition_total]
    -- violations at one place are in order as they are
    refine List.mergeSort_of_pairwise (List.pairwise_iff_forall_sublist.2 fun {v w} hsub => ?_)
    have hv : v ∈ found.filter (·.position = place) := hsub.subset (by simp)
    have hw : w ∈ found.filter (·.position = place) := hsub.subset (by simp)
    simp only [List.mem_filter, decide_eq_true_eq] at hv hw
    exact comparePosition_isLE_of_position_eq (hv.2.trans hw.2.symm)

/-- The places of a sorted list do not depend on the order of the input. -/
theorem map_position_mergeSort_of_perm (h : found.Perm found') :
    (found.mergeSort fun a b => (a.comparePosition b).isLE).map position =
      (found'.mergeSort fun a b => (a.comparePosition b).isLE).map position := by
  have hperm := (List.mergeSort_perm found fun a b => (a.comparePosition b).isLE).trans
    (h.trans (List.mergeSort_perm found' fun a b => (a.comparePosition b).isLE).symm)
  have hsorted : ∀ vs : List Violation,
      ((vs.mergeSort fun a b => (a.comparePosition b).isLE).map position).Pairwise fun p q =>
        p.line < q.line ∨ p.line = q.line ∧ p.column ≤ q.column := fun vs =>
    List.pairwise_map.2 ((pairwise_mergeSort_comparePosition vs).imp comparePosition_isLE_iff.1)
  refine (hperm.map position).eq_of_pairwise ?_ (hsorted found) (hsorted found')
  rintro ⟨line, column⟩ ⟨line', column'⟩ - - hle hge
  simp only [Position.mk.injEq] at hle hge ⊢
  omega

end Violation

end JavaLint
