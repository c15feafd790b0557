import JavaLint.Text.LineIndex
/-!
# Searching among increasing numbers

A binary search halves the part of the numbers that it still has to look at. What is
left out below is smaller than what it looks for, and what is left out above is
larger, so it ends at the place that counting finds.

## Main statements

- `Text.rank_searchBetween` — where the search ends, from bounds with that invariant
- `Text.rank_search` — the place of a number, by counting
-/

namespace JavaLint.Text

/-- If the numbers up to `x` are the first `n` ones, then there are `n` of them. -/
theorem countP_le_eq {xs : List Nat} {x n : Nat} (hn : n ≤ xs.length)
    (h : ∀ i y, xs[i]? = some y → (y ≤ x ↔ i < n)) : xs.countP (· ≤ x) = n := by
  have hfirst : (xs.take n).countP (· ≤ x) = (xs.take n).length := by
    refine List.countP_eq_length.2 fun y hy => ?_
    obtain ⟨i, hi⟩ := List.mem_iff_getElem?.1 hy
    rw [List.getElem?_take] at hi
    split at hi
    · next hlt => exact decide_eq_true ((h i y hi).2 hlt)
    · cases hi
  have hrest : (xs.drop n).countP (· ≤ x) = 0 := by
    refine List.countP_eq_zero.2 fun y hy hle => ?_
    obtain ⟨i, hi⟩ := List.mem_iff_getElem?.1 hy
    rw [List.getElem?_drop] at hi
    exact Nat.not_lt.2 (Nat.le_add_right n i) ((h _ y hi).1 (of_decide_eq_true hle))
  rw [← List.take_append_drop n xs, List.countP_append, hfirst, hrest, List.length_take,
    Nat.min_eq_left hn, Nat.add_zero]

theorem lt_of_getElem? {xs : List Nat} (h : xs.Pairwise (· < ·)) {i j y z : Nat} (hij : i < j)
    (hy : xs[i]? = some y) (hz : xs[j]? = some z) : y < z := by
  obtain ⟨hi, rfl⟩ := List.getElem?_eq_some_iff.1 hy
  obtain ⟨hj, rfl⟩ := List.getElem?_eq_some_iff.1 hz
  exact List.pairwise_iff_getElem.1 h i j hi hj hij

/-- The search keeps what it looks for between its bounds: the numbers below `lo` are
    smaller, those from `hi` on are larger. -/
theorem rank_searchBetween {xs : Array Nat} {x lo hi : Nat} (h : xs.toList.Pairwise (· < ·))
    (hhi : hi ≤ xs.size) (hlo : lo ≤ hi)
    (hbelow : ∀ i y, i < lo → xs[i]? = some y → y < x)
    (habove : ∀ i y, hi ≤ i → xs[i]? = some y → x < y) :
    rank (searchBetween xs x lo hi) ≤ xs.size ∧
      ∀ i y, xs[i]? = some y → (y ≤ x ↔ i < rank (searchBetween xs x lo hi)) := by
  have hlt : ∀ {i j y z : Nat}, i < j → xs[i]? = some y → xs[j]? = some z → y < z := by
    intro i j y z hij hy hz
    rw [← Array.getElem?_toList] at hy hz
    exact lt_of_getElem? h hij hy hz
  fun_induction searchBetween xs x lo hi with
  | case1 lo hi hless mid hnone =>
    -- the middle lies among the numbers
    have hmid : mid < xs.size := by omega
    rw [Array.getElem?_eq_getElem hmid] at hnone
    cases hnone
  | case2 lo hi hless mid hmid =>
    have hsize : mid + 1 ≤ xs.size := by omega
    refine ⟨hsize, fun i y hy => ⟨fun hle => ?_, fun hi => ?_⟩⟩
    · refine Nat.lt_succ_of_le (Nat.le_of_not_lt fun hfar => ?_)
      exact Nat.not_lt.2 hle (hlt hfar hmid hy)
    · rcases Nat.lt_succ_iff_lt_or_eq.1 hi with hi | rfl
      · exact Nat.le_of_lt (hlt hi hy hmid)
      · exact Nat.le_of_eq (Option.some.inj (hy.symm.trans hmid))
  | case3 lo hi hless mid y hmid hne hsmall ih =>
    refine ih hhi (by omega) (fun i z hi hz => ?_) habove
    rcases Nat.lt_succ_iff_lt_or_eq.1 hi with hi | rfl
    · exact Nat.lt_trans (hlt hi hz hmid) hsmall
    · exact Option.some.inj (hmid.symm.trans hz) ▸ hsmall
  | case4 lo hi hless mid y hmid hne hlarge ih =>
    have hx : x < y := by omega
    refine ih (by omega) (by omega) hbelow fun i z hi hz => ?_
    rcases Nat.lt_or_eq_of_le hi with hi | rfl
    · exact Nat.lt_trans hx (hlt hi hmid hz)
    · exact Option.some.inj (hmid.symm.trans hz) ▸ hx
  | case5 lo hi hdone =>
    obtain rfl : lo = hi := by omega
    refine ⟨hhi, fun i y hy => ⟨fun hle => ?_, fun hi => Nat.le_of_lt (hbelow i y hi hy)⟩⟩
    exact Nat.lt_of_not_le fun hi => Nat.not_lt.2 hle (habove i y hi hy)

/-- The place of a number among increasing ones tells how many of them it is not below. -/
theorem rank_search {xs : List Nat} (h : xs.Pairwise (· < ·)) (x : Nat) :
    rank (search xs.toArray x) = xs.countP (· ≤ x) := by
  have habove : ∀ i y, xs.toArray.size ≤ i → xs.toArray[i]? = some y → x < y := by
    intro i y hi hy
    rw [Array.getElem?_eq_none hi] at hy
    cases hy
  obtain ⟨hle, hrank⟩ := rank_searchBetween h (Nat.le_refl xs.toArray.size) (Nat.zero_le _)
    (fun i y hi => absurd hi (Nat.not_lt_zero i)) habove
  refine (countP_le_eq hle fun i y hy => hrank i y ?_).symm
  rw [List.getElem?_toArray, hy]

theorem LineIndex.position_nil (tabWidth : UInt64) (offset : Nat) :
    (LineIndex.mk [] tabWidth).position offset = (0, 1) := by
  have hline : (LineIndex.mk [] tabWidth).line offset = 0 := rank_search .nil offset
  rw [position, hline]
  rfl

end JavaLint.Text
