import JavaLint.Regex.Basic
/-!
# What regular expressions match

A regular expression relates the positions of a text at which a match starts
and ends. The matcher works on sets of positions instead; this file shows that
it computes images under that relation.

## Main definitions

- `Regex.Matches` — an expression matches a text from one position to another
- `Regex.MatchesWhole` — an expression matches all of a text
- `Positions.Fits`, `Positions.Computes` — sets of positions, and functions that compute images

## Main statements

- `Regex.computes_ends` — the matcher computes the image under `Regex.Matches`
- `Regex.isMatch_iff` — the matcher finds a match if there is one
- `Regex.isMatch_anchored_iff` — between the ends of the text, all of it has to match
-/

namespace JavaLint

/-- `count` steps of a relation one after the other. -/
def Steps (R : Nat → Nat → Prop) : Nat → Nat → Nat → Prop
  | 0, i, j => i = j
  | count + 1, i, k => ∃ j, R i j ∧ Steps R count j k

/-- The expression matches the text from position `i` up to position `j`. A
    repetition with a greatest count below its least one takes the least one. -/
def Regex.Matches (text : Array Char) : Regex → Nat → Nat → Prop
  | .empty, i, j => i = j
  | .chars set, i, j => ∃ c, text[i]? = some c ∧ set.mem c.toNat = true ∧ i + 1 = j
  | .look condition, i, j => condition.holds text i = true ∧ i = j
  | .concat a b, i, k => ∃ j, a.Matches text i j ∧ b.Matches text j k
  | .alt a b, i, j => a.Matches text i j ∨ b.Matches text i j
  | .repetition r min max, i, j =>
    ∃ count, min ≤ count ∧ (∀ m, max = some m → count ≤ Nat.max min m) ∧
      Steps (r.Matches text) count i j

/-- The expression matches all of the text. -/
def Regex.MatchesWhole (r : Regex) (text : String) : Prop :=
  r.Matches text.toList.toArray 0 text.toList.length

theorem Steps.trans {R : Nat → Nat → Prop} {m n i j k : Nat} (h : Steps R m i j)
    (h' : Steps R n j k) : Steps R (m + n) i k := by
  induction m generalizing i with
  | zero =>
    obtain rfl : i = j := h
    rwa [Nat.zero_add]
  | succ m ih =>
    obtain ⟨l, hl, h⟩ := h
    rw [Nat.succ_add]
    exact ⟨l, hl, ih h⟩

theorem Steps.split {R : Nat → Nat → Prop} {m n i k : Nat} (h : Steps R (m + n) i k) :
    ∃ j, Steps R m i j ∧ Steps R n j k := by
  induction m generalizing i with
  | zero => exact ⟨i, rfl, Nat.zero_add n ▸ h⟩
  | succ m ih =>
    rw [Nat.succ_add] at h
    obtain ⟨l, hl, h⟩ := h
    obtain ⟨j, hj, hjk⟩ := ih h
    exact ⟨j, ⟨l, hl, hj⟩, hjk⟩

namespace Positions

/-- An ascending list of positions of a text with `size` characters. -/
structure Fits (size : Nat) (p : Positions) : Prop where
  ascending : p.Pairwise (· < ·)
  bounded : ∀ i ∈ p, i ≤ size

/-- On sets of positions, `step` computes the image under `R`. -/
def Computes (size : Nat) (step : Positions → Positions) (R : Nat → Nat → Prop) : Prop :=
  ∀ p, Fits size p → Fits size (step p) ∧ ∀ j, j ∈ step p ↔ ∃ i ∈ p, R i j

variable {size : Nat} {p q : Positions} {step step' : Positions → Positions}
  {R R' : Nat → Nat → Prop}

/-! ## Operations on sets of positions -/

theorem mem_union {j : Nat} : j ∈ union p q ↔ j ∈ p ∨ j ∈ q := by
  fun_induction union p q with
  | case1 => simp
  | case2 => simp
  | case3 i p k q hlt ih => simp only [List.mem_cons, ih, or_assoc]
  | case4 i p k q hge hlt ih => simp only [List.mem_cons, ih, or_left_comm]
  | case5 i p k q hge hle ih =>
    have heq : i = k := Nat.le_antisymm (Nat.not_lt.1 hle) (Nat.not_lt.1 hge)
    simp only [List.mem_cons, ih, heq]
    grind

theorem union_ascending (hp : p.Pairwise (· < ·)) (hq : q.Pairwise (· < ·)) :
    (union p q).Pairwise (· < ·) := by
  fun_induction union p q with
  | case1 => exact hq
  | case2 => exact hp
  | case3 i p k q hlt ih =>
    obtain ⟨hi, hp⟩ := List.pairwise_cons.1 hp
    -- what the union has left comes from either list, and both go on above `i`
    refine List.pairwise_cons.2 ⟨fun j hj => ?_, ih hp hq⟩
    rcases mem_union.1 hj with hj | hj
    · exact hi j hj
    · rcases List.mem_cons.1 hj with rfl | hj
      · exact hlt
      · exact Nat.lt_trans hlt ((List.pairwise_cons.1 hq).1 j hj)
  | case4 i p k q hge hlt ih =>
    obtain ⟨hk, hq⟩ := List.pairwise_cons.1 hq
    refine List.pairwise_cons.2 ⟨fun j hj => ?_, ih hp hq⟩
    rcases mem_union.1 hj with hj | hj
    · rcases List.mem_cons.1 hj with rfl | hj
      · exact hlt
      · exact Nat.lt_trans hlt ((List.pairwise_cons.1 hp).1 j hj)
    · exact hk j hj
  | case5 i p k q hge hle ih =>
    have heq : i = k := Nat.le_antisymm (Nat.not_lt.1 hle) (Nat.not_lt.1 hge)
    obtain ⟨hi, hp⟩ := List.pairwise_cons.1 hp
    obtain ⟨hk, hq⟩ := List.pairwise_cons.1 hq
    refine List.pairwise_cons.2 ⟨fun j hj => ?_, ih hp hq⟩
    exact (mem_union.1 hj).elim (hi j) fun hj => heq ▸ hk j hj

theorem without_sublist (p q : Positions) : (without p q).Sublist p := by
  fun_induction without p q with
  | case1 => exact List.Sublist.refl _
  | case2 => exact List.Sublist.refl _
  | case3 i p k q hlt ih => exact ih.cons_cons i
  | case4 i p k q hge hlt ih => exact ih
  | case5 i p k q hge hle ih => exact ih.cons i

theorem mem_without {j : Nat} (hp : p.Pairwise (· < ·)) (hq : q.Pairwise (· < ·)) :
    j ∈ without p q ↔ j ∈ p ∧ j ∉ q := by
  fun_induction without p q with
  | case1 => simp
  | case2 => simp
  | case3 i p k q hlt ih =>
    obtain ⟨hi, hp⟩ := List.pairwise_cons.1 hp
    -- `i` is below all of the second list, so it stays
    have hnot : i ∉ k :: q := by
      intro h
      rcases List.mem_cons.1 h with h | h
      · omega
      · exact Nat.lt_asymm hlt ((List.pairwise_cons.1 hq).1 i h)
    rw [List.mem_cons (b := i), List.mem_cons (b := i), ih hp hq, or_and_right]
    refine or_congr_left ⟨fun h => ⟨h, h ▸ hnot⟩, fun h => h.1⟩
  | case4 i p k q hge hlt ih =>
    obtain ⟨hk, hq⟩ := List.pairwise_cons.1 hq
    -- `k` is below all of the first list, so dropping it changes nothing
    have hne : ∀ l ∈ i :: p, l ≠ k := by
      intro l hl
      rcases List.mem_cons.1 hl with rfl | hl
      · omega
      · have := (List.pairwise_cons.1 hp).1 l hl
        omega
    rw [ih hp hq, List.mem_cons (a := j) (b := k), not_or]
    exact ⟨fun h => ⟨h.1, hne j h.1, h.2⟩, fun h => ⟨h.1, h.2.2⟩⟩
  | case5 i p k q hge hle ih =>
    have heq : i = k := Nat.le_antisymm (Nat.not_lt.1 hle) (Nat.not_lt.1 hge)
    obtain ⟨hi, hp⟩ := List.pairwise_cons.1 hp
    obtain ⟨hk, hq⟩ := List.pairwise_cons.1 hq
    rw [ih hp hq, List.mem_cons, List.mem_cons, not_or]
    constructor
    · rintro ⟨hj, hjq⟩
      exact ⟨Or.inr hj, heq ▸ Nat.ne_of_gt (hi j hj), hjq⟩
    · rintro ⟨rfl | hj, hne, hjq⟩
      · exact absurd heq hne
      · exact ⟨hj, hjq⟩

theorem Fits.union (hp : Fits size p) (hq : Fits size q) : Fits size (union p q) :=
  ⟨union_ascending hp.ascending hq.ascending,
    fun i hi => (mem_union.1 hi).elim (hp.bounded i) (hq.bounded i)⟩

theorem Fits.without (hp : Fits size p) (q : Positions) : Fits size (without p q) :=
  ⟨hp.ascending.sublist (without_sublist p q),
    fun i hi => hp.bounded i ((without_sublist p q).subset hi)⟩

theorem Fits.length_le (hp : Fits size p) : p.length ≤ size + 1 := by
  have hnodup : p.Nodup := hp.ascending.imp Nat.ne_of_lt
  have hsub : p ⊆ List.range (size + 1) := fun i hi =>
    List.mem_range.2 (Nat.lt_succ_of_le (hp.bounded i hi))
  simpa using hnodup.length_le_of_subset hsub

/-! ## Images -/

theorem Computes.comp (h : Computes size step R) (h' : Computes size step' R') :
    Computes size (step' ∘ step) fun i k => ∃ j, R i j ∧ R' j k := by
  intro p hp
  obtain ⟨hfits, hmem⟩ := h p hp
  obtain ⟨hfits', hmem'⟩ := h' _ hfits
  refine ⟨hfits', fun k => ?_⟩
  rw [Function.comp, hmem']
  constructor
  · rintro ⟨j, hj, hjk⟩
    obtain ⟨i, hi, hij⟩ := (hmem j).1 hj
    exact ⟨i, hi, j, hij, hjk⟩
  · rintro ⟨i, hi, j, hij, hjk⟩
    exact ⟨j, (hmem j).2 ⟨i, hi, hij⟩, hjk⟩

theorem Computes.union (h : Computes size step R) (h' : Computes size step' R') :
    Computes size (fun p => Positions.union (step p) (step' p)) fun i j => R i j ∨ R' i j := by
  intro p hp
  obtain ⟨hfits, hmem⟩ := h p hp
  obtain ⟨hfits', hmem'⟩ := h' p hp
  refine ⟨hfits.union hfits', fun j => ?_⟩
  rw [mem_union, hmem, hmem']
  constructor
  · rintro (⟨i, hi, hij⟩ | ⟨i, hi, hij⟩)
    · exact ⟨i, hi, Or.inl hij⟩
    · exact ⟨i, hi, Or.inr hij⟩
  · rintro ⟨i, hi, hij | hij⟩
    · exact Or.inl ⟨i, hi, hij⟩
    · exact Or.inr ⟨i, hi, hij⟩

/-- A set that a step does not change is its own image under any number of steps. -/
theorem Computes.mem_iff_steps_of_fixed (h : Computes size step R) (hp : Fits size p)
    (hfix : step p = p) (count j : Nat) : j ∈ p ↔ ∃ i ∈ p, Steps R count i j := by
  induction count generalizing j with
  | zero => exact ⟨fun hj => ⟨j, hj, rfl⟩, fun ⟨i, hi, hij⟩ => (show i = j from hij) ▸ hi⟩
  | succ count ih =>
    have himage : ∀ k, k ∈ p ↔ ∃ i ∈ p, R i k := fun k => by
      conv => lhs; rw [← hfix]
      exact (h p hp).2 k
    rw [ih]
    constructor
    · rintro ⟨k, hk, hkj⟩
      obtain ⟨i, hi, hik⟩ := (himage k).1 hk
      exact ⟨i, hi, k, hik, hkj⟩
    · rintro ⟨i, hi, k, hik, hkj⟩
      exact ⟨k, (himage k).2 ⟨i, hi, hik⟩, hkj⟩

theorem Computes.rounds (h : Computes size step R) (count : Nat) :
    Computes size (rounds step count) (Steps R count) := by
  induction count with
  | zero =>
    intro p hp
    exact ⟨hp, fun j => ⟨fun hj => ⟨j, hj, rfl⟩, fun ⟨i, hi, hij⟩ => (show i = j from hij) ▸ hi⟩⟩
  | succ count ih =>
    intro p hp
    unfold Positions.rounds
    simp only
    split
    -- the matcher stops early at a set that is its own image
    · next hfix => exact ⟨hp, h.mem_iff_steps_of_fixed hp hfix (count + 1)⟩
    · exact (h.comp ih) p hp

/-! ## Closure -/

/-- `j` is reached from `base` in at most `count` steps. -/
def Within (R : Nat → Nat → Prop) (base : Positions) (count j : Nat) : Prop :=
  ∃ n, n ≤ count ∧ ∃ i ∈ base, Steps R n i j

theorem within_succ_iff {base : Positions} {count j : Nat} :
    Within R base (count + 1) j ↔
      Within R base count j ∨ ∃ i, Within R base count i ∧ R i j := by
  constructor
  · rintro ⟨n, hn, i, hi, hsteps⟩
    rcases Nat.lt_or_eq_of_le hn with hlt | rfl
    · exact Or.inl ⟨n, Nat.le_of_lt_succ hlt, i, hi, hsteps⟩
    · obtain ⟨k, hk, l, hl, hlj⟩ := hsteps.split
      obtain rfl : l = j := hlj
      exact Or.inr ⟨k, ⟨count, Nat.le_refl _, i, hi, hk⟩, hl⟩
  · rintro (⟨n, hn, h⟩ | ⟨k, ⟨n, hn, i, hi, hk⟩, hkj⟩)
    · exact ⟨n, Nat.le_succ_of_le hn, h⟩
    · exact ⟨n + 1, Nat.succ_le_succ hn, i, hi, hk.trans ⟨j, hkj, rfl⟩⟩

/-- How far a closure has come: `seen` holds what is reached in at most `count`
    steps, and one more step from all of it but `fresh` leads nowhere new. -/
structure Progress (size : Nat) (R : Nat → Nat → Prop) (base : Positions) (count : Nat)
    (fresh seen : Positions) : Prop where
  fresh_fits : Fits size fresh
  seen_fits : Fits size seen
  fresh_subset : ∀ i ∈ fresh, i ∈ seen
  mem_seen (j : Nat) : j ∈ seen ↔ Within R base count j
  settled {i j : Nat} : i ∈ seen → i ∉ fresh → R i j → j ∈ seen

variable {base fresh seen : Positions} {count : Nat}

theorem Progress.start (hp : Fits size base) : Progress size R base 0 base base where
  fresh_fits := hp
  seen_fits := hp
  fresh_subset _ hi := hi
  mem_seen j := by
    constructor
    · exact fun hj => ⟨0, Nat.le_refl _, j, hj, rfl⟩
    · rintro ⟨n, hn, i, hi, hsteps⟩
      obtain rfl := Nat.le_zero.1 hn
      exact (show i = j from hsteps) ▸ hi
  settled hi hfresh _ := absurd hi hfresh

/-- What a step from `fresh` reaches is new or has been seen. -/
theorem Progress.mem_without (hstep : Computes size step R)
    (h : Progress size R base count fresh seen) {j : Nat} :
    j ∈ without (step fresh) seen ↔ (∃ i ∈ fresh, R i j) ∧ j ∉ seen := by
  obtain ⟨hfits, hmem⟩ := hstep fresh h.fresh_fits
  rw [Positions.mem_without hfits.ascending h.seen_fits.ascending, hmem]

theorem Progress.next (hstep : Computes size step R)
    (h : Progress size R base count fresh seen) :
    Progress size R base (count + 1) (without (step fresh) seen)
      (union seen (without (step fresh) seen)) where
  fresh_fits := (hstep fresh h.fresh_fits).1.without seen
  seen_fits := h.seen_fits.union ((hstep fresh h.fresh_fits).1.without seen)
  fresh_subset i hi := mem_union.2 (Or.inr hi)
  mem_seen j := by
    rw [mem_union, h.mem_without hstep, within_succ_iff, h.mem_seen]
    constructor
    · rintro (hj | ⟨⟨i, hi, hij⟩, -⟩)
      · exact Or.inl hj
      · exact Or.inr ⟨i, (h.mem_seen i).1 (h.fresh_subset i hi), hij⟩
    · rintro (hj | ⟨i, hi, hij⟩)
      · exact Or.inl hj
      -- a step from what is no longer fresh stays in what has been seen
      · by_cases hj : Within R base count j
        · exact Or.inl hj
        · refine Or.inr ⟨?_, hj⟩
          by_cases hf : i ∈ fresh
          · exact ⟨i, hf, hij⟩
          · exact absurd ((h.mem_seen j).1 (h.settled ((h.mem_seen i).2 hi) hf hij)) hj
  settled {i j} hi hnew hij := by
    rw [mem_union, h.mem_without hstep]
    rcases mem_union.1 hi with hi | hi
    · by_cases hj : j ∈ seen
      · exact Or.inl hj
      · by_cases hf : i ∈ fresh
        · exact Or.inr ⟨⟨i, hf, hij⟩, hj⟩
        · exact absurd (h.settled hi hf hij) hj
    · exact absurd hi hnew

/-- Once nothing new is reached, more steps lead nowhere. -/
theorem Progress.mem_of_within (hstep : Computes size step R)
    (h : Progress size R base count fresh seen) (hnone : without (step fresh) seen = [])
    {n j : Nat} (hj : Within R base n j) : j ∈ seen := by
  -- the induction is on the number of steps: each of them stays in `seen`
  induction n generalizing j with
  | zero =>
    obtain ⟨n, hn, hj⟩ := hj
    exact (h.mem_seen j).2 ⟨n, Nat.le_trans hn (Nat.zero_le _), hj⟩
  | succ n ih =>
    rcases within_succ_iff.1 hj with hj | ⟨i, hi, hij⟩
    · exact ih hj
    · by_cases hf : i ∈ fresh
      · by_cases hj : j ∈ seen
        · exact hj
        · have hnew := (h.mem_without hstep).2 ⟨⟨i, hf, hij⟩, hj⟩
          simp [hnone] at hnew
      · exact h.settled (ih hi) hf hij

theorem Progress.closure (hstep : Computes size step R)
    (h : Progress size R base count fresh seen) (more : Nat) :
    Fits size (closure step more fresh seen) ∧
      ∀ j, j ∈ closure step more fresh seen ↔ Within R base (count + more) j := by
  induction more generalizing count fresh seen with
  | zero => exact ⟨h.seen_fits, h.mem_seen⟩
  | succ more ih =>
    unfold Positions.closure
    split
    · next hnone =>
      refine ⟨h.seen_fits, fun j => ⟨fun hj => ?_, h.mem_of_within hstep hnone⟩⟩
      obtain ⟨n, hn, hj⟩ := (h.mem_seen j).1 hj
      exact ⟨n, Nat.le_trans hn (Nat.le_add_right _ _), hj⟩
    · rw [← Nat.succ_add_eq_add_succ]
      exact ih (h.next hstep)

/-- A closure with a step for each position of the text reaches all that can be reached. -/
theorem Progress.mem_closure_of_within (hstep : Computes size step R)
    (h : Progress size R base count fresh seen) {more : Nat}
    (hmore : size + 1 < more + seen.length) {n j : Nat} (hj : Within R base n j) :
    j ∈ Positions.closure step more fresh seen := by
  induction more generalizing count fresh seen with
  | zero => exact absurd h.seen_fits.length_le (by omega)
  | succ more ih =>
    unfold Positions.closure
    split
    · next hnone => exact h.mem_of_within hstep hnone hj
    · next hsome =>
      refine ih (h.next hstep) ?_
      -- a new position makes the set of those seen larger
      obtain ⟨k, hk⟩ := List.exists_mem_of_ne_nil _ hsome
      have hnodup : (k :: seen).Nodup :=
        List.nodup_cons.2 ⟨((h.mem_without hstep).1 hk).2,
          h.seen_fits.ascending.imp Nat.ne_of_lt⟩
      have hsub : k :: seen ⊆ Positions.union seen (without (step fresh) seen) := by
        intro i hi
        rcases List.mem_cons.1 hi with rfl | hi
        · exact mem_union.2 (Or.inr hk)
        · exact mem_union.2 (Or.inl hi)
      have hlen := hnodup.length_le_of_subset hsub
      rw [List.length_cons] at hlen
      omega

end Positions

namespace Regex

open Positions

variable {text : Array Char}

/-! ## The matcher -/

theorem computes_chars (set : CharSet) :
    Computes text.size ((Regex.chars set).ends text) ((Regex.chars set).Matches text) := by
  intro p hp
  have hsome : ∀ {i j : Nat},
      (if text[i]?.any (set.mem ·.toNat) = true then some (i + 1) else none) = some j ↔
        (Regex.chars set).Matches text i j := by
    intro i j
    simp only [Matches, Option.any_eq_true]
    constructor
    · intro h
      split at h
      · next hc =>
        obtain ⟨c, hc, hset⟩ := hc
        exact ⟨c, hc, hset, Option.some.inj h⟩
      · simp at h
    · rintro ⟨c, hc, hset, rfl⟩
      exact if_pos ⟨c, hc, hset⟩
  have hmem : ∀ j, j ∈ (Regex.chars set).ends text p ↔
      ∃ i ∈ p, (Regex.chars set).Matches text i j := by
    intro j
    simp only [ends, List.mem_filterMap, hsome]
  refine ⟨⟨?_, ?_⟩, hmem⟩
  · refine List.Pairwise.filterMap _ ?_ hp.ascending
    intro i j hij a ha b hb
    obtain ⟨_, -, -, rfl⟩ := hsome.1 ha
    obtain ⟨_, -, -, rfl⟩ := hsome.1 hb
    exact Nat.succ_lt_succ hij
  · intro j hj
    obtain ⟨i, -, c, hc, -, rfl⟩ := (hmem j).1 hj
    exact (Array.getElem?_eq_some_iff.1 hc).1

theorem computes_look (condition : Look) :
    Computes text.size ((Regex.look condition).ends text) ((Regex.look condition).Matches text) := by
  intro p hp
  have hsub : ((Regex.look condition).ends text p).Sublist p := List.filter_sublist
  refine ⟨⟨hp.ascending.sublist hsub, fun i hi => hp.bounded i (hsub.subset hi)⟩, fun j => ?_⟩
  simp only [ends, Matches, List.mem_filter]
  constructor
  · exact fun ⟨hj, hholds⟩ => ⟨j, hj, hholds, rfl⟩
  · rintro ⟨i, hi, hholds, rfl⟩
    exact ⟨hi, hholds⟩

/-- A repetition is a row of rounds, and the closure of what they reach. -/
theorem computes_repetition {r : Regex} (h : Computes text.size (r.ends text) (r.Matches text))
    (min : Nat) (max : Option Nat) :
    Computes text.size ((Regex.repetition r min max).ends text)
      ((Regex.repetition r min max).Matches text) := by
  intro p hp
  obtain ⟨hleast, hmem⟩ := h.rounds min p hp
  have hstart := Progress.start (R := r.Matches text) hleast
  -- some number of rounds after the least ones is a number of rounds altogether
  have hwithin : ∀ {n j : Nat}, Within (r.Matches text) (rounds (r.ends text) min p) n j ↔
      ∃ i ∈ p, ∃ count, min ≤ count ∧ count ≤ min + n ∧ Steps (r.Matches text) count i j := by
    intro n j
    constructor
    · rintro ⟨k, hk, l, hl, hlj⟩
      obtain ⟨i, hi, hil⟩ := (hmem l).1 hl
      exact ⟨i, hi, min + k, Nat.le_add_right _ _, Nat.add_le_add_left hk _, hil.trans hlj⟩
    · rintro ⟨i, hi, count, hge, hle, hsteps⟩
      obtain ⟨k, rfl⟩ := Nat.exists_eq_add_of_le hge
      obtain ⟨l, hil, hlj⟩ := hsteps.split
      exact ⟨k, Nat.le_of_add_le_add_left hle, l, (hmem l).2 ⟨i, hi, hil⟩, hlj⟩
  unfold ends
  simp only [Matches]
  cases max with
  | some m =>
    obtain ⟨hfits, hclosure⟩ := hstart.closure h (m - min)
    refine ⟨hfits, fun j => ?_⟩
    -- with a greatest count below the least one no more rounds are made
    have hmax : min + (m - min) = Nat.max min m := by
      rcases Nat.le_total min m with hle | hge
      · exact (Nat.add_sub_cancel' hle).trans (Nat.max_eq_right hle).symm
      · rw [Nat.sub_eq_zero_of_le hge]
        exact (Nat.max_eq_left hge).symm
    rw [hclosure, Nat.zero_add, hwithin, hmax]
    constructor
    · rintro ⟨i, hi, count, hge, hle, hsteps⟩
      exact ⟨i, hi, count, hge, fun k hk => Option.some.inj hk ▸ hle, hsteps⟩
    · rintro ⟨i, hi, count, hge, hle, hsteps⟩
      exact ⟨i, hi, count, hge, hle m rfl, hsteps⟩
  | none =>
    obtain ⟨hfits, hclosure⟩ := hstart.closure h (text.size + 1)
    refine ⟨hfits, fun j => ?_⟩
    constructor
    · intro hj
      obtain ⟨i, hi, count, hge, -, hsteps⟩ := hwithin.1 ((hclosure j).1 hj)
      exact ⟨i, hi, count, hge, fun _ h => by simp at h, hsteps⟩
    · rintro ⟨i, hi, count, hge, -, hsteps⟩
      have hj := hwithin.2 ⟨i, hi, count, hge, Nat.le_add_left count min, hsteps⟩
      -- one position seen is enough for the bound of the closure to reach all others
      have hpos : 0 < (rounds (r.ends text) min p).length := by
        obtain ⟨_, -, l, hl, -⟩ := hj
        exact List.length_pos_of_mem hl
      exact hstart.mem_closure_of_within h (Nat.lt_add_of_pos_right hpos) hj

/-- The matcher computes the image of a set of positions under the relation of
    the expression. -/
theorem computes_ends (r : Regex) : Computes text.size (r.ends text) (r.Matches text) := by
  induction r with
  | empty =>
    intro p hp
    exact ⟨hp, fun j => ⟨fun hj => ⟨j, hj, rfl⟩, fun ⟨i, hi, hij⟩ => (show i = j from hij) ▸ hi⟩⟩
  | chars set => exact computes_chars set
  | look condition => exact computes_look condition
  | concat a b iha ihb => exact iha.comp ihb
  | alt a b iha ihb => exact iha.union ihb
  | repetition r min max ih => exact computes_repetition ih min max

theorem fits_range (n : Nat) : Fits n (List.range (n + 1)) :=
  ⟨List.pairwise_lt_range, fun _ hi => Nat.le_of_lt_succ (List.mem_range.1 hi)⟩

/-- The matcher finds a match if there is one. -/
theorem isMatch_iff (r : Regex) (text : String) :
    r.isMatch text = true ↔
      ∃ i j, i ≤ text.toList.length ∧ r.Matches text.toList.toArray i j := by
  obtain ⟨-, hmem⟩ := computes_ends r _ (fits_range text.toList.toArray.size)
  rw [isMatch, Bool.not_eq_true', List.isEmpty_eq_false_iff_exists_mem, exists_congr hmem]
  simp only [List.mem_range, Nat.lt_succ_iff, List.size_toArray]
  exact ⟨fun ⟨j, i, h⟩ => ⟨i, j, h⟩, fun ⟨i, j, h⟩ => ⟨j, i, h⟩⟩

/-- Between the ends of the text, an expression has to match all of it. -/
theorem isMatch_anchored_iff (r : Regex) (text : String) :
    (Regex.concat (.look .textStart) (.concat r (.look .textEnd))).isMatch text = true ↔
      r.MatchesWhole text := by
  rw [isMatch_iff]
  simp only [MatchesWhole, Matches, Look.holds, beq_iff_eq, List.size_toArray]
  constructor
  -- the assertions pin down both ends of the match
  · rintro ⟨i, j, -, _, ⟨rfl, rfl⟩, k, hk, rfl, rfl⟩
    exact hk
  · intro h
    exact ⟨0, text.toList.length, Nat.zero_le _, 0, ⟨rfl, rfl⟩, text.toList.length, h, rfl, rfl⟩

end Regex

end JavaLint
