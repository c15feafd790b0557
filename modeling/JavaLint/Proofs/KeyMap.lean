import JavaLint.KeyMap
/-!
# Sorted maps by their values

A sorted map is determined by the values of its keys. This file relates the
entries that a map holds to what it says about keys.

## Main statements

- `KeyMap.get?_ofList`, `KeyMap.get?_overlay` — the last entry for a key, and the upper one, count
- `KeyMap.get?_eq_some_iff` — the value of a key is the one that is entered for it
- `KeyMap.entries_eq_of_get?`, `KeyMap.eq_of_get?` — maps with the same values are the same
- `KeyMap.entries_eq_map_of_get?` — a map with one value exchanged
-/

namespace JavaLint

namespace KeyMap

/-! ## Exchanging a value -/

section Exchange

variable {κ α : Type} [DecidableEq κ]

/-- The entry with its value exchanged, if it is the one of the key. -/
def exchange (key : κ) (value : α) (e : κ × α) : κ × α :=
  if e.1 = key then (key, value) else e

theorem exchange_fst (key : κ) (value : α) (e : κ × α) : (exchange key value e).1 = e.1 := by
  unfold exchange
  split
  · next h => exact h.symm
  · rfl

theorem lookup_map_exchange (key : κ) (value : α) (entries : List (κ × α)) (k : κ) :
    (entries.map (exchange key value)).lookup k =
      if k = key then (entries.lookup key).map fun _ => value else entries.lookup k := by
  induction entries with
  | nil => simp
  | cons e rest ih =>
    obtain ⟨k', v'⟩ := e
    rw [List.map_cons]
    by_cases hk' : k' = key
    · subst hk'
      have he : exchange k' value (k', v') = (k', value) := if_pos rfl
      by_cases hk : k = k'
      · simp [he, hk]
      · have hb : (k == k') = false := beq_false_of_ne hk
        rw [he, List.lookup_cons, hb, ih, if_neg hk, if_neg hk, List.lookup_cons, hb]
    · have he : exchange key value (k', v') = (k', v') := if_neg hk'
      have hb' : (key == k') = false := beq_false_of_ne (Ne.symm hk')
      rw [he, List.lookup_cons, ih, List.lookup_cons, List.lookup_cons, hb']
      by_cases hk : k = k'
      · simp [hk, hk']
      · simp [beq_false_of_ne hk]

end Exchange

end KeyMap

/-! ## Entries laid over a map -/

section Layers

variable {κ α : Type} [LT κ] [DecidableEq κ] [DecidableLT κ] [SortsKeys κ]

/-- Of the entries that are laid over a map the last one for a key counts. -/
theorem KeyMap.get?_foldl_insert (entries : List (κ × α)) (m : KeyMap κ α) (key : κ) :
    (entries.foldl (fun m (key, value) => m.insert key value) m).get? key =
      (entries.reverse.lookup key).or (m.get? key) := by
  induction entries generalizing m with
  | nil => rfl
  | cons e rest ih =>
    obtain ⟨k, v⟩ := e
    rw [List.foldl_cons, ih, get?_insert, List.reverse_cons, List.lookup_append, Option.or_assoc]
    by_cases hk : key = k
    · simp [hk]
    · simp [hk, List.lookup_cons, beq_false_of_ne hk]

theorem KeyMap.get?_ofList (entries : List (κ × α)) (key : κ) :
    (ofList entries).get? key = entries.reverse.lookup key :=
  (get?_foldl_insert entries empty key).trans Option.or_none

end Layers

/-! ## Entries and values -/

variable {κ α : Type} [LT κ] [DecidableEq κ] [Std.Irrefl fun a b : κ => a < b]

theorem KeysIncrease.lookup_eq_some_iff {entries : List (κ × α)} (h : KeysIncrease entries)
    {key : κ} {value : α} : entries.lookup key = some value ↔ (key, value) ∈ entries := by
  induction entries with
  | nil => simp
  | cons e rest ih =>
    obtain ⟨k, v⟩ := e
    obtain ⟨hfirst, hrest⟩ := List.pairwise_cons.1 h
    rw [List.lookup_cons, List.mem_cons]
    by_cases hk : key = k
    · subst hk
      have hnot : (key, value) ∉ rest := fun hmem => Std.Irrefl.irrefl key (hfirst _ hmem)
      simp [hnot, eq_comm]
    · have hb : (key == k) = false := beq_false_of_ne hk
      simp [hb, hk, ih hrest]

/-- Where each key stands once, it does not matter from which end one looks. -/
theorem KeysIncrease.lookup_reverse {entries : List (κ × α)} (h : KeysIncrease entries) (key : κ) :
    entries.reverse.lookup key = entries.lookup key := by
  induction entries with
  | nil => rfl
  | cons e rest ih =>
    obtain ⟨k, v⟩ := e
    obtain ⟨hfirst, (hrest : KeysIncrease rest)⟩ := List.pairwise_cons.1 h
    rw [List.reverse_cons, List.lookup_append, ih hrest, List.lookup_cons]
    by_cases hk : key = k
    · subst hk
      have hnone : rest.lookup key = none := by
        refine Option.eq_none_iff_forall_ne_some.2 fun value hvalue => ?_
        exact Std.Irrefl.irrefl key (hfirst _ (hrest.lookup_eq_some_iff.1 hvalue))
      simp [hnone]
    · simp [List.lookup_cons, beq_false_of_ne hk]

namespace KeyMap

variable {m m' : KeyMap κ α} {key : κ} {value : α}

/-- What the upper map says of a key hides what the lower one says. -/
theorem get?_overlay [DecidableLT κ] [SortsKeys κ] (base top : KeyMap κ α) (key : κ) :
    (base.overlay top).get? key = (top.get? key).or (base.get? key) := by
  unfold overlay
  rw [get?_foldl_insert, top.increasing.lookup_reverse]
  rfl

theorem get?_eq_some_iff : m.get? key = some value ↔ (key, value) ∈ m.entries :=
  m.increasing.lookup_eq_some_iff

/-- Maps with the same values at all keys have the same entries. -/
theorem entries_eq_of_get? [SortsKeys κ] (h : ∀ key, m.get? key = m'.get? key) :
    m.entries = m'.entries := by
  have hnodup : ∀ n : KeyMap κ α, n.entries.Nodup := fun n => by
    refine n.increasing.imp ?_
    rintro a b hab rfl
    exact Std.Irrefl.irrefl a.1 hab
  have hmem : ∀ e, e ∈ m.entries ↔ e ∈ m'.entries := fun ⟨key, value⟩ => by
    rw [← get?_eq_some_iff, ← get?_eq_some_iff, h]
  refine ((List.perm_ext_iff_of_nodup (hnodup m) (hnodup m')).2 hmem).eq_of_pairwise ?_
    m.increasing m'.increasing
  intro a b _ _ hab hba
  exact absurd (SortsKeys.lt_trans hab hba) (Std.Irrefl.irrefl a.1)

/-- Maps with the same values at all keys are the same map. -/
theorem eq_of_get? [SortsKeys κ] (h : ∀ key, m.get? key = m'.get? key) : m = m' := by
  have hentries := entries_eq_of_get? h
  obtain ⟨entries, _⟩ := m
  obtain ⟨entries', _⟩ := m'
  obtain rfl : entries = entries' := hentries
  rfl

/-- Two maps that have a value for a key, and the same values for all other
    keys, differ in that entry only. -/
theorem entries_eq_map_of_get? [SortsKeys κ] {old : α} (hold : m.get? key = some old)
    (hnew : m'.get? key = some value) (h : ∀ k, k ≠ key → m'.get? k = m.get? k) :
    m'.entries = m.entries.map (exchange key value) := by
  have hincreasing : KeysIncrease (m.entries.map (exchange key value)) := by
    refine List.pairwise_map.2 (m.increasing.imp fun {a b} hab => ?_)
    rw [exchange_fst, exchange_fst]
    exact hab
  let exchanged : KeyMap κ α := ⟨m.entries.map (exchange key value), hincreasing⟩
  have hexchanged : ∀ k, m'.get? k = exchanged.get? k := by
    intro k
    have hget : exchanged.get? k =
        if k = key then (m.get? key).map fun _ => value else m.get? k :=
      lookup_map_exchange key value m.entries k
    by_cases hk : k = key
    · rw [hget, if_pos hk, hold, hk, hnew, Option.map_some]
    · rw [hget, if_neg hk, h k hk]
  exact entries_eq_of_get? hexchanged

end KeyMap

end JavaLint
