/-!
# Sorted maps

A map from keys to values is a list of entries whose keys increase strictly,
so that two maps with the same entries are equal.

## Main definitions

- `SortsKeys` — orders that keys can be sorted in
- `KeyMap` — maps whose keys are ordered
- `KeyMap.get?` — the value of a key
- `KeyMap.insert`, `KeyMap.overlay` — one entry, or all entries of a map, laid over a map

## Main statements

- `KeyMap.get?_insert` — an inserted entry hides the old one and no other
-/

namespace JavaLint

/-- An order that sorts keys: it is transitive, and of two different keys one
    is smaller. -/
class SortsKeys (κ : Type) [LT κ] : Prop where
  lt_trans {a b c : κ} : a < b → b < c → a < c
  eq_of_not_lt {a b : κ} : ¬ a < b → ¬ b < a → a = b

instance : SortsKeys String where
  lt_trans := String.lt_trans
  eq_of_not_lt h h' := String.le_antisymm (String.not_lt.1 h') (String.not_lt.1 h)

instance {κ : Type} [LT κ] [SortsKeys κ] : SortsKeys (List κ) where
  lt_trans h h' := @List.lt_trans κ _ ⟨SortsKeys.lt_trans⟩ _ _ _ h h'
  eq_of_not_lt h h' :=
    @List.le_antisymm κ _ ⟨fun _ _ => SortsKeys.eq_of_not_lt⟩ _ _
      (List.not_lt.1 h') (List.not_lt.1 h)

/-- Entries whose keys increase strictly. -/
def KeysIncrease {κ α : Type} [LT κ] (entries : List (κ × α)) : Prop :=
  entries.Pairwise fun a b => a.1 < b.1

/-- A map from keys to values. -/
structure KeyMap (κ α : Type) [LT κ] where
  entries : List (κ × α)
  increasing : KeysIncrease entries

namespace KeyMap

variable {κ α : Type} [LT κ] [DecidableEq κ]

/-- The map without entries. -/
def empty : KeyMap κ α :=
  ⟨[], List.Pairwise.nil⟩

instance : Inhabited (KeyMap κ α) := ⟨empty⟩

/-- The value of a key. -/
def get? (m : KeyMap κ α) (key : κ) : Option α :=
  m.entries.lookup key

/-- The keys, in increasing order. -/
def keys (m : KeyMap κ α) : List κ :=
  m.entries.map (·.1)

section Insertion

variable [DecidableLT κ]

/-- The entries with that of `key` set, at its place in the order. -/
def insertEntry (key : κ) (value : α) : List (κ × α) → List (κ × α)
  | [] => [(key, value)]
  | (k, v) :: rest =>
    if key < k then (key, value) :: (k, v) :: rest
    else if key = k then (key, value) :: rest
    else (k, v) :: insertEntry key value rest

/-- Every entry of the result is the new one or an old one. -/
theorem eq_or_mem_of_mem_insertEntry {key : κ} {value : α} {entries : List (κ × α)}
    {e : κ × α} (h : e ∈ insertEntry key value entries) :
    e = (key, value) ∨ e ∈ entries := by
  induction entries with
  | nil => exact Or.inl (List.mem_singleton.1 h)
  | cons head rest ih =>
    simp only [insertEntry] at h
    split at h
    · exact List.mem_cons.1 h
    · split at h
      · exact (List.mem_cons.1 h).imp_right (List.mem_cons_of_mem _)
      · rcases List.mem_cons.1 h with rfl | h
        · exact Or.inr List.mem_cons_self
        · exact (ih h).imp_right (List.mem_cons_of_mem _)

/-- A set entry hides the old one and no other. -/
theorem lookup_insertEntry (key : κ) (value : α) (entries : List (κ × α)) (k : κ) :
    (insertEntry key value entries).lookup k =
      if k = key then some value else entries.lookup k := by
  induction entries with
  | nil =>
    by_cases h : k = key
    · simp [insertEntry, h]
    · have hb : (k == key) = false := by simpa using h
      simp [insertEntry, h, List.lookup_cons, hb]
  | cons head rest ih =>
    obtain ⟨k', v'⟩ := head
    simp only [insertEntry]
    split
    · by_cases h : k = key
      · simp [h]
      · have hb : (k == key) = false := by simpa using h
        simp [h, List.lookup_cons, hb]
    · split
      · next heq =>
        subst heq
        by_cases h : k = key
        · simp [h]
        · have hb : (k == key) = false := by simpa using h
          simp [h, List.lookup_cons, hb]
      · next hne =>
        by_cases h : k = k'
        · subst h
          have hk : k ≠ key := fun e => hne e.symm
          simp [hk]
        · have hb : (k == k') = false := by simpa using h
          simp only [List.lookup_cons, hb]
          exact ih

variable [SortsKeys κ]

/-- Setting an entry keeps the keys increasing. -/
theorem KeysIncrease.insertEntry {key : κ} {value : α} {entries : List (κ × α)}
    (h : KeysIncrease entries) : KeysIncrease (KeyMap.insertEntry key value entries) := by
  induction entries with
  | nil => exact List.pairwise_singleton _ _
  | cons head rest ih =>
    obtain ⟨hd, hrest⟩ := List.pairwise_cons.1 h
    simp only [KeyMap.insertEntry]
    split
    · next hlt =>
      refine List.pairwise_cons.2 ⟨fun e he => ?_, h⟩
      rcases List.mem_cons.1 he with rfl | he
      · exact hlt
      · exact SortsKeys.lt_trans hlt (hd e he)
    · next hge =>
      split
      · next heq => exact List.pairwise_cons.2 ⟨fun e he => heq ▸ hd e he, hrest⟩
      · next hne =>
        refine List.pairwise_cons.2 ⟨fun e he => ?_, ih hrest⟩
        rcases eq_or_mem_of_mem_insertEntry he with rfl | he
        · exact Decidable.byContradiction fun hle =>
            hne (SortsKeys.eq_of_not_lt hge hle)
        · exact hd e he

/-- The map with the value of `key` set to `value`. -/
def insert (m : KeyMap κ α) (key : κ) (value : α) : KeyMap κ α :=
  ⟨insertEntry key value m.entries, KeysIncrease.insertEntry m.increasing⟩

/-- The map of a list of entries; of two with one key the later one counts. -/
def ofList (entries : List (κ × α)) : KeyMap κ α :=
  entries.foldl (fun m (key, value) => m.insert key value) empty

/-- The entries of `top` laid over those of `base`. -/
def overlay (base top : KeyMap κ α) : KeyMap κ α :=
  top.entries.foldl (fun m (key, value) => m.insert key value) base

/-- An inserted entry hides the old one and no other. -/
theorem get?_insert (m : KeyMap κ α) (key : κ) (value : α) (k : κ) :
    (m.insert key value).get? k = if k = key then some value else m.get? k :=
  lookup_insertEntry key value m.entries k

end Insertion

end KeyMap

end JavaLint
