import JavaLint.Proofs.Java.Cst
/-!
# Addresses in concrete syntax trees

Equal nodes may stand at several places of a concrete syntax tree, so a node is
known by its address: which child to go to at each step down from the top.

## Main definitions

- `Java.Address.Apart` — addresses of nodes with nothing in common
- `Java.Cst.at?` — the node at an address
- `Java.Cst.childrenWhere`, `Java.Cst.childWhere?` — children with their addresses

## Main statements

- `Java.Address.Apart.extend` — what stands below nodes that are apart is apart
- `Java.Cst.at?_append` — the way down to a node goes through the nodes above it
-/

namespace JavaLint.Java

/-- The way down to a node: which child to go to at each step. -/
abbrev Address := List Nat

namespace Address

variable {a b a' b' : Address} {i j : Nat}

/-- Neither of two addresses leads through the other one. -/
def Apart (a b : Address) : Prop :=
  ¬ a <+: b ∧ ¬ b <+: a

theorem Apart.symm (h : Apart a b) : Apart b a :=
  ⟨h.2, h.1⟩

theorem Apart.ne (h : Apart a b) : a ≠ b :=
  fun heq => h.1 (heq ▸ List.prefix_refl a)

instance : Std.Symm Apart :=
  ⟨fun _ _ => Apart.symm⟩

/-- What stands below nodes that are apart is apart. -/
theorem Apart.extend (h : Apart a b) (ha : a <+: a') (hb : b <+: b') : Apart a' b' := by
  constructor
  · intro hle
    exact (List.prefix_or_prefix_of_prefix (ha.trans hle) hb).elim h.1 h.2
  · intro hle
    exact (List.prefix_or_prefix_of_prefix ha (hb.trans hle)).elim h.1 h.2

theorem apart_cons_iff : Apart (i :: a) (j :: b) ↔ i ≠ j ∨ Apart a b := by
  unfold Apart
  rw [List.cons_prefix_cons, List.cons_prefix_cons]
  by_cases hij : i = j
  · simp [hij]
  · simp [hij, Ne.symm hij]

theorem apart_append_iff : Apart (a ++ b) (a ++ b') ↔ Apart b b' := by
  unfold Apart
  rw [List.prefix_append_right_inj, List.prefix_append_right_inj]

/-- An address that leads strictly through another one goes on with some child of its node. -/
theorem exists_eq_append_cons (h : a <+: b) (hne : a ≠ b) : ∃ i rest, b = a ++ i :: rest := by
  obtain ⟨rest, rfl⟩ := h
  cases rest with
  | nil => simp at hne
  | cons i rest => exact ⟨i, rest, rfl⟩

end Address

namespace Cst

variable {c d : Cst} {a b : Address} {i : Nat} {p : Cst → Bool}

/-- The node at an address, counted from the given node on. -/
def at? : Cst → Address → Option Cst
  | c, [] => some c
  | c, i :: rest => c.children[i]?.bind fun d => d.at? rest

theorem at?_cons : c.at? (i :: a) = c.children[i]?.bind fun d => d.at? a := rfl

theorem at?_singleton : c.at? [i] = c.children[i]? := by
  rw [at?_cons]
  cases c.children[i]? <;> rfl

/-- The way down to a node goes through the nodes above it. -/
theorem at?_append : c.at? (a ++ b) = (c.at? a).bind fun d => d.at? b := by
  induction a generalizing c with
  | nil => rfl
  | cons i a ih =>
    rw [List.cons_append, at?_cons, at?_cons]
    cases c.children[i]? with
    | none => rfl
    | some d => exact ih

theorem at?_append_of_eq (h : c.at? a = some d) : c.at? (a ++ b) = d.at? b := by
  rw [at?_append, h, Option.bind_some]

theorem within_of_at? {a : Address} (h : c.at? a = some d) : d.Within c := by
  induction a generalizing c with
  | nil => exact Option.some.inj h ▸ .refl c
  | cons i a ih =>
    obtain ⟨e, hchild, he⟩ := Option.bind_eq_some_iff.1 h
    exact .child (List.mem_of_getElem? hchild) (ih he)

/-! ## Children with their addresses -/

/-- The children that meet a condition, with their addresses below the node. -/
def childrenWhere (c : Cst) (p : Cst → Bool) : List (Address × Cst) :=
  (c.children.zipIdx.filter fun (d, _) => p d).map fun (d, i) => ([i], d)

/-- The first child that meets a condition, with its index. -/
def childWhere? (c : Cst) (p : Cst → Bool) : Option (Nat × Cst) :=
  (c.children.zipIdx.find? fun (d, _) => p d).map fun (d, i) => (i, d)

theorem map_snd_childrenWhere : (c.childrenWhere p).map Prod.snd = c.children.filter p := by
  have hchildren := List.filter_map (f := Prod.fst) (p := p) (l := c.children.zipIdx)
  rw [List.zipIdx_map_fst] at hchildren
  rw [childrenWhere, List.map_map, hchildren]
  rfl

theorem map_snd_childWhere? : (c.childWhere? p).map Prod.snd = c.children.find? p := by
  have hchildren := List.find?_map (f := Prod.fst) (p := p) (l := c.children.zipIdx)
  rw [List.zipIdx_map_fst] at hchildren
  rw [childWhere?, Option.map_map, hchildren]
  rfl

theorem mem_childrenWhere :
    (a, d) ∈ c.childrenWhere p ↔ ∃ i, a = [i] ∧ c.children[i]? = some d ∧ p d = true := by
  simp only [childrenWhere, List.mem_map, List.mem_filter, Prod.mk.injEq, Prod.exists,
    List.mk_mem_zipIdx_iff_getElem?]
  constructor
  · rintro ⟨d, i, ⟨hd, hp⟩, rfl, rfl⟩
    exact ⟨i, rfl, hd, hp⟩
  · rintro ⟨i, rfl, hd, hp⟩
    exact ⟨d, i, ⟨hd, hp⟩, rfl, rfl⟩

theorem childWhere?_eq_some (h : c.childWhere? p = some (i, d)) :
    c.children[i]? = some d ∧ p d = true := by
  obtain ⟨⟨d', i'⟩, hfind, heq⟩ := Option.map_eq_some_iff.1 h
  obtain ⟨rfl, rfl⟩ := Prod.mk.inj heq
  have hmem := List.mem_of_find?_eq_some hfind
  have hp := List.find?_some hfind
  exact ⟨List.mk_mem_zipIdx_iff_getElem?.1 hmem, hp⟩

/-- Different children are apart. -/
theorem pairwise_childrenWhere :
    (c.childrenWhere p).Pairwise fun x y => Address.Apart x.1 y.1 := by
  have hindices : c.children.zipIdx.Pairwise fun x y => x.2 < y.2 := by
    have hrange : (List.range' 0 c.children.length).Pairwise (· < ·) := List.pairwise_lt_range'
    rw [← List.zipIdx_map_snd, List.pairwise_map] at hrange
    exact hrange
  refine List.pairwise_map.2 ((hindices.filter _).imp fun hlt => ?_)
  exact Address.apart_cons_iff.2 (.inl (Nat.ne_of_lt hlt))

end Cst

namespace Address

variable {α β : Type} {places : List (Address × α)} {a : Address}

/-- Places below the node at `a`, given by their addresses below that node. -/
def under (a : Address) (places : List (Address × α)) : List (Address × α) :=
  places.map fun p => (a ++ p.1, p.2)

theorem map_under (f : α → β) (a : Address) (places : List (Address × α)) :
    ((under a places).map fun p => f p.2) = places.map fun p => f p.2 := by
  rw [under, List.map_map]
  rfl

theorem map_snd_under (a : Address) (places : List (Address × α)) :
    (under a places).map Prod.snd = places.map Prod.snd :=
  map_under id a places

theorem mem_under {b : Address} {x : α} :
    (b, x) ∈ under a places ↔ ∃ rest, b = a ++ rest ∧ (rest, x) ∈ places := by
  simp only [under, List.mem_map, Prod.mk.injEq, Prod.exists]
  constructor
  · rintro ⟨rest, y, hmem, rfl, rfl⟩
    exact ⟨rest, rfl, hmem⟩
  · rintro ⟨rest, rfl, hmem⟩
    exact ⟨rest, x, hmem, rfl, rfl⟩

theorem pairwise_under (h : places.Pairwise fun x y => Apart x.1 y.1) :
    (under a places).Pairwise fun x y => Apart x.1 y.1 :=
  List.pairwise_map.2 (h.imp apart_append_iff.2)

/-- What a function has for the nodes at some places, at the same places. -/
def choose (f : α → Option β) (places : List (Address × α)) : List (Address × β) :=
  places.filterMap fun p => (f p.2).map fun y => (p.1, y)

theorem map_snd_choose (f : α → Option β) (places : List (Address × α)) :
    (choose f places).map Prod.snd = (places.map Prod.snd).filterMap f := by
  rw [choose, List.map_filterMap, List.filterMap_map]
  congr 1
  funext x
  rw [Option.map_map]
  exact congrFun Option.map_id _

theorem mem_choose {f : α → Option β} {y : β} :
    (a, y) ∈ choose f places ↔ ∃ x, (a, x) ∈ places ∧ f x = some y := by
  simp only [choose, List.mem_filterMap, Option.map_eq_some_iff, Prod.mk.injEq, Prod.exists]
  constructor
  · rintro ⟨a, x, hmem, y, hy, rfl, rfl⟩
    exact ⟨x, hmem, hy⟩
  · rintro ⟨x, hmem, hy⟩
    exact ⟨a, x, hmem, y, hy, rfl, rfl⟩

theorem pairwise_choose {f : α → Option β} (h : places.Pairwise fun x y => Apart x.1 y.1) :
    (choose f places).Pairwise fun x y => Apart x.1 y.1 := by
  refine List.pairwise_filterMap.2 (h.imp fun hxy => ?_)
  intro u hu v hv
  obtain ⟨_, -, rfl⟩ := Option.map_eq_some_iff.1 hu
  obtain ⟨_, -, rfl⟩ := Option.map_eq_some_iff.1 hv
  exact hxy

end Address

end JavaLint.Java
