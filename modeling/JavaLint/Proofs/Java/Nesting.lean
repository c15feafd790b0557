import JavaLint.Proofs.Java.Arrangement
import JavaLint.Proofs.Java.Walk
import Mathlib.Data.List.Nodup
import Mathlib.Data.List.Pairwise
/-!
# Declarations nest as in the program

A walk takes up no node twice. What a declaration stands in, in the tree, is what
it stands in in the program: the parent of its node is the innermost declaration
around it.

## Main definitions

- `Java.originsOf` — where the nodes of a tree come from
- `Java.Cst.Surrounds`, `Java.Cst.Innermost` — declarations around a place of a program
- `Java.Source.Nested` — a tree that nests as the program does

## Main statements

- `Java.Source.Layout.step` — a step keeps the nesting
- `Java.Source.declarations_nested` — every tree of declarations nests as its program
-/

namespace JavaLint

namespace Java

namespace Address

variable {α : Type} {a b x : Address} {i : Nat}

theorem not_append_isPrefix (hx : x ≠ []) : ¬ a ++ x <+: a := by
  intro h
  have hlen := h.length_le
  rw [List.length_append] at hlen
  have hpos := List.length_pos_iff.2 hx
  omega

theorem isPrefix_of_append_isPrefix (h : a ++ x <+: b) : a <+: b :=
  (List.prefix_append a x).trans h

theorem map_fst_under (a : Address) (places : List (Address × α)) :
    (under a places).map Prod.fst = (places.map Prod.fst).map (a ++ ·) := by
  rw [under, List.map_map, List.map_map]
  rfl

end Address

/-! ## Origins -/

namespace Yield

variable {y : Yield} {c : Cst} {parent first : NodeId} {a x : Address} {decl : Declaration}
  {job : Extraction.Job}

/-- The declarations of a yield in the order in which they are attached, with the
    places below the node that they come from. -/
def origins (y : Yield) : List (Address × Declaration) :=
  (y.own?.map fun decl => (([] : Address), decl)).toList ++ y.params

theorem mem_origins : (x, decl) ∈ y.origins ↔
    (x = [] ∧ y.own? = some decl) ∨ (x, decl) ∈ y.params := by
  rw [origins, List.mem_append, Option.mem_toList, Option.map_eq_some_iff]
  constructor
  · rintro (⟨decl, hown, heq⟩ | hmem)
    · obtain ⟨rfl, rfl⟩ := Prod.mk.inj heq
      exact .inl ⟨rfl, hown⟩
    · exact .inr hmem
  · rintro (⟨rfl, hown⟩ | hmem)
    · exact .inl ⟨decl, hown, rfl⟩
    · exact .inr hmem

theorem Arranged.ne_nil (h : y.Arranged c) (hx : x ∈ y.addresses) : x ≠ [] := by
  obtain ⟨i, d, -, rfl | ⟨j, rfl, -⟩⟩ := h.reaches hx
  · exact List.cons_ne_nil _ _
  · exact List.cons_ne_nil _ _

theorem mem_addresses_of_mem_params (hmem : (x, decl) ∈ y.params) : x ∈ y.addresses :=
  mem_addresses.2 (.inl ⟨decl, hmem⟩)

/-- The parent of what comes from a place below the node; the node itself is at the
    empty address. -/
def holder (y : Yield) (parent first : NodeId) (x : Address) : NodeId :=
  if x = [] then parent else y.owner parent first

theorem Arranged.entries_eq (h : y.Arranged c) (parent first : NodeId) :
    y.entries parent first = y.origins.map fun p => (y.holder parent first p.1, p.2) := by
  have hparams : (y.params.map fun p => (y.owner parent first, p.2)) =
      y.params.map fun p => (y.holder parent first p.1, p.2) := by
    refine List.map_congr_left fun p hmem => ?_
    have hne := h.ne_nil (mem_addresses_of_mem_params hmem)
    exact Prod.ext (if_neg hne).symm rfl
  rw [entries, origins, List.map_append, hparams]
  cases y.own? <;> rfl

theorem mem_addresses_of_mem_pending (hmem : (x, job) ∈ y.pending parent first) :
    x ∈ y.addresses :=
  mem_addresses.2 (.inr ((mem_pending.1 hmem).imp (fun h => ⟨_, h.1⟩) fun h => ⟨_, h.1⟩))

theorem Arranged.pairwise_pending (h : y.Arranged c) :
    (y.pending parent first).Pairwise fun p q => Address.Apart p.1 q.1 := by
  refine List.pairwise_map.1 ?_
  have hmap : (y.pending parent first).map Prod.fst =
      y.around.map Prod.fst ++ y.inside.map Prod.fst := by
    rw [pending, List.map_append, List.map_map, List.map_map]
    rfl
  rw [hmap]
  exact (List.pairwise_append.1 h.apart).2.1

theorem Arranged.pairwise_params (h : y.Arranged c) :
    (y.params.map Prod.fst).Pairwise Address.Apart :=
  (List.pairwise_append.1 h.apart).1

theorem Arranged.nodup_origins (h : y.Arranged c) : (y.origins.map Prod.fst).Nodup := by
  have hparams : (y.params.map Prod.fst).Nodup := h.pairwise_params.imp fun hapart => hapart.ne
  cases hown : y.own? with
  | none => rwa [origins, hown]
  | some decl =>
    rw [origins, hown]
    refine List.nodup_cons.2 ⟨fun hmem => ?_, hparams⟩
    obtain ⟨⟨x, decl⟩, hmem, rfl⟩ := List.mem_map.1 hmem
    exact h.ne_nil (mem_addresses_of_mem_params hmem) rfl

theorem Arranged.apart_pending (h : y.Arranged c) {x' : Address}
    (hmem : (x, decl) ∈ y.params) (hmem' : (x', job) ∈ y.pending parent first) :
    Address.Apart x x' := by
  refine (List.pairwise_append.1 h.apart).2.2 _ (List.mem_map_of_mem hmem) _ ?_
  rcases mem_pending.1 hmem' with ⟨hmem', -⟩ | ⟨hmem', -⟩
  · exact List.mem_append_left _ (List.mem_map_of_mem hmem')
  · exact List.mem_append_right _ (List.mem_map_of_mem hmem')

end Yield

/-- The declarations that the nodes of a log were found to make, in order, with the
    places of the program that they come from. -/
def originsOf (log : List (Address × Yield)) : List (Address × Declaration) :=
  log.flatMap fun p => Address.under p.1 p.2.origins

/-- The places of a program that nodes of a tree come from; the first is that of node 1. -/
def placesOf (log : List (Address × Yield)) : List Address :=
  (originsOf log).map Prod.fst

section Origins

variable {log : List (Address × Yield)} {a o : Address} {y : Yield}

theorem originsOf_concat : originsOf (log ++ [(a, y)]) = originsOf log ++ Address.under a y.origins := by
  rw [originsOf, List.flatMap_append, List.flatMap_singleton]
  rfl

theorem placesOf_concat :
    placesOf (log ++ [(a, y)]) = placesOf log ++ (y.origins.map Prod.fst).map (a ++ ·) := by
  rw [placesOf, originsOf_concat, List.map_append, Address.map_fst_under]
  rfl

theorem mem_placesOf_concat : o ∈ placesOf (log ++ [(a, y)]) ↔
    o ∈ placesOf log ∨ ∃ x decl, (x, decl) ∈ y.origins ∧ o = a ++ x := by
  rw [placesOf_concat, List.mem_append]
  simp only [List.map_map, List.mem_map, Prod.exists, Function.comp_apply, eq_comm]

/-- The nodes of a longer log come from the old places, and then from those of the last yield. -/
theorem getElem?_originsOf_concat {i : Nat} {decl : Declaration}
    (h : (originsOf (log ++ [(a, y)]))[i]? = some (o, decl)) :
    (originsOf log)[i]? = some (o, decl) ∨
      ∃ k x, i = (originsOf log).length + k ∧ y.origins[k]? = some (x, decl) ∧ o = a ++ x := by
  rw [originsOf_concat] at h
  rcases Nat.lt_or_ge i (originsOf log).length with hlt | hge
  · rw [List.getElem?_append_left hlt] at h
    exact .inl h
  · rw [List.getElem?_append_right hge, Address.under, List.getElem?_map] at h
    obtain ⟨⟨x, decl⟩, hx, heq⟩ := Option.map_eq_some_iff.1 h
    obtain ⟨rfl, rfl⟩ := Prod.mk.inj heq
    exact .inr ⟨_, x, (Nat.add_sub_cancel' hge).symm, hx, rfl⟩

theorem exists_of_mem_originsOf {decl : Declaration} (h : (o, decl) ∈ originsOf log) :
    ∃ a y x, (a, y) ∈ log ∧ (x, decl) ∈ y.origins ∧ o = a ++ x := by
  obtain ⟨⟨a, y⟩, hlog, hmem⟩ := List.mem_flatMap.1 h
  obtain ⟨x, rfl, hx⟩ := Address.mem_under.1 hmem
  exact ⟨a, y, x, hlog, hx, rfl⟩

end Origins

/-! ## What surrounds a place -/

namespace Cst

variable {program c : Cst} {a b o x : Address} {i : Nat} {places new : List Address} {p : NodeId}

/-- What the node at `a` declares surrounds the place `b`. -/
def Surrounds (program : Cst) (a b : Address) : Prop :=
  ∃ c i, program.at? a = some c ∧ c.Encloses i ∧ a ++ [i] <+: b

/-- Of the nodes that come from the given places, numbered from one on, `p` is the
    one that surrounds `b` most closely. It is the root if none does. -/
def Innermost (program : Cst) (places : List Address) (b : Address) (p : NodeId) : Prop :=
  (p = Tree.root ∧ ∀ o ∈ places, ¬ program.Surrounds o b) ∨
    ∃ j a, p = j + 1 ∧ places[j]? = some a ∧ program.Surrounds a b ∧
      ∀ o ∈ places, program.Surrounds o b → o <+: a

theorem Surrounds.isPrefix (h : program.Surrounds a b) : a <+: b := by
  obtain ⟨c, i, -, -, hle⟩ := h
  exact Address.isPrefix_of_append_isPrefix hle

theorem not_surrounds_of_isPrefix (h : b <+: a) : ¬ program.Surrounds a b := by
  rintro ⟨c, i, -, -, hle⟩
  exact Address.not_append_isPrefix (List.cons_ne_nil i []) (hle.trans h)

theorem not_surrounds_of_apart (h : Address.Apart a b) : ¬ program.Surrounds a b :=
  fun hsurrounds => h.1 hsurrounds.isPrefix

/-- What surrounds a place below a node surrounds the node, or stands there itself. -/
theorem surrounds_append_iff (h : ¬ b <+: a) :
    program.Surrounds a (b ++ x) ↔ program.Surrounds a b := by
  constructor
  · rintro ⟨c, i, hat, hencloses, hle⟩
    refine ⟨c, i, hat, hencloses, ?_⟩
    -- the child that leads to the place is above `b`, or `b` is above it
    rcases List.prefix_or_prefix_of_prefix hle (List.prefix_append b x) with hle | hle
    · exact hle
    · rcases List.prefix_concat_iff.1 hle with heq | hle
      · exact heq ▸ List.prefix_refl _
      · exact absurd hle h
  · rintro ⟨c, i, hat, hencloses, hle⟩
    exact ⟨c, i, hat, hencloses, hle.trans (List.prefix_append b x)⟩

theorem Innermost.append (h : program.Innermost places b p)
    (hnew : ∀ o ∈ new, ¬ program.Surrounds o b) : program.Innermost (places ++ new) b p := by
  rcases h with ⟨hp, hnone⟩ | ⟨j, a, hp, hplace, hsurrounds, hclosest⟩
  · exact .inl ⟨hp, List.forall_mem_append.2 ⟨hnone, hnew⟩⟩
  · have hlt := (List.getElem?_eq_some_iff.1 hplace).1
    refine .inr ⟨j, a, hp, by rw [List.getElem?_append_left hlt, hplace], hsurrounds, ?_⟩
    exact List.forall_mem_append.2 ⟨hclosest, fun o ho hsurrounds => absurd hsurrounds (hnew o ho)⟩

/-- What stands below a node that is not declared is surrounded as the node is. -/
theorem Innermost.below (h : program.Innermost places b p) (hplaces : ∀ o ∈ places, ¬ b <+: o) :
    program.Innermost places (b ++ x) p := by
  rcases h with ⟨hp, hnone⟩ | ⟨j, a, hp, hplace, hsurrounds, hclosest⟩
  · refine .inl ⟨hp, fun o ho hsurrounds => hnone o ho ?_⟩
    exact (surrounds_append_iff (hplaces o ho)).1 hsurrounds
  · have hmem := List.mem_of_getElem? hplace
    refine .inr ⟨j, a, hp, hplace, (surrounds_append_iff (hplaces a hmem)).2 hsurrounds, ?_⟩
    exact fun o ho hsurrounds => hclosest o ho ((surrounds_append_iff (hplaces o ho)).1 hsurrounds)

theorem innermost_own (hat : program.at? b = some c) (hencloses : c.Encloses i)
    (hx : [i] <+: x) (hplaces : ∀ o ∈ places, ¬ b <+: o)
    (hnew : ∀ o ∈ new, ¬ program.Surrounds o (b ++ x)) :
    program.Innermost (places ++ b :: new) (b ++ x) (places.length + 1) := by
  have hplace : (places ++ b :: new)[places.length]? = some b := by
    rw [List.getElem?_append_right (Nat.le_refl _), Nat.sub_self]
    rfl
  refine .inr ⟨places.length, b, rfl, hplace,
    ⟨c, i, hat, hencloses, (List.prefix_append_right_inj b).2 hx⟩, fun o ho hsurrounds => ?_⟩
  rcases List.mem_append.1 ho with hold | hnew'
  · exact ((surrounds_append_iff (hplaces o hold)).1 hsurrounds).isPrefix
  · rcases List.mem_cons.1 hnew' with rfl | hnew'
    · exact List.prefix_refl _
    · exact absurd hsurrounds (hnew o hnew')

end Cst

theorem Yield.Arranged.not_surrounds_params {program c : Cst} {y : Yield} {a x z : Address}
    {decl decl' : Declaration} (h : y.Arranged c) (hz : (z, decl) ∈ y.params)
    (hx : (x, decl') ∈ y.params) : ¬ program.Surrounds (a ++ z) (a ++ x) := by
  by_cases heq : z = x
  · rw [heq]
    exact Cst.not_surrounds_of_isPrefix (List.prefix_refl _)
  · refine Cst.not_surrounds_of_apart (Address.apart_append_iff.2 ?_)
    exact h.pairwise_params.forall (List.mem_map_of_mem hz) (List.mem_map_of_mem hx) heq

namespace Source

open Extraction (Job)

/-! ## Layouts -/

/-- The nodes that were taken up or are pending, by their addresses. -/
def touched (log : List (Address × Yield)) (pending : List (Address × Job)) : List Address :=
  log.map Prod.fst ++ pending.map Prod.fst

/-- How the log of a walk and the pending nodes lie in the program: the pending nodes
    have nothing in common with each other, and nothing at or below them was taken
    up or declared. Hidden children are passed over, and above what is touched
    all was taken up but groups. -/
structure Layout (s : Source) (program : Cst) (log : List (Address × Yield))
    (pending : List (Address × Job)) : Prop where
  hasYield {a : Address} {y : Yield} :
    (a, y) ∈ log → ∃ c, program.at? a = some c ∧ s.HasYield c y
  at?_eq {a : Address} {job : Job} : (a, job) ∈ pending → program.at? a = some job.cst
  apart : pending.Pairwise fun p q => Address.Apart p.1 q.1
  fresh {a b : Address} {job : Job} {y : Yield} : (a, job) ∈ pending → (b, y) ∈ log → ¬ a <+: b
  fresh_place {a o : Address} {job : Job} : (a, job) ∈ pending → o ∈ placesOf log → ¬ a <+: o
  once : (log.map Prod.fst).Nodup
  places_nodup : (placesOf log).Nodup
  not_hidden {a b : Address} {y : Yield} {c d : Cst} {i : Nat} : (a, y) ∈ log →
    program.at? a = some c → c.children[i]? = some d → c.Hides y.own?.isSome d →
      b ∈ touched log pending → ¬ a ++ [i] <+: b
  above {a b : Address} : b ∈ touched log pending → a <+: b → a ≠ b →
    (∃ y, (a, y) ∈ log) ∨ ∃ c, program.at? a = some c ∧ c.kind.IsGroup

/-- What the tree says of the places that its nodes come from. -/
structure Mirrors (program : Cst) (log : List (Address × Yield)) (t : Tree)
    (pending : List (Address × Job)) : Prop where
  size_eq : t.size = (originsOf log).length + 1
  declaration?_eq {i : Nat} {a : Address} {decl : Declaration} :
    (originsOf log)[i]? = some (a, decl) → t.declaration? (i + 1) = some decl
  parent?_eq {i : Nat} {a : Address} : (placesOf log)[i]? = some a →
    ∃ p, t.parent? (i + 1) = some p ∧ program.Innermost (placesOf log) a p
  innermost {a : Address} {job : Job} : (a, job) ∈ pending →
    program.Innermost (placesOf log) a job.parent

variable {s : Source} {program : Cst} {log : List (Address × Yield)} {t : Tree} {y : Yield}
  {a b x : Address} {job job' : Job} {pending next : List (Address × Job)}

theorem mem_touched_of_log (h : (a, y) ∈ log) : a ∈ touched log pending :=
  List.mem_append_left _ (List.mem_map_of_mem h)

theorem mem_touched_of_pending (h : (a, job) ∈ pending) : a ∈ touched log pending :=
  List.mem_append_right _ (List.mem_map_of_mem h)

/-- After a step, what is touched was taken up before or is the node of the step, or
    it is pending, as something new or from before. -/
theorem mem_touched_step
    (h : b ∈ touched (log ++ [(a, y)]) (Address.under a next ++ pending)) :
    (∃ y, (b, y) ∈ log) ∨ b = a ∨ (∃ x job, (x, job) ∈ next ∧ b = a ++ x) ∨
      ∃ job, (b, job) ∈ pending := by
  rw [touched, List.map_append, List.map_append, List.mem_append, List.mem_append, List.mem_append]
    at h
  rcases h with (h | h) | (h | h)
  · obtain ⟨⟨b, y⟩, hmem, rfl⟩ := List.mem_map.1 h
    exact .inl ⟨y, hmem⟩
  · exact .inr (.inl (List.mem_singleton.1 h))
  · obtain ⟨⟨b, job⟩, hmem, rfl⟩ := List.mem_map.1 h
    obtain ⟨x, rfl, hnext⟩ := Address.mem_under.1 hmem
    exact .inr (.inr (.inl ⟨x, job, hnext, rfl⟩))
  · obtain ⟨⟨b, job⟩, hmem, rfl⟩ := List.mem_map.1 h
    exact .inr (.inr (.inr ⟨job, hmem⟩))

section Step

variable (h : s.Layout program log ((a, job) :: pending)) {parent first : NodeId}
include h

theorem Layout.apart_of_mem (hmem : (b, job') ∈ pending) : Address.Apart a b :=
  (List.pairwise_cons.1 h.apart).1 _ hmem

variable (harranged : y.Arranged job.cst)
include harranged

theorem Layout.apart_step :
    (Address.under a (y.pending parent first) ++ pending).Pairwise
      fun p q => Address.Apart p.1 q.1 := by
  refine List.pairwise_append.2 ⟨Address.pairwise_under harranged.pairwise_pending,
    (List.pairwise_cons.1 h.apart).2, fun p hp q hq => ?_⟩
  obtain ⟨x, hx, -⟩ := Address.mem_under.1 hp
  rw [hx]
  exact (h.apart_of_mem hq).extend (List.prefix_append a x) (List.prefix_refl q.1)

theorem Layout.fresh_step (hmem : (b, job') ∈ Address.under a (y.pending parent first) ++ pending)
    {z : Address} {y' : Yield} (hlog : (z, y') ∈ log ++ [(a, y)]) : ¬ b <+: z := by
  rcases List.mem_append.1 hmem with hnew | hold
  · obtain ⟨x, rfl, hx⟩ := Address.mem_under.1 hnew
    rcases List.mem_append.1 hlog with hlog | hlog
    · exact fun hle => h.fresh List.mem_cons_self hlog (Address.isPrefix_of_append_isPrefix hle)
    · -- what is new stands strictly below the node of the step
      obtain ⟨rfl, -⟩ := Prod.mk.inj (List.mem_singleton.1 hlog)
      exact Address.not_append_isPrefix (harranged.ne_nil (Yield.mem_addresses_of_mem_pending hx))
  · rcases List.mem_append.1 hlog with hlog | hlog
    · exact h.fresh (List.mem_cons_of_mem _ hold) hlog
    · obtain ⟨rfl, -⟩ := Prod.mk.inj (List.mem_singleton.1 hlog)
      exact (h.apart_of_mem hold).2

theorem Layout.fresh_place_step
    (hmem : (b, job') ∈ Address.under a (y.pending parent first) ++ pending) {o : Address}
    (ho : o ∈ placesOf (log ++ [(a, y)])) : ¬ b <+: o := by
  rcases List.mem_append.1 hmem with hnew | hold
  · obtain ⟨x, rfl, hx⟩ := Address.mem_under.1 hnew
    rcases mem_placesOf_concat.1 ho with ho | ⟨z, decl, hz, rfl⟩
    · exact fun hle => h.fresh_place List.mem_cons_self ho (Address.isPrefix_of_append_isPrefix hle)
    · rcases Yield.mem_origins.1 hz with ⟨rfl, -⟩ | hz
      · rw [List.append_nil]
        exact Address.not_append_isPrefix (harranged.ne_nil (Yield.mem_addresses_of_mem_pending hx))
      · rw [List.prefix_append_right_inj]
        exact (harranged.apart_pending hz hx).2
  · rcases mem_placesOf_concat.1 ho with ho | ⟨z, decl, -, rfl⟩
    · exact h.fresh_place (List.mem_cons_of_mem _ hold) ho
    · exact ((h.apart_of_mem hold).extend (List.prefix_append a z) (List.prefix_refl b)).2

omit harranged in
theorem Layout.once_step : ((log ++ [(a, y)]).map Prod.fst).Nodup := by
  rw [List.map_append, List.nodup_append]
  refine ⟨h.once, List.nodup_singleton a, fun b hb a' ha' heq => ?_⟩
  obtain ⟨⟨b, y'⟩, hlog, rfl⟩ := List.mem_map.1 hb
  obtain rfl : a' = a := List.mem_singleton.1 ha'
  exact h.fresh List.mem_cons_self hlog (heq ▸ List.prefix_refl _)

theorem Layout.places_nodup_step : (placesOf (log ++ [(a, y)])).Nodup := by
  rw [placesOf_concat, List.nodup_append]
  refine ⟨h.places_nodup, harranged.nodup_origins.map (List.append_right_injective a),
    fun o ho o' ho' heq => ?_⟩
  obtain ⟨x, -, rfl⟩ := List.mem_map.1 ho'
  exact h.fresh_place List.mem_cons_self ho (heq ▸ List.prefix_append a x)

omit harranged in
/-- Hidden children of nodes from before stay untouched: the way to a new node leads
    through the node of the step, which is below none of them. -/
theorem Layout.not_hidden_old {b' : Address} {y' : Yield} {c d : Cst} {i : Nat}
    (hlog : (b', y') ∈ log) (hat : program.at? b' = some c)
    (hd : c.children[i]? = some d) (hhides : c.Hides y'.own?.isSome d)
    (htouched : b ∈ touched (log ++ [(a, y)]) (Address.under a (y.pending parent first) ++ pending)) :
    ¬ b' ++ [i] <+: b := by
  have hold : ∀ {b}, b ∈ touched log ((a, job) :: pending) → ¬ b' ++ [i] <+: b :=
    h.not_hidden hlog hat hd hhides
  have ha : a ∈ touched log ((a, job) :: pending) := mem_touched_of_pending List.mem_cons_self
  rcases mem_touched_step htouched with ⟨y, hmem⟩ | rfl | ⟨x, job', hx, rfl⟩ | ⟨job', hmem⟩
  · exact hold (mem_touched_of_log hmem)
  · exact hold ha
  · intro hle
    rcases List.prefix_or_prefix_of_prefix hle (List.prefix_append a x) with hle | hle
    · exact hold ha hle
    · rcases List.prefix_concat_iff.1 hle with heq | hle
      · exact hold ha (heq ▸ List.prefix_refl _)
      · exact h.fresh List.mem_cons_self hlog hle
  · exact hold (mem_touched_of_pending (List.mem_cons_of_mem _ hmem))

theorem Layout.not_hidden_new {d : Cst} {i : Nat} (hd : job.cst.children[i]? = some d)
    (hhides : job.cst.Hides y.own?.isSome d)
    (htouched : b ∈ touched (log ++ [(a, y)]) (Address.under a (y.pending parent first) ++ pending)) :
    ¬ a ++ [i] <+: b := by
  rcases mem_touched_step htouched with ⟨y, hmem⟩ | rfl | ⟨x, job', hx, rfl⟩ | ⟨job', hmem⟩
  · exact fun hle => h.fresh List.mem_cons_self hmem (Address.isPrefix_of_append_isPrefix hle)
  · exact Address.not_append_isPrefix (List.cons_ne_nil i [])
  · rw [List.prefix_append_right_inj]
    rintro ⟨rest, rfl⟩
    rcases Yield.mem_pending.1 hx with ⟨hmem, -⟩ | ⟨hmem, -⟩
    · exact harranged.not_hides (.inl hmem) hd hhides
    · exact harranged.not_hides (.inr hmem) hd hhides
  · exact fun hle => (h.apart_of_mem hmem).1 (Address.isPrefix_of_append_isPrefix hle)

/-- Above a new node there are the node of the step, groups, and what is above that node. -/
theorem Layout.above_step (hb : b ∈ touched (log ++ [(a, y)])
    (Address.under a (y.pending parent first) ++ pending)) {b' : Address}
    (hle : b' <+: b) (hne : b' ≠ b) :
    (∃ y', (b', y') ∈ log ++ [(a, y)]) ∨ ∃ c, program.at? b' = some c ∧ c.kind.IsGroup := by
  have hold : ∀ {b}, b ∈ touched log ((a, job) :: pending) → b' <+: b → b' ≠ b →
      (∃ y', (b', y') ∈ log ++ [(a, y)]) ∨ ∃ c, program.at? b' = some c ∧ c.kind.IsGroup := by
    intro b hb hle hne
    exact (h.above hb hle hne).imp_left fun ⟨y', hlog⟩ => ⟨y', List.mem_append_left _ hlog⟩
  have ha : a ∈ touched log ((a, job) :: pending) := mem_touched_of_pending List.mem_cons_self
  rcases mem_touched_step hb with ⟨y, hmem⟩ | rfl | ⟨x, job', hx, rfl⟩ | ⟨job', hmem⟩
  · exact hold (mem_touched_of_log hmem) hle hne
  · exact hold ha hle hne
  · by_cases heq : b' = a
    · exact .inl ⟨y, heq ▸ List.mem_append_right _ (List.mem_singleton_self _)⟩
    · rcases List.prefix_or_prefix_of_prefix hle (List.prefix_append a x) with hle' | ⟨z, rfl⟩
      · exact hold ha hle' heq
      · -- strictly between the two there is room for a group only
        rw [List.prefix_append_right_inj] at hle
        have hz : z ≠ [] := fun hz => heq (by rw [hz, List.append_nil])
        have hzx : z ≠ x := fun hzx => hne (by rw [hzx])
        have hreaches := harranged.reaches (Yield.mem_addresses_of_mem_pending hx)
        obtain ⟨d, hd, hgroup⟩ := hreaches.group_above hle hz hzx
        exact .inr ⟨d, (Cst.at?_append_of_eq (h.at?_eq List.mem_cons_self)).trans hd, hgroup⟩
  · exact hold (mem_touched_of_pending (List.mem_cons_of_mem _ hmem)) hle hne

/-- A step keeps the layout. -/
theorem Layout.step (hy : s.HasYield job.cst y) :
    s.Layout program (log ++ [(a, y)]) (Address.under a (y.pending parent first) ++ pending) where
  hasYield {b y'} hlog := by
    rcases List.mem_append.1 hlog with hlog | hlog
    · exact h.hasYield hlog
    · obtain ⟨rfl, rfl⟩ := Prod.mk.inj (List.mem_singleton.1 hlog)
      exact ⟨job.cst, h.at?_eq List.mem_cons_self, hy⟩
  at?_eq {b job'} hmem := by
    rcases List.mem_append.1 hmem with hnew | hold
    · obtain ⟨x, rfl, hx⟩ := Address.mem_under.1 hnew
      rw [Cst.at?_append_of_eq (h.at?_eq List.mem_cons_self)]
      exact (hy.yields.at?_of_mem_pending hx).2
    · exact h.at?_eq (List.mem_cons_of_mem _ hold)
  apart := h.apart_step harranged
  fresh hmem hlog := h.fresh_step harranged hmem hlog
  fresh_place hmem ho := h.fresh_place_step harranged hmem ho
  once := h.once_step
  places_nodup := h.places_nodup_step harranged
  not_hidden {b' b y' c d i} hlog hat hd hhides hb := by
    rcases List.mem_append.1 hlog with hlog | hlog
    · exact h.not_hidden_old hlog hat hd hhides hb
    · obtain ⟨rfl, rfl⟩ := Prod.mk.inj (List.mem_singleton.1 hlog)
      obtain rfl := Option.some.inj ((h.at?_eq List.mem_cons_self).symm.trans hat)
      exact h.not_hidden_new harranged hd hhides hb
  above hb hle hne := h.above_step harranged hb hle hne

/-! ## Parents -/

variable (hm : Mirrors program log t ((a, job) :: pending))
include hm

omit harranged in
/-- What none of the new declarations surrounds belongs where the node belongs. -/
theorem Mirrors.innermost_around
    (hx : ∀ {z decl}, (z, decl) ∈ y.origins → ¬ program.Surrounds (a ++ z) (a ++ x)) :
    program.Innermost (placesOf (log ++ [(a, y)])) (a ++ x) job.parent := by
  have hplaces : ∀ o ∈ placesOf log, ¬ a <+: o := fun o ho => h.fresh_place List.mem_cons_self ho
  rw [placesOf_concat]
  refine ((hm.innermost List.mem_cons_self).below hplaces).append fun o ho => ?_
  obtain ⟨_, hplace, rfl⟩ := List.mem_map.1 ho
  obtain ⟨⟨z, decl⟩, hz, rfl⟩ := List.mem_map.1 hplace
  exact hx hz

omit harranged in
/-- What the node encloses belongs to its own declaration. -/
theorem Mirrors.innermost_inside {own : Declaration} {i : Nat} {rest : Address}
    (hown : y.own? = some own) (hencloses : job.cst.Encloses i)
    (hx : ∀ {z decl}, (z, decl) ∈ y.params → ¬ program.Surrounds (a ++ z) (a ++ i :: rest)) :
    program.Innermost (placesOf (log ++ [(a, y)])) (a ++ i :: rest) t.size := by
  have hplaces : ∀ o ∈ placesOf log, ¬ a <+: o := fun o ho => h.fresh_place List.mem_cons_self ho
  have horigins : (y.origins.map Prod.fst).map (a ++ ·) =
      a :: (y.params.map Prod.fst).map (a ++ ·) := by
    rw [Yield.origins, hown]
    simp
  have hsize : t.size = (placesOf log).length + 1 := by
    rw [hm.size_eq, placesOf, List.length_map]
  rw [placesOf_concat, horigins, hsize]
  refine Cst.innermost_own (h.at?_eq List.mem_cons_self) hencloses ⟨rest, rfl⟩ hplaces fun o ho => ?_
  obtain ⟨_, hplace, rfl⟩ := List.mem_map.1 ho
  obtain ⟨⟨z, decl⟩, hz, rfl⟩ := List.mem_map.1 hplace
  exact hx hz

/-- What comes from a node has the parent that most closely surrounds its place. -/
theorem Mirrors.innermost_origin {decl : Declaration} (hx : (x, decl) ∈ y.origins) :
    program.Innermost (placesOf (log ++ [(a, y)])) (a ++ x) (y.holder job.parent t.size x) := by
  rcases Yield.mem_origins.1 hx with ⟨rfl, -⟩ | hparam
  · rw [Yield.holder, if_pos rfl]
    refine innermost_around h hm fun hz => Cst.not_surrounds_of_isPrefix ?_
    rw [List.append_nil]
    exact List.prefix_append _ _
  · have hne := harranged.ne_nil (Yield.mem_addresses_of_mem_params hparam)
    rw [Yield.holder, if_neg hne, Yield.owner]
    cases hown : y.own? with
    | none =>
      -- a parameter that is caught belongs where its clause belongs
      refine innermost_around h hm fun hz => ?_
      rcases Yield.mem_origins.1 hz with ⟨-, hz⟩ | hz
      · rw [hown] at hz; cases hz
      · exact harranged.not_surrounds_params hz hparam
    | some own =>
      obtain ⟨i, rest, rfl⟩ := List.exists_cons_of_ne_nil hne
      refine innermost_inside h hm hown (harranged.encloses_params (by rw [hown]; rfl) hparam) ?_
      exact fun hz => harranged.not_surrounds_params hz hparam

/-- What a step goes on with belongs to the node that most closely surrounds its place. -/
theorem Mirrors.innermost_pending (hy : s.Yields job.cst y)
    (hx : (x, job') ∈ y.pending job.parent t.size) :
    program.Innermost (placesOf (log ++ [(a, y)])) (a ++ x) job'.parent := by
  have hparams : ∀ {z decl}, (z, decl) ∈ y.params → ¬ program.Surrounds (a ++ z) (a ++ x) :=
    fun hz => Cst.not_surrounds_of_apart (Address.apart_append_iff.2 (harranged.apart_pending hz hx))
  obtain ⟨i, rest, rfl⟩ :=
    List.exists_cons_of_ne_nil (harranged.ne_nil (Yield.mem_addresses_of_mem_pending hx))
  rcases Yield.mem_pending.1 hx with ⟨haround, heq⟩ | ⟨hinside, heq⟩
  · rw [heq]
    refine innermost_around h hm fun hz => ?_
    rcases Yield.mem_origins.1 hz with ⟨rfl, hown⟩ | hz
    · -- the declaration of the node itself does not enclose what is around
      rw [List.append_nil]
      rintro ⟨c, j, hat, hencloses, hle⟩
      obtain rfl := Option.some.inj ((h.at?_eq List.mem_cons_self).symm.trans hat)
      obtain ⟨rfl, -⟩ := List.cons_prefix_cons.1 ((List.prefix_append_right_inj a).1 hle)
      exact harranged.not_encloses_around (by rw [hown]; rfl) haround hencloses
    · exact hparams hz
  · rw [heq]
    cases hown : y.own? with
    | none => rw [hy.inside_eq_nil hown] at hinside; cases hinside
    | some own => exact innermost_inside h hm hown (harranged.encloses_inside hinside) hparams

/-- A step keeps the tree in accordance with the places that its nodes come from. -/
theorem Mirrors.step (hy : s.Yields job.cst y) :
    Mirrors program (log ++ [(a, y)]) (t.attachedAll (y.entries job.parent t.size))
      (Address.under a (y.pending job.parent t.size) ++ pending) where
  size_eq := by
    rw [Tree.size_attachedAll, harranged.entries_eq, List.length_map, hm.size_eq, originsOf_concat,
      List.length_append, Address.under, List.length_map, Nat.add_right_comm]
  declaration?_eq {i o decl} hi := by
    rcases getElem?_originsOf_concat hi with hold | ⟨k, x, rfl, hx, rfl⟩
    · exact Tree.declaration?_attachedAll_of_eq_some (hm.declaration?_eq hold)
    · have hnew : (originsOf log).length + k + 1 = t.size + k := by
        rw [hm.size_eq, Nat.add_right_comm]
      rw [hnew, Tree.declaration?_attachedAll, if_neg (Nat.not_lt.2 (Nat.le_add_right _ _)),
        Nat.add_sub_cancel_left, harranged.entries_eq, List.getElem?_map, hx]
      rfl
  parent?_eq {i o} hi := by
    rw [placesOf, List.getElem?_map] at hi
    obtain ⟨⟨o, decl⟩, horigin, rfl⟩ := Option.map_eq_some_iff.1 hi
    rcases getElem?_originsOf_concat horigin with hold | ⟨k, x, rfl, hx, rfl⟩
    · have hplace : (placesOf log)[i]? = some o := by
        rw [placesOf, List.getElem?_map, hold]
        rfl
      obtain ⟨p, hp, hinnermost⟩ := hm.parent?_eq hplace
      refine ⟨p, Tree.parent?_attachedAll_of_eq_some hp, ?_⟩
      rw [placesOf_concat]
      refine hinnermost.append fun o' ho' hsurrounds => ?_
      obtain ⟨z, -, rfl⟩ := List.mem_map.1 ho'
      exact h.fresh_place List.mem_cons_self (List.mem_of_getElem? hplace)
        (Address.isPrefix_of_append_isPrefix hsurrounds.isPrefix)
    · have hnew : (originsOf log).length + k + 1 = t.size + k := by
        rw [hm.size_eq, Nat.add_right_comm]
      refine ⟨y.holder job.parent t.size x, ?_,
        innermost_origin h harranged hm (List.mem_of_getElem? hx)⟩
      rw [hnew, Tree.parent?_attachedAll, if_neg (Nat.not_lt.2 (Nat.le_add_right _ _)),
        Nat.add_sub_cancel_left, harranged.entries_eq, List.getElem?_map, hx]
      rfl
  innermost {b job'} hmem := by
    rcases List.mem_append.1 hmem with hnew | hold
    · obtain ⟨x, rfl, hx⟩ := Address.mem_under.1 hnew
      exact innermost_pending h harranged hm hy hx
    · rw [placesOf_concat]
      refine (hm.innermost (List.mem_cons_of_mem _ hold)).append fun o ho => ?_
      obtain ⟨z, -, rfl⟩ := List.mem_map.1 ho
      refine Cst.not_surrounds_of_apart ?_
      exact (h.apart_of_mem hold).extend (List.prefix_append a z) (List.prefix_refl b)

end Step

/-! ## Walks through programs -/

/-- Nothing at or below child number `i` of the node at `a` is taken up, and only the
    parameters of that node are declared there. -/
def Closed (log : List (Address × Yield)) (a : Address) (i : Nat) : Prop :=
  (∀ b y, (b, y) ∈ log → ¬ a ++ [i] <+: b) ∧
    ∀ o decl, (o, decl) ∈ originsOf log → a ++ [i] <+: o →
      ∃ y x, (a, y) ∈ log ∧ (x, decl) ∈ y.params ∧ o = a ++ x

/-- The tree of a program nests as the program does. The log has the nodes that were
    taken up on the way. -/
structure Nested (s : Source) (program : Cst) (log : List (Address × Yield)) (t : Tree) : Prop where
  /-- What is taken up are nodes of the program, with what a step at them does. -/
  hasYield {a : Address} {y : Yield} :
    (a, y) ∈ log → ∃ c, program.at? a = some c ∧ s.HasYield c y
  /-- No node is taken up twice. -/
  once : (log.map Prod.fst).Nodup
  /-- Besides the unit, there is a node for each declaration that was found. -/
  size_eq : t.size = (originsOf log).length + 1
  declaration?_eq {i : Nat} {a : Address} {decl : Declaration} :
    (originsOf log)[i]? = some (a, decl) → t.declaration? (i + 1) = some decl
  /-- Different nodes come from different places. -/
  places_nodup : (placesOf log).Nodup
  /-- The parent of a node is the innermost declaration around the place that it comes from. -/
  parent?_eq {i : Nat} {a : Address} : (placesOf log)[i]? = some a →
    ∃ p, t.parent? (i + 1) = some p ∧ program.Innermost (placesOf log) a p
  /-- Of modifiers, lists of formal parameters and what else is hidden, nothing is
      taken up, and only the parameters are declared. -/
  closed {a : Address} {y : Yield} {c d : Cst} {i : Nat} : (a, y) ∈ log → program.at? a = some c →
    c.children[i]? = some d → c.Hides y.own?.isSome d → Closed log a i
  /-- The same holds of the parameters of all catch clauses of the program. -/
  closed_caught {a : Address} {c d : Cst} {i : Nat} : program.at? a = some c →
    c.kind = .catchClause → c.children[i]? = some d → d.kind = .catchParameter → Closed log a i

variable {unit : String} {i : Nat}

/-- What is declared below a place where nothing is taken up are parameters of a node
    above that place, or of the node that the place is a child of. -/
theorem exists_params_above {o : Address} {decl : Declaration}
    (huntouched : ∀ b y, (b, y) ∈ log → ¬ a ++ [i] <+: b) (ho : (o, decl) ∈ originsOf log)
    (hle : a ++ [i] <+: o) :
    ∃ b y x, (b, y) ∈ log ∧ (x, decl) ∈ y.params ∧ o = b ++ x ∧ b <+: a := by
  obtain ⟨b, y, x, hlog, hx, rfl⟩ := exists_of_mem_originsOf ho
  have hb := huntouched b y hlog
  rcases Yield.mem_origins.1 hx with ⟨rfl, -⟩ | hparam
  · rw [List.append_nil] at hle
    exact absurd hle hb
  · refine ⟨b, y, x, hlog, hparam, rfl, ?_⟩
    rcases List.prefix_or_prefix_of_prefix hle (List.prefix_append b x) with hle | hle
    · exact absurd hle hb
    · rcases List.prefix_concat_iff.1 hle with heq | hle
      · exact absurd (heq ▸ List.prefix_refl _) hb
      · exact hle

section Result

variable (h : s.Layout program log []) (hregular : program.Regular)
include h hregular

theorem Layout.arranged (hlog : (a, y) ∈ log) : ∃ c, program.at? a = some c ∧ y.Arranged c := by
  obtain ⟨c, hat, hy⟩ := h.hasYield hlog
  exact ⟨c, hat, hy.yields.arranged (hregular (Cst.within_of_at? hat))⟩

/-- Strictly above a parameter and below the node that it belongs to, there is only a
    group, and that is not taken up. -/
theorem Layout.group_above_param {decl : Declaration} (hlog : (b, y) ∈ log)
    (hx : (x, decl) ∈ y.params) (hba : b <+: a) (hne : b ≠ a) (hle : a ++ [i] <+: b ++ x) :
    (∃ c, program.at? a = some c ∧ c.kind.IsGroup) ∧ ∀ y, (a, y) ∉ log := by
  obtain ⟨c, hat, harranged⟩ := h.arranged hregular hlog
  have hreaches := harranged.reaches (Yield.mem_addresses_of_mem_params hx)
  obtain ⟨j, rest, rfl⟩ := Address.exists_eq_append_cons hba hne
  rw [List.append_assoc, List.prefix_append_right_inj] at hle
  constructor
  · have hshort : j :: rest ≠ x := fun heq =>
      Address.not_append_isPrefix (List.cons_ne_nil i []) (heq ▸ hle)
    obtain ⟨d, hd, hgroup⟩ :=
      hreaches.group_above (Address.isPrefix_of_append_isPrefix hle) (List.cons_ne_nil _ _) hshort
    exact ⟨d, (Cst.at?_append_of_eq hat).trans hd, hgroup⟩
  · intro y' hlog'
    obtain ⟨rest', rfl⟩ := hle
    obtain ⟨k, d, hd, hplace⟩ := hreaches
    have hk : k = j := by
      rcases hplace with heq | ⟨l, heq, -⟩
      · exact (List.cons.inj heq).1.symm
      · exact (List.cons.inj heq).1.symm
    rw [hk] at hd
    refine h.not_hidden hlog hat hd (harranged.hides_params hx hd) (mem_touched_of_log hlog') ?_
    exact (List.prefix_append_right_inj b).2 ⟨rest, rfl⟩

theorem Layout.closed {c d : Cst} (hlog : (a, y) ∈ log) (hat : program.at? a = some c)
    (hd : c.children[i]? = some d) (hhides : c.Hides y.own?.isSome d) : Closed log a i := by
  have huntouched : ∀ b y, (b, y) ∈ log → ¬ a ++ [i] <+: b := fun b y hb =>
    h.not_hidden hlog hat hd hhides (mem_touched_of_log hb)
  refine ⟨huntouched, fun o decl ho hle => ?_⟩
  obtain ⟨b, y', x, hb, hx, rfl, hba⟩ := exists_params_above huntouched ho hle
  by_cases heq : b = a
  · exact ⟨y', x, heq ▸ hb, hx, by rw [heq]⟩
  · exact absurd hlog ((h.group_above_param hregular hb hx hba heq hle).2 y)

/-- Below a parameter of a catch clause nothing is taken up, whether or not the clause was:
    nothing but groups is passed by on the way down. -/
theorem Layout.closed_caught {c d : Cst} (hat : program.at? a = some c)
    (hkind : c.kind = .catchClause) (hd : c.children[i]? = some d)
    (hdkind : d.kind = .catchParameter) : Closed log a i := by
  have hgroup : ¬ ∃ c, program.at? a = some c ∧ c.kind.IsGroup := by
    rintro ⟨c', hat', hgroup⟩
    obtain rfl := Option.some.inj (hat.symm.trans hat')
    rw [hkind] at hgroup
    rcases hgroup with hgroup | hgroup | hgroup <;> cases hgroup
  have huntouched : ∀ b y, (b, y) ∈ log → ¬ a ++ [i] <+: b := by
    intro b y hb hle
    have hba : a ≠ b := fun heq =>
      Address.not_append_isPrefix (List.cons_ne_nil i []) (heq ▸ hle)
    have habove := h.above (mem_touched_of_log hb) (Address.isPrefix_of_append_isPrefix hle) hba
    obtain ⟨y', hlog⟩ := habove.resolve_right hgroup
    exact h.not_hidden hlog hat hd (.caught hkind hdkind) (mem_touched_of_log hb) hle
  refine ⟨huntouched, fun o decl ho hle => ?_⟩
  obtain ⟨b, y', x, hb, hx, rfl, hba⟩ := exists_params_above huntouched ho hle
  by_cases heq : b = a
  · exact ⟨y', x, heq ▸ hb, hx, by rw [heq]⟩
  · exact absurd (h.group_above_param hregular hb hx hba heq hle).1 hgroup

end Result

theorem layout_start (s : Source) (program : Cst) :
    s.Layout program [] [([], ⟨program, Tree.root⟩)] where
  hasYield := nofun
  at?_eq hmem := by
    obtain ⟨rfl, rfl⟩ := Prod.mk.inj (List.mem_singleton.1 hmem)
    rfl
  apart := List.pairwise_singleton _ _
  fresh _ := nofun
  fresh_place _ := nofun
  once := List.nodup_nil
  places_nodup := List.nodup_nil
  not_hidden := nofun
  above hb hle hne := by
    obtain rfl := List.mem_singleton.1 hb
    exact absurd (List.prefix_nil.1 hle) hne

theorem mirrors_start (unit : String) (program : Cst) :
    Mirrors program [] (Tree.ofUnit unit) [([], ⟨program, Tree.root⟩)] where
  size_eq := rfl
  declaration?_eq := nofun
  parent?_eq := nofun
  innermost hmem := by
    obtain ⟨-, rfl⟩ := Prod.mk.inj (List.mem_singleton.1 hmem)
    exact .inl ⟨rfl, nofun⟩

/-- A walk through a program of regular nodes results in a tree that nests as the program does. -/
theorem Walk.nested (hwalk : s.Walk [([], ⟨program, Tree.root⟩)] (Tree.ofUnit unit) log t)
    (hregular : program.Regular) : s.Nested program log t := by
  obtain ⟨h, hm⟩ := hwalk.induction
    (P := fun past t pending => s.Layout program past pending ∧ Mirrors program past t pending)
    (fun {past t a job pending y} hy _ ⟨h, hm⟩ => by
      have hc := hregular (Cst.within_of_at? (h.at?_eq List.mem_cons_self))
      have harranged := hy.yields.arranged hc
      exact ⟨h.step harranged hy, hm.step h harranged hy.yields⟩)
    ⟨s.layout_start program, mirrors_start unit program⟩
  exact {
    hasYield := h.hasYield
    once := h.once
    size_eq := hm.size_eq
    declaration?_eq := hm.declaration?_eq
    places_nodup := h.places_nodup
    parent?_eq := hm.parent?_eq
    closed := h.closed hregular
    closed_caught := h.closed_caught hregular }

/-- The declarations of a program are those that recursion finds: a node is followed
    by what is below it, from left to right. The list of pending nodes runs empty,
    within any bound not below the weight of the program. With a regular program, the
    tree nests as the program does. -/
theorem declarations_nested (s : Source) (unit : String) (program : Cst) :
    s.declarations unit program = Extraction.lower s program Tree.root (Tree.ofUnit unit) ∧
      ∃ log t, s.declarations unit program = .ok t ∧
        s.Walk [([], ⟨program, Tree.root⟩)] (Tree.ofUnit unit) log t ∧
        (∀ fuel, program.weight ≤ fuel →
          Extraction.run s fuel [⟨program, Tree.root⟩] (Tree.ofUnit unit) = .ok t) ∧
        (program.Regular → s.Nested program log t) := by
  obtain ⟨log, t, hwalk, ht⟩ := s.exists_walk_declarations unit program
  exact ⟨s.declarations_eq_lower unit program, log, t, ht, hwalk, fun _ hfuel => hwalk.run_eq hfuel,
    hwalk.nested⟩

/-- A method that creates an object of an anonymous class. A lambda is an argument. -/
def lambdaArgumentSource : String :=
  "class A \x7b void m(int p) \x7b new B(x -> x) \x7b void n() \x7b \x7d \x7d; \x7d \x7d"

/-- The concrete syntax tree of that text. -/
def lambdaArgumentProgram : Cst :=
  .node .program none false 0 61 [
    .node .classDeclaration none false 0 61 [
      .leaf (.token "class") 0 5,
      .node .identifier (some .name) false 6 7 [],
      .node .classBody (some .body) false 8 61 [
        .leaf (.token "\x7b") 8 9,
        .node .methodDeclaration none false 10 59 [
          .leaf .phrase 10 14,
          .node .identifier (some .name) false 15 16 [],
          .node .formalParameters (some .parameters) false 16 23 [
            .leaf (.token "(") 16 17,
            .node .formalParameter none false 17 22 [
              .leaf .phrase 17 20,
              .node .identifier (some .name) false 21 22 []],
            .leaf (.token ")") 22 23],
          .node .phrase (some .body) false 24 59 [
            .node .objectCreation none false 26 56 [
              .leaf (.token "new") 26 29,
              .node .identifier (some .type) false 30 31 [],
              .node .phrase none false 31 39 [
                .node .lambda none false 32 38 [
                  .node .identifier (some .parameters) false 32 33 [],
                  .leaf (.token "->") 34 36,
                  .node .identifier (some .body) false 37 38 []]],
              .node .classBody none false 40 56 [
                .leaf (.token "\x7b") 40 41,
                .node .methodDeclaration none false 42 54 [
                  .leaf .phrase 42 46,
                  .node .identifier (some .name) false 47 48 [],
                  .node .formalParameters (some .parameters) false 48 50 [],
                  .leaf .phrase 51 54],
                .leaf (.token "\x7d") 55 56]]]],
        .leaf (.token "\x7d") 60 61]]]

/-- The lambda, node 5, belongs to the method around the object, node 2, and not to the
    anonymous class, node 4. -/
theorem declarations_nested_lambdaArgument :
    lambdaArgumentProgram.Regular ∧
      (∃ log t, (Source.ofText lambdaArgumentSource 4).declarations "A.java" lambdaArgumentProgram =
        .ok t ∧ (Source.ofText lambdaArgumentSource 4).Nested lambdaArgumentProgram log t) ∧
      ((Source.ofText lambdaArgumentSource 4).declarations "A.java" lambdaArgumentProgram).map
          (fun t => (List.range t.size).map t.parent?) =
        .ok [none, some 0, some 1, some 2, some 2, some 2, some 5, some 4] := by
  have hregular : lambdaArgumentProgram.Regular := Cst.regular_of_nodes (by decide)
  obtain ⟨-, log, t, ht, -, -, hnested⟩ :=
    declarations_nested (.ofText lambdaArgumentSource 4) "A.java" lambdaArgumentProgram
  exact ⟨hregular, ⟨log, t, ht, hnested hregular⟩, by decide +kernel⟩

end Source

end Java

end JavaLint
