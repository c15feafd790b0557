import JavaLint.Proofs.Tree.Growth
import JavaLint.Proofs.Tree.Order
/-!
# Runs of attempts

Some attempts to attach a declaration are rejected. Whatever is attempted, and in
whatever order, parents and children go on to name each other, and the way up
from a node ends at the compilation unit.

## Main definitions

- `Tree.Rejects` — the first reason against an attachment
- `Tree.attempts` — a tree after a list of attempts, with their outcomes
- `Tree.IsArena` — well-formed trees with names and one compilation unit
- `Tree.Climbs` — the way up from a node, without a bound on its length

## Main statements

- `Tree.attempts_without_rejected` — an attempt that is rejected leaves no trace
- `Tree.WellFormed.climbs_iff` — the bound on the way up is never reached
- `Tree.attempts_isArena` — what all runs of attempts have in common
-/

namespace JavaLint.Tree

variable {t : Tree} {id p parent : NodeId} {decl : Declaration} {walk : List NodeId}

/-! ## Rejections -/

/-- Why a declaration cannot be attached: the first one of three tests that fails. -/
inductive Rejects (t : Tree) (parent : NodeId) (decl : Declaration) : TreeError → Prop
  | unknownParent : t.size ≤ parent → Rejects t parent decl (.unknownParent parent)
  | nestedCompilationUnit : parent < t.size → decl.kind = .compilationUnit →
      Rejects t parent decl (.nestedCompilationUnit decl.position)
  | emptyIdentifier : parent < t.size → decl.kind ≠ .compilationUnit → decl.ident = "" →
      Rejects t parent decl (.emptyIdentifier decl.kind decl.position)

theorem push_eq_error_iff {e : TreeError} :
    t.push parent decl = .error e ↔ t.Rejects parent decl e := by
  constructor
  · intro h
    unfold push at h
    split at h
    · next hparent =>
      rw [← Except.error.inj h]
      exact .unknownParent hparent
    · next hparent =>
      have hlt := Nat.not_le.1 hparent
      split at h
      · next hkind =>
        rw [← Except.error.inj h]
        exact .nestedCompilationUnit hlt hkind
      · next hkind =>
        split at h
        · next hident =>
          rw [← Except.error.inj h]
          exact .emptyIdentifier hlt hkind (String.isEmpty_iff.1 hident)
        · cases h
  · intro h
    unfold push
    cases h with
    | unknownParent hparent => rw [if_pos hparent]
    | nestedCompilationUnit hlt hkind => rw [if_neg (Nat.not_le.2 hlt), if_pos hkind]
    | emptyIdentifier hlt hkind hident =>
      rw [if_neg (Nat.not_le.2 hlt), if_neg hkind, if_pos (String.isEmpty_iff.2 hident)]

/-! ## Attempts -/

/-- An attempt to attach a declaration below a node. -/
structure Attempt where
  parent : NodeId
  decl : Declaration

/-- A tree after an attempt, with the index of the new node or the reason against it. -/
def attempt (t : Tree) (a : Attempt) : Tree × Except TreeError NodeId :=
  match t.push a.parent a.decl with
  | .ok (t', id) => (t', .ok id)
  | .error e => (t, .error e)

/-- A tree after a list of attempts, with the outcome of each of them. -/
def attempts (t : Tree) : List Attempt → Tree × List (Except TreeError NodeId)
  | [] => (t, [])
  | a :: rest =>
    let (t₁, outcome) := t.attempt a
    let (t₂, outcomes) := t₁.attempts rest
    (t₂, outcome :: outcomes)

variable {a : Attempt} {as before after : List Attempt} {e : TreeError}

/-- An attempt is rejected and changes nothing, or its declaration becomes the last node. -/
theorem attempt_cases (t : Tree) (a : Attempt) :
    (∃ e, t.Rejects a.parent a.decl e ∧ t.attempt a = (t, .error e)) ∨
      t.push a.parent a.decl = .ok (t.attached a.parent a.decl, t.size) ∧
        t.attempt a = (t.attached a.parent a.decl, .ok t.size) := by
  unfold attempt
  cases hpush : t.push a.parent a.decl with
  | error e => exact .inl ⟨e, push_eq_error_iff.1 hpush, rfl⟩
  | ok res =>
    obtain ⟨t', id⟩ := res
    obtain ⟨-, -, -, rfl, rfl⟩ := push_eq_ok_iff.1 hpush
    exact .inr ⟨rfl, rfl⟩

theorem attempt_snd_eq_error_iff : (t.attempt a).2 = .error e ↔ t.Rejects a.parent a.decl e := by
  rw [← push_eq_error_iff]
  unfold attempt
  cases t.push a.parent a.decl with
  | error e' => exact ⟨fun h => congrArg _ (Except.error.inj h), fun h => congrArg _ (Except.error.inj h)⟩
  | ok res => exact ⟨nofun, nofun⟩

theorem attempt_of_rejects (h : t.Rejects a.parent a.decl e) : t.attempt a = (t, .error e) := by
  rw [attempt, push_eq_error_iff.2 h]

theorem attempts_cons :
    t.attempts (a :: as) = (((t.attempt a).1.attempts as).1,
      (t.attempt a).2 :: ((t.attempt a).1.attempts as).2) := rfl

theorem attempts_append :
    t.attempts (before ++ after) = (((t.attempts before).1.attempts after).1,
      (t.attempts before).2 ++ ((t.attempts before).1.attempts after).2) := by
  induction before generalizing t with
  | nil => rfl
  | cons a before ih => rw [List.cons_append, attempts_cons, ih, attempts_cons, List.cons_append]

theorem length_attempts (t : Tree) (as : List Attempt) : (t.attempts as).2.length = as.length := by
  induction as generalizing t with
  | nil => rfl
  | cons a as ih => rw [attempts_cons, List.length_cons, ih, List.length_cons]

/-- A rejected attempt leaves no trace: all others have the outcomes that they would
    have had without it, and the same tree results. -/
theorem attempts_without_rejected (h : (t.attempts before).1.Rejects a.parent a.decl e) :
    t.attempts (before ++ after) = ((t.attempts (before ++ a :: after)).1,
      (t.attempts (before ++ a :: after)).2.eraseIdx before.length) := by
  simp only [attempts_append, attempts_cons, attempt_of_rejects h, ← length_attempts t before,
    List.eraseIdx_append_of_length_le (Nat.le_refl _), Nat.sub_self, List.eraseIdx_cons_zero]

theorem getElem?_outcomes_attempts (t : Tree) (before after : List Attempt) (a : Attempt) :
    (t.attempts (before ++ a :: after)).2[before.length]? =
      some ((t.attempts before).1.attempt a).2 := by
  rw [attempts_append, attempts_cons, ← length_attempts t before]
  simp

theorem Built.attempts (h : t.Built) (as : List Attempt) : (t.attempts as).1.Built := by
  induction as generalizing t with
  | nil => exact h
  | cons a as ih =>
    rw [attempts_cons]
    rcases t.attempt_cases a with ⟨e, -, ha⟩ | ⟨hpush, ha⟩
    · rw [ha]
      exact ih h
    · rw [ha]
      exact ih (.push h hpush)

/-- The successful attempts number their nodes consecutively. -/
theorem ids_attempts (t : Tree) (as : List Attempt) :
    ∃ n, (t.attempts as).1.size = t.size + n ∧
      (t.attempts as).2.filterMap Except.toOption = List.range' t.size n := by
  induction as generalizing t with
  | nil => exact ⟨0, rfl, rfl⟩
  | cons a as ih =>
    rw [attempts_cons]
    rcases t.attempt_cases a with ⟨e, -, ha⟩ | ⟨-, ha⟩
    · obtain ⟨n, hsize, hids⟩ := ih t
      rw [ha]
      exact ⟨n, hsize, hids⟩
    · obtain ⟨n, hsize, hids⟩ := ih (t.attached a.parent a.decl)
      rw [size_attached] at hsize hids
      rw [ha]
      refine ⟨n + 1, by rw [hsize, Nat.add_assoc, Nat.add_comm 1], ?_⟩
      rw [List.range'_succ, ← hids]
      rfl

/-! ## What all runs have in common -/

/-- In a well-formed tree every node has a name, and node 0 is the only compilation unit. -/
structure IsArena (t : Tree) : Prop extends t.WellFormed where
  ident_ne {id : NodeId} {node : TreeNode} : t.get? id = some node → node.ident ≠ ""
  kind?_eq_compilationUnit {id : NodeId} : t.kind? id = some .compilationUnit ↔ id = root

theorem isArena_ofUnit (unit : String) : (ofUnit unit).IsArena where
  toWellFormed := wellFormed_ofUnit unit
  ident_ne {id node} h := by
    have hid : id = root := Nat.lt_one_iff.1 (lt_size_of_get? h)
    rw [hid] at h
    rw [← Option.some.inj h]
    change (if unit.isEmpty then defaultUnit else unit) ≠ ""
    split
    · decide
    · next hunit => exact fun hempty => hunit (String.isEmpty_iff.2 hempty)
  kind?_eq_compilationUnit {id} := by
    constructor
    · intro h
      obtain ⟨node, hnode, -⟩ := Option.map_eq_some_iff.1 h
      exact Nat.lt_one_iff.1 (lt_size_of_get? hnode)
    · rintro rfl
      rfl

theorem IsArena.attached (h : t.IsArena) (hp : parent < t.size) (hk : decl.kind ≠ .compilationUnit)
    (hi : decl.ident ≠ "") : (t.attached parent decl).IsArena where
  toWellFormed := h.toWellFormed.attached hp
  ident_ne {id node} hnode := by
    rw [get?_attached] at hnode
    split at hnode
    · rw [← Option.some.inj hnode]
      exact hi
    · split at hnode
      · obtain ⟨old, hold, rfl⟩ := Option.map_eq_some_iff.1 hnode
        have hident : old.ident ≠ "" := h.ident_ne hold
        exact hident
      · exact h.ident_ne hnode
  kind?_eq_compilationUnit {id} := by
    rw [kind?_attached]
    split
    · next hid =>
      have hroot : id ≠ root := hid ▸ Nat.ne_of_gt h.size_pos
      simp [hk, hroot]
    · exact h.kind?_eq_compilationUnit

theorem Built.isArena (h : t.Built) : t.IsArena := by
  induction h with
  | ofUnit unit => exact isArena_ofUnit unit
  | push _ hpush ih =>
    obtain ⟨hp, hk, hi, rfl, -⟩ := push_eq_ok_iff.1 hpush
    exact ih.attached hp hk fun hempty => by simp [hempty] at hi

/-! ## The way up -/

/-- From a node to its parent, the parent of that, and so on until there is none,
    the way leads through the nodes of `walk`. -/
inductive Climbs (t : Tree) : NodeId → List NodeId → Prop
  | top {id : NodeId} : t.parent? id = none → Climbs t id []
  | up {id p : NodeId} {walk : List NodeId} : t.parent? id = some p → Climbs t p walk →
      Climbs t id (p :: walk)

theorem WellFormed.climbs_ancestors (h : t.WellFormed) (id : NodeId) :
    t.Climbs id (t.ancestors id) := by
  -- parents have smaller indices
  induction id using Nat.strongRecOn with
  | ind id ih =>
    cases hp : t.parent? id with
    | none =>
      rw [h.ancestors_eq, hp]
      exact .top hp
    | some p =>
      rw [h.ancestors_of_parent? hp]
      exact .up hp (ih p (h.parent_lt hp))

/-- From every index there is one way up, which the bounded query follows to its end. -/
theorem WellFormed.climbs_iff (h : t.WellFormed) : t.Climbs id walk ↔ walk = t.ancestors id := by
  constructor
  · intro hwalk
    induction hwalk with
    | top hnone => rw [h.ancestors_eq, hnone]
    | up hp _ ih => rw [h.ancestors_of_parent? hp, ih]
  · rintro rfl
    exact h.climbs_ancestors id

theorem WellFormed.pairwise_of_climbs (h : t.WellFormed) (hwalk : t.Climbs id walk) :
    (id :: walk).Pairwise (· > ·) := by
  induction hwalk with
  | top => exact List.pairwise_singleton _ _
  | up hp _ ih =>
    refine List.pairwise_cons.2 ⟨fun q hq => ?_, ih⟩
    rcases List.mem_cons.1 hq with rfl | hq
    · exact h.parent_lt hp
    · exact Nat.lt_trans (List.rel_of_pairwise_cons ih hq) (h.parent_lt hp)

theorem WellFormed.getLast?_of_climbs (h : t.WellFormed) (hwalk : t.Climbs id walk)
    (hid : id < t.size) : (id :: walk).getLast? = some root := by
  induction hwalk with
  | @top id hnone =>
    -- only the compilation unit has no parent
    by_cases hroot : id = root
    · rw [hroot]
      rfl
    · obtain ⟨p, hp⟩ := h.exists_parent hid hroot
      exact absurd (hnone.symm.trans hp) nofun
  | up hp _ ih =>
    rw [List.getLast?_cons_cons]
    exact ih (Nat.lt_trans (h.parent_lt hp) hid)

theorem WellFormed.exists_only_parent (h : t.WellFormed) (hid : id < t.size) (hroot : id ≠ root) :
    ∃ p < id, ∀ q, id ∈ t.children q ↔ q = p := by
  obtain ⟨p, hp⟩ := h.exists_parent hid hroot
  refine ⟨p, h.parent_lt hp, fun q => ?_⟩
  rw [h.mem_children, hp, Option.some.injEq, eq_comm]

/-- Whatever is attempted on a new tree, the nodes get consecutive indices from 1,
    and the tree that results is well formed, with names and one compilation unit
    only. An attempt fails for the first reason against it, leaves the tree as it is,
    and makes no difference to the others. From each node the way up is finite, with
    decreasing indices, and leads to node 0. -/
theorem attempts_isArena (unit : String) (as : List Attempt) :
    ∃ t outcomes, (ofUnit unit).attempts as = (t, outcomes) ∧ t.IsArena ∧
      (∃ n, t.size = n + 1 ∧ outcomes.filterMap Except.toOption = List.range' 1 n) ∧
      (∀ id, id < t.size → id ≠ root → ∃ p < id, ∀ q, id ∈ t.children q ↔ q = p) ∧
      (∀ before a after, as = before ++ a :: after →
        ∃ outcome, outcomes[before.length]? = some outcome ∧ ∀ e,
          (outcome = .error e ↔ ((ofUnit unit).attempts before).1.Rejects a.parent a.decl e) ∧
          (outcome = .error e →
            ((ofUnit unit).attempts (before ++ [a])).1 = ((ofUnit unit).attempts before).1 ∧
            (ofUnit unit).attempts (before ++ after) = (t, outcomes.eraseIdx before.length))) ∧
      ∀ id, ∃ walk, t.Climbs id walk ∧ t.ancestors id = walk ∧ (id :: walk).Pairwise (· > ·) ∧
        (id < t.size → id ≠ root → walk.getLast? = some root) := by
  have harena := ((Built.ofUnit unit).attempts as).isArena
  have hwf := harena.toWellFormed
  refine ⟨_, _, rfl, harena, ?_, fun id => hwf.exists_only_parent, ?_, fun id => ?_⟩
  · obtain ⟨n, hsize, hids⟩ := ids_attempts (ofUnit unit) as
    exact ⟨n, hsize.trans (Nat.add_comm 1 n), hids⟩
  · rintro before a after rfl
    refine ⟨_, getElem?_outcomes_attempts _ before after a, fun e => ⟨attempt_snd_eq_error_iff, ?_⟩⟩
    intro houtcome
    have hrejects := attempt_snd_eq_error_iff.1 houtcome
    refine ⟨?_, attempts_without_rejected hrejects⟩
    rw [attempts_append, attempts_cons, attempt_of_rejects hrejects]
    rfl
  · have hwalk := hwf.climbs_ancestors id
    refine ⟨_, hwalk, rfl, hwf.pairwise_of_climbs hwalk, fun hid hroot => ?_⟩
    obtain ⟨p, hp⟩ := hwf.exists_parent hid hroot
    have hlast := hwf.getLast?_of_climbs hwalk hid
    rw [hwf.ancestors_of_parent? hp] at hlast ⊢
    rwa [List.getLast?_cons_cons] at hlast

/-- Attempts of all kinds: the second one has an unknown parent, the third one is a
    compilation unit without a name, and the fourth one has no name. -/
def mixedAttempts : List Attempt :=
  [⟨0, ⟨.type .classType, "A", ⟨1, 7⟩, 6, {}⟩⟩, ⟨7, ⟨.compilationUnit, "", ⟨1, 1⟩, 0, {}⟩⟩,
    ⟨1, ⟨.compilationUnit, "", ⟨1, 1⟩, 0, {}⟩⟩, ⟨1, ⟨.method, "", ⟨2, 8⟩, 17, {}⟩⟩,
    ⟨1, ⟨.method, "m", ⟨3, 8⟩, 30, {}⟩⟩]

theorem attempts_isArena_mixedAttempts :
    ∃ t, (ofUnit "A.java").attempts mixedAttempts = (t, [.ok 1, .error (.unknownParent 7),
        .error (.nestedCompilationUnit ⟨1, 1⟩), .error (.emptyIdentifier .method ⟨2, 8⟩), .ok 2]) ∧
      t.IsArena ∧ ∃ walk, t.Climbs 2 walk ∧ walk.getLast? = some root := by
  obtain ⟨t, outcomes, hrun, harena, -, -, -, hclimbs⟩ := attempts_isArena "A.java" mixedAttempts
  obtain ⟨rfl, rfl⟩ := Prod.mk.inj hrun
  obtain ⟨walk, hwalk, -, -, hlast⟩ := hclimbs 2
  exact ⟨_, rfl, harena, walk, hwalk, hlast (by decide) (by decide)⟩

end JavaLint.Tree
