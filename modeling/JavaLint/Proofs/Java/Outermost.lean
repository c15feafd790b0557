import JavaLint.Proofs.Java.Walk
/-!
# Children of declarations

The children of a declaration are the declarations that the nodes of its construct have,
node by node. What a node has, apart from what its own declaration surrounds, does not
depend on where it stands: it is what the node would have as a program of its own.

## Main definitions

- `Java.Source.outermost` — what a node has for the declaration around it
- `Java.Source.family` — what it has for its own declaration

## Main statements

- `Java.Source.Walk.childDeclarations_eq` — the children that a walk leads to
- `Java.Source.HasYield.outermost_eq` — what a node has, by recursion
-/

namespace JavaLint

namespace Java

open Extraction (Job)

namespace Yield

variable {y : Yield} {parent first id : NodeId}

/-- The declarations of a node that belong to the declaration around it. -/
def surface (y : Yield) : List Declaration :=
  match y.own? with
  | some decl => [decl]
  | none => y.params.map Prod.snd

/-- The entries of one parent. -/
theorem map_snd_filter_entries (hne : parent ≠ first) :
    ((y.entries parent first).filter (·.1 == id)).map Prod.snd =
      if id = parent then y.surface
      else if id = first ∧ y.own?.isSome then y.params.map Prod.snd else [] := by
  have hparams : ∀ owner : NodeId,
      ((y.params.map fun p => (owner, p.2)).filter (·.1 == id)).map Prod.snd =
        if id = owner then y.params.map Prod.snd else [] := by
    intro owner
    rw [List.filter_map, List.map_map]
    by_cases hid : id = owner
    · simp [hid, Function.comp_def]
    · simp [hid, Ne.symm hid, Function.comp_def]
  cases hown : y.own? with
  | none =>
    rw [entries, owner, surface, hown]
    simp [hparams]
  | some decl =>
    rw [entries_of_own hown, surface, hown, List.filter_cons]
    by_cases hid : id = parent
    · subst hid
      rw [if_pos (beq_self_eq_true id), List.map_cons, hparams, if_neg hne, if_pos rfl]
    · rw [if_neg (by simpa using Ne.symm hid), hparams, if_neg hid]
      simp

end Yield

namespace Source

variable {s : Source} {c : Cst} {y : Yield} {parent first id : NodeId} {a : Address}
  {t t' : Tree} {next pending : List (Address × Job)} {log : List (Address × Yield)}

/-- The declarations of a node that no other one of it surrounds, in the order in which
    they are found. -/
def outermost (s : Source) (c : Cst) : List Declaration :=
  match s.declarations "" c with
  | .ok t => t.childDeclarations Tree.root
  | .error _ => []

/-- What pending nodes have for the declaration that they belong to. -/
def share (s : Source) (pending : List (Address × Job)) (id : NodeId) : List Declaration :=
  (pending.filter (·.2.parent == id)).flatMap fun p => s.outermost p.2.cst

theorem share_cons {job : Job} : s.share ((a, job) :: pending) id =
    (if id = job.parent then s.outermost job.cst else []) ++ s.share pending id := by
  rw [share, List.filter_cons]
  by_cases hid : id = job.parent
  · simp [hid, share]
  · simp [hid, Ne.symm hid, share]

theorem share_append : s.share (next ++ pending) id = s.share next id ++ s.share pending id := by
  rw [share, List.filter_append, List.flatMap_append, share, share]

theorem share_under : s.share (Address.under a next) id = s.share next id := by
  rw [share, Address.under, List.filter_map, List.flatMap_map]
  rfl

theorem share_eq_nil (h : ∀ p ∈ pending, p.2.parent < id) : s.share pending id = [] := by
  rw [share, List.filter_eq_nil_iff.2 fun p hp => ?_, List.flatMap_nil]
  simpa using Nat.ne_of_lt (h p hp)

/-- What the nodes to go on with have for each declaration. -/
theorem share_pending (hne : parent ≠ first) :
    s.share (y.pending parent first) id =
      if id = parent then y.around.flatMap fun p => s.outermost p.2
      else if id = first then y.inside.flatMap fun p => s.outermost p.2 else [] := by
  have hjobs : ∀ (owner : NodeId) (places : List (Address × Cst)),
      s.share (places.map fun p => (p.1, Job.mk p.2 owner)) id =
        if id = owner then places.flatMap fun p => s.outermost p.2 else [] := by
    intro owner places
    rw [share, List.filter_map, List.flatMap_map]
    by_cases hid : id = owner
    · simp [hid, Function.comp_def]
    · simp [hid, Ne.symm hid, Function.comp_def]
  rw [Yield.pending, share_append, hjobs, hjobs]
  by_cases hid : id = parent
  · simp [hid, hne]
  · simp [hid]

/-- The children of the own declaration of a node: its parameters, and then what the nodes
    inside have. -/
def family (s : Source) (y : Yield) : List Declaration :=
  y.params.map Prod.snd ++ y.inside.flatMap fun p => s.outermost p.2

/-- A step hands what its node has to the declaration around the node. -/
theorem HasYield.childDeclarations_step (hy : s.HasYield c y) (ht : t.Built)
    (hparent : parent < t.size) (hid : id < t.size) :
    (t.attachedAll (y.entries parent t.size)).childDeclarations id ++
        s.share (Address.under a (y.pending parent t.size) ++ pending) id =
      t.childDeclarations id ++
        (if id = parent then y.surface ++ y.around.flatMap fun p => s.outermost p.2 else []) ++
          s.share pending id := by
  have hne := Nat.ne_of_lt hparent
  rw [Tree.childDeclarations_attachedAll ht.wellFormed (hy.yields.attachable hparent),
    Yield.map_snd_filter_entries hne, share_append, share_under, share_pending hne]
  split
  · simp only [List.append_assoc]
  · rw [if_neg fun h => Nat.ne_of_lt hid h.1, if_neg (Nat.ne_of_lt hid)]
    simp only [List.append_assoc, List.nil_append]

/-- A step has a family for its own declaration alone. -/
theorem HasYield.childDeclarations_step_new (hy : s.HasYield c y) (ht : t.Built)
    (hparent : parent < t.size) (hpending : ∀ p ∈ pending, p.2.parent < t.size) (hid : t.size ≤ id) :
    (t.attachedAll (y.entries parent t.size)).childDeclarations id ++
        s.share (Address.under a (y.pending parent t.size) ++ pending) id =
      if id = t.size ∧ y.own?.isSome then s.family y else [] := by
  have hne : id ≠ parent := Nat.ne_of_gt (Nat.lt_of_lt_of_le hparent hid)
  rw [Tree.childDeclarations_attachedAll ht.wellFormed (hy.yields.attachable hparent),
    Tree.childDeclarations_eq_nil hid, Yield.map_snd_filter_entries (Nat.ne_of_lt hparent),
    share_append, share_under, share_pending (Nat.ne_of_lt hparent), if_neg hne, if_neg hne,
    share_eq_nil fun p hp => Nat.lt_of_lt_of_le (hpending p hp) hid, List.append_nil,
    List.nil_append]
  by_cases hfirst : id = t.size
  · cases hown : y.own? with
    | none => simp [hy.yields.inside_eq_nil hown]
    | some own => simp [hfirst, family]
  · simp [hfirst]

/-- A node has its own declaration or else its parameters, and then what the nodes around
    it have, if walks from nodes of less weight hand over what these have. -/
theorem HasYield.outermost_eq_of_walks (hy : s.HasYield c y)
    (hwalks : ∀ {pending t log t'}, pendingWeight pending < c.weight → s.Walk pending t log t' →
      t.Built → (∀ p ∈ pending, p.2.parent < t.size) → ∀ {id}, id < t.size →
        t'.childDeclarations id = t.childDeclarations id ++ s.share pending id) :
    s.outermost c = y.surface ++ y.around.flatMap fun p => s.outermost p.2 := by
  -- the node is taken up on its own, at the top of an empty unit
  have hroot : Tree.root < (Tree.ofUnit "").size := Nat.one_pos
  have hbelow := hy.yields.parent_lt_of_step (a := []) hroot (List.forall_mem_nil _)
  obtain ⟨log, t', hwalk⟩ := exists_walk (s := s) hbelow
  have hwhole : s.Walk [([], ⟨c, Tree.root⟩)] (Tree.ofUnit "") (([], y) :: log) t' :=
    .step hy (hy.step_eq_ok hroot) hwalk
  have hrun : s.declarations "" c = .ok t' := hwhole.run_eq (Nat.le_refl _)
  have hlt : pendingWeight (Address.under [] (y.pending Tree.root (Tree.ofUnit "").size) ++ []) <
      c.weight := by
    rw [pendingWeight_under_append]
    exact hy.yields.pendingWeight_lt
  have hchildren : (Tree.ofUnit "").childDeclarations Tree.root = [] := rfl
  have hlast := hwalks hlt hwalk (.attachedAll (.ofUnit "") (hy.yields.attachable hroot)) hbelow
    (Tree.size_attachedAll ▸ Nat.lt_add_right _ hroot)
  rw [hy.childDeclarations_step (.ofUnit "") hroot hroot, hchildren, if_pos rfl] at hlast
  rw [outermost, hrun]
  exact hlast.trans (List.append_nil _)

/-- In the end the children of a node are those that it had, and what the pending nodes
    have for it. -/
theorem Walk.childDeclarations_eq (h : s.Walk pending t log t') (ht : t.Built)
    (hpending : ∀ p ∈ pending, p.2.parent < t.size) (hid : id < t.size) :
    t'.childDeclarations id = t.childDeclarations id ++ s.share pending id := by
  -- the nodes below a node weigh less, whether they are taken up for it alone or in turn
  induction hweight : pendingWeight pending using Nat.strongRecOn
    generalizing pending t log t' id with
  | ind n ih =>
    subst hweight
    cases h with
    | done => exact (List.append_nil _).symm
    | @step a job pending _ t₁ _ y log hy hstep hwalk =>
      obtain ⟨hjob, hpending⟩ := List.forall_mem_cons.1 hpending
      rw [hy.step_eq_ok hjob] at hstep
      obtain ⟨rfl, -⟩ := Prod.mk.inj (Except.ok.inj hstep)
      have houtermost : s.outermost job.cst =
          y.surface ++ y.around.flatMap fun p => s.outermost p.2 := by
        refine hy.outermost_eq_of_walks fun hlt hwalk ht hpending _ hid =>
          ih _ ?_ hwalk ht hpending hid rfl
        rw [pendingWeight_cons]
        exact Nat.lt_add_right _ hlt
      have hlt : pendingWeight (Address.under a (y.pending job.parent t.size) ++ pending) <
          pendingWeight ((a, job) :: pending) := by
        rw [pendingWeight_under_append, pendingWeight_cons]
        exact Nat.add_lt_add_right hy.yields.pendingWeight_lt _
      rw [ih _ hlt hwalk (ht.attachedAll (hy.yields.attachable hjob))
        (hy.yields.parent_lt_of_step hjob hpending)
        (Tree.size_attachedAll ▸ Nat.lt_add_right _ hid) rfl,
        hy.childDeclarations_step ht hjob hid, share_cons, houtermost, List.append_assoc]

theorem HasYield.outermost_eq (hy : s.HasYield c y) :
    s.outermost c = y.surface ++ y.around.flatMap fun p => s.outermost p.2 :=
  hy.outermost_eq_of_walks fun _ hwalk ht hpending _ hid => hwalk.childDeclarations_eq ht hpending hid

end Source

end Java

end JavaLint
