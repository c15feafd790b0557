import JavaLint.Java.Frontend
import JavaLint.Proofs.Java.Yield
/-!
# The way of extraction through a program

Extraction keeps the nodes it still has to take up in a list. Nothing is lost by
that against recursion: a node is followed by all that is below it before the
next node of the list has its turn. The list runs empty, and no declaration that
is attached on the way is refused.

## Main definitions

- `Java.Extraction.lower` — a node and what is below it, by recursion
- `Java.Source.HasYield` — what every step at a node does
- `Java.Source.Walk` — the steps from a list of pending nodes until none is left

## Main statements

- `Java.Source.declarations_eq_lower` — the list of pending nodes against recursion
- `Java.Source.exists_walk` — the list runs empty, whatever the nodes are
- `Java.Source.Walk.run_eq` — the bound on the number of steps is never reached
- `Java.Source.Walk.induction` — what every step keeps
- `Java.declarations_succeed` — no text is refused for the tree of its declarations
-/

namespace JavaLint

namespace Java

/-! ## Weights -/

namespace Source

variable {s : Source} {c : Cst} {y : Yield} {parent first : NodeId}

/-- What belongs to a node itself may stand two levels below the node. -/
theorem Yields.weights_le (h : s.Yields c y) :
    Cst.weights (y.around.map Prod.snd) ≤ Cst.weights c.children ∧
      Cst.weights (y.inside.map Prod.snd) ≤ Cst.weights c.children := by
  have hothers : ∀ skip, Cst.weights ((c.others skip).map Prod.snd) ≤ Cst.weights c.children := by
    intro skip
    rw [Cst.map_snd_others]
    exact c.weights_namedExcept_le skip
  cases h with
  | pass | catchClause => exact ⟨hothers _, Nat.zero_le _⟩
  | typeDeclaration | callable | field => exact ⟨Nat.zero_le _, hothers _⟩
  | @anonymousClass _ i body hbody _ =>
    refine ⟨hothers _, ?_⟩
    rw [Address.map_snd_under, Cst.map_snd_others]
    have hmem := Cst.weight_le_of_mem (List.mem_of_getElem? (Cst.getElem?_of_bodyAt? hbody))
    have hbelow := body.weights_namedExcept_le []
    have hweight := body.weight_eq
    omega
  | lambda =>
    refine ⟨Nat.zero_le _, ?_⟩
    cases hbody : c.childAt? .body with
    | none => exact Nat.zero_le _
    | some found =>
      have hmem := List.mem_of_getElem? (Cst.childWhere?_eq_some hbody).1
      exact Cst.weights_le_of_sublist (List.singleton_sublist.2 hmem)

/-- The weight of pending nodes. -/
def pendingWeight (pending : List (Address × Extraction.Job)) : Nat :=
  Cst.weights (pending.map (·.2.cst))

theorem pendingWeight_cons {a : Address} {job : Extraction.Job}
    {pending : List (Address × Extraction.Job)} :
    pendingWeight ((a, job) :: pending) = job.cst.weight + pendingWeight pending :=
  rfl

theorem pendingWeight_under_append {a : Address} {next pending : List (Address × Extraction.Job)} :
    pendingWeight (Address.under a next ++ pending) = pendingWeight next + pendingWeight pending := by
  rw [pendingWeight, List.map_append, Cst.weights_append]
  congr 2
  exact Address.map_under Extraction.Job.cst a next

theorem Yields.pendingWeight_lt (h : s.Yields c y) :
    pendingWeight (y.pending parent first) < c.weight := by
  have hjobs : ∀ (owner : NodeId) (places : List (Address × Cst)),
      (places.map fun p => (p.1, Extraction.Job.mk p.2 owner)).map (·.2.cst) =
        places.map Prod.snd := by
    intro owner places
    rw [List.map_map]
    rfl
  obtain ⟨haround, hinside⟩ := h.weights_le
  rw [pendingWeight, Yield.pending, List.map_append, hjobs, hjobs, Cst.weights_append, c.weight_eq]
  omega

end Source

/-! ## Recursion -/

namespace Extraction

open Cst (weights weights_append weight_le_of_mem)

variable {s : Source} {c : Cst} {t t' : Tree} {parent : NodeId} {next pending : List Job}

theorem weights_step_lt (h : step s c parent t = .ok (t', next)) :
    weights (next.map Job.cst) < c.weight := by
  obtain ⟨y, hy, hstep⟩ := exists_yields s c
  rw [hstep] at h
  obtain ⟨_, -, heq⟩ := Except.map_eq_ok_iff.1 h
  obtain ⟨-, rfl⟩ := Prod.mk.inj heq
  rw [List.map_map]
  exact hy.pendingWeight_lt

theorem weight_lt_of_mem_step {job : Job} (h : step s c parent t = .ok (t', next))
    (hjob : job ∈ next) : job.cst.weight < c.weight :=
  Nat.lt_of_le_of_lt (weight_le_of_mem (List.mem_map_of_mem hjob)) (weights_step_lt h)

/-- The declarations of a node, then those of the nodes to go on with, one after
    the other, each with all that is below it. -/
def lower (s : Source) (c : Cst) (parent : NodeId) (t : Tree) : Except TreeError Tree :=
  match hstep : step s c parent t with
  | .error e => .error e
  | .ok (t', next) => next.attach.foldlM (fun t job =>
      have := weight_lt_of_mem_step hstep job.2
      lower s job.1.cst job.1.parent t) t'
termination_by c.weight

theorem lower_eq (s : Source) (c : Cst) (parent : NodeId) (t : Tree) :
    lower s c parent t =
      step s c parent t >>= fun (t', next) =>
        next.foldlM (fun t job => lower s job.cst job.parent t) t' := by
  rw [lower]
  split
  · next e hstep =>
    rw [hstep]
    rfl
  · next t' next hstep =>
    conv => rhs; rw [hstep]
    change _ = next.foldlM _ t'
    rw [List.foldlM_subtype (g := fun t job => lower s job.cst job.parent t) fun _ _ _ => rfl,
      List.unattach_attach]

/-- With steps enough for their weight, the pending nodes are taken up as by recursion. -/
theorem run_eq_foldlM_lower {fuel : Nat} (h : weights (pending.map Job.cst) ≤ fuel) :
    run s fuel pending t = pending.foldlM (fun t job => lower s job.cst job.parent t) t := by
  induction fuel generalizing pending t with
  | zero =>
    cases pending with
    | nil => rfl
    | cons job pending =>
      rw [List.map_cons, weights, job.cst.weight_eq] at h
      omega
  | succ fuel ih =>
    cases pending with
    | nil => rfl
    | cons job pending =>
      rw [run, List.foldlM_cons, lower_eq, bind_assoc]
      cases hstep : step s job.cst job.parent t with
      | error e => rfl
      | ok res =>
        obtain ⟨t', next⟩ := res
        change run s fuel (next ++ pending) t' = next.foldlM _ t' >>= _
        rw [← List.foldlM_append]
        refine ih ?_
        have hlt := weights_step_lt hstep
        rw [List.map_cons, weights] at h
        rw [List.map_append, weights_append]
        omega

end Extraction

namespace Source

/-- The pending nodes of a program are taken up as by recursion. -/
theorem declarations_eq_lower (s : Source) (unit : String) (program : Cst) :
    s.declarations unit program =
      Extraction.lower s program Tree.root (Tree.ofUnit unit) := by
  rw [declarations, Extraction.run_eq_foldlM_lower (Nat.le_refl program.weight)]
  exact bind_pure (m := Except TreeError) _

/-! ## Walks -/

open Extraction (Job run step)

/-- Every step at a node attaches what `y` says, and goes on with its nodes. -/
structure HasYield (s : Source) (c : Cst) (y : Yield) : Prop where
  yields : s.Yields c y
  step_eq (parent : NodeId) (t : Tree) : step s c parent t = y.run parent t

theorem exists_hasYield (s : Source) (c : Cst) : ∃ y, s.HasYield c y :=
  let ⟨y, hy, hstep⟩ := Extraction.exists_yields s c
  ⟨y, hy, hstep⟩

/-- `s.Walk pending t log t'`: from the tree `t`, the pending nodes and all that they
    lead to are taken up, the first one first, until none is left and the tree is
    `t'`. The log has the address of each node that was taken up, with its yield. -/
inductive Walk (s : Source) :
    List (Address × Job) → Tree → List (Address × Yield) → Tree → Prop
  | done (t : Tree) : Walk s [] t [] t
  | step {a : Address} {job : Job} {pending : List (Address × Job)} {t t' t'' : Tree} {y : Yield}
      {log : List (Address × Yield)} :
      s.HasYield job.cst y →
      step s job.cst job.parent t = .ok (t', (y.pending job.parent t.size).map Prod.snd) →
      Walk s (Address.under a (y.pending job.parent t.size) ++ pending) t' log t'' →
      Walk s ((a, job) :: pending) t ((a, y) :: log) t''

variable {s : Source} {c : Cst} {y : Yield} {parent first size : NodeId} {t t' t'' : Tree}
  {a : Address} {pending : List (Address × Job)} {log : List (Address × Yield)} {unit : String} {program : Cst}

/-- A walk takes no more steps than its pending nodes weigh. -/
theorem Walk.run_eq (h : s.Walk pending t log t') {fuel : Nat}
    (hfuel : pendingWeight pending ≤ fuel) :
    run s fuel (pending.map Prod.snd) t = .ok t' := by
  induction h generalizing fuel with
  | done t => cases fuel <;> rfl
  | @step a job pending t t' t'' y log hy hstep _ ih =>
    rw [pendingWeight_cons] at hfuel
    cases fuel with
    | zero =>
      rw [job.cst.weight_eq] at hfuel
      omega
    | succ fuel =>
      rw [List.map_cons, run, hstep]
      have hlt : pendingWeight (y.pending job.parent t.size) < job.cst.weight :=
        hy.yields.pendingWeight_lt
      have hrest := @ih fuel (by rw [pendingWeight_under_append]; omega)
      rwa [List.map_append, Address.map_snd_under] at hrest

theorem Yields.attachable (h : s.Yields c y) (hparent : parent < size) :
    Tree.Attachable size (y.entries parent size) := by
  have hparams : ∀ {params : List (Address × Declaration)} {owner n : NodeId}, owner < n →
      (∀ p ∈ params, p ∈ y.params) →
      Tree.Attachable n (params.map fun p => (owner, p.2)) := by
    intro params owner n howner hmem
    induction params generalizing n with
    | nil => trivial
    | cons p params ih =>
      obtain ⟨hident, k, hkind, -⟩ := h.param_kind (hmem p List.mem_cons_self)
      refine ⟨⟨howner, by rw [hkind]; nofun, ?_⟩,
        ih (Nat.lt_succ_of_lt howner) fun q hq => hmem q (List.mem_cons_of_mem p hq)⟩
      exact Bool.eq_false_iff.2 fun hempty => hident (String.isEmpty_iff.1 hempty)
  cases hown : y.own? with
  | none =>
    rw [Yield.entries, Yield.owner, hown]
    exact hparams hparent fun _ => id
  | some decl =>
    rw [Yield.entries, Yield.owner, hown]
    refine ⟨⟨hparent, (h.own_kind hown).1, ?_⟩, hparams (Nat.lt_succ_self size) fun _ => id⟩
    exact Bool.eq_false_iff.2 fun hempty => h.own_ident hown (String.isEmpty_iff.1 hempty)

theorem Yields.parent_lt_of_mem_pending (h : s.Yields c y) (hparent : parent < size) {a : Address}
    {job : Job} (hmem : (a, job) ∈ y.pending parent size) :
    job.parent < size + (y.entries parent size).length := by
  rcases Yield.mem_pending.1 hmem with ⟨-, heq⟩ | ⟨hinside, heq⟩
  · rw [heq]
    exact Nat.lt_add_right _ hparent
  · rw [heq]
    cases hown : y.own? with
    | none => rw [h.inside_eq_nil hown] at hinside; cases hinside
    | some decl => simp [Yield.entries, hown]

theorem HasYield.step_eq_ok (h : s.HasYield c y) (hparent : parent < t.size) :
    step s c parent t =
      .ok (t.attachedAll (y.entries parent t.size), (y.pending parent t.size).map Prod.snd) := by
  rw [h.step_eq, Yield.run, Tree.pushAll_eq_ok_iff.2 ⟨h.yields.attachable hparent, rfl⟩]
  rfl

/-- The pending nodes after a step belong to nodes that exist, if they did before. -/
theorem Yields.parent_lt_of_step (h : s.Yields c y) (hparent : parent < t.size)
    (hpending : ∀ p ∈ pending, p.2.parent < t.size) :
    ∀ p ∈ Address.under a (y.pending parent t.size) ++ pending,
      p.2.parent < (t.attachedAll (y.entries parent t.size)).size := by
  intro p hp
  rw [Tree.size_attachedAll]
  rcases List.mem_append.1 hp with hp | hp
  · obtain ⟨b, job⟩ := p
    obtain ⟨rest, -, hmem⟩ := Address.mem_under.1 hp
    exact h.parent_lt_of_mem_pending hparent hmem
  · exact Nat.lt_add_right _ (hpending p hp)

/-- The pending nodes run out, whatever they are, if they belong to nodes that exist. -/
theorem exists_walk (h : ∀ p ∈ pending, p.2.parent < t.size) : ∃ log t', s.Walk pending t log t' := by
  -- each step lowers the weight of the pending nodes
  induction hweight : pendingWeight pending using Nat.strongRecOn
    generalizing pending t with
  | ind n ih =>
    subst hweight
    cases pending with
    | nil => exact ⟨[], t, .done t⟩
    | cons p pending =>
      obtain ⟨a, job⟩ := p
      obtain ⟨hjob, hpending⟩ := List.forall_mem_cons.1 h
      obtain ⟨y, hy⟩ := s.exists_hasYield job.cst
      have hlt : pendingWeight (y.pending job.parent t.size) < job.cst.weight :=
        hy.yields.pendingWeight_lt
      have hless : pendingWeight (Address.under a (y.pending job.parent t.size) ++ pending) <
          pendingWeight ((a, job) :: pending) := by
        rw [pendingWeight_under_append, pendingWeight_cons]
        omega
      obtain ⟨log, t', hwalk⟩ := ih _ hless (hy.yields.parent_lt_of_step hjob hpending) rfl
      exact ⟨(a, y) :: log, t', .step hy (hy.step_eq_ok hjob) hwalk⟩

/-- What every step keeps holds when none is left. `P` may speak of the steps so
    far, of the tree and of the pending nodes. -/
theorem Walk.induction {P : List (Address × Yield) → Tree → List (Address × Job) → Prop}
    (hstep : ∀ {past t a job pending y}, s.HasYield job.cst y →
      Tree.Attachable t.size (y.entries job.parent t.size) → P past t ((a, job) :: pending) →
      P (past ++ [(a, y)]) (t.attachedAll (y.entries job.parent t.size))
        (Address.under a (y.pending job.parent t.size) ++ pending))
    (h : s.Walk pending t log t') (hP : P [] t pending) : P log t' [] := by
  have hafter : ∀ past, P past t pending → P (past ++ log) t' [] := by
    clear hP
    induction h with
    | done t =>
      intro past hP
      rwa [List.append_nil]
    | @step a job pending t t₁ t₂ y log hy hone _ ih =>
      intro past hP
      rw [hy.step_eq] at hone
      obtain ⟨t₃, hpush, heq⟩ := Except.map_eq_ok_iff.1 hone
      obtain ⟨rfl, -⟩ := Prod.mk.inj heq
      obtain ⟨hattachable, rfl⟩ := Tree.pushAll_eq_ok_iff.1 hpush
      rw [List.append_cons]
      exact ih _ (hstep hy hattachable hP)
  exact hafter [] hP

theorem exists_walk_declarations (s : Source) (unit : String) (program : Cst) :
    ∃ log t, s.Walk [([], ⟨program, Tree.root⟩)] (Tree.ofUnit unit) log t ∧
      s.declarations unit program = .ok t := by
  have htop : ∀ p ∈ [(([] : Address), (⟨program, Tree.root⟩ : Job))],
      p.2.parent < (Tree.ofUnit unit).size := by
    intro p hp
    rw [List.mem_singleton.1 hp]
    exact (Tree.wellFormed_ofUnit unit).size_pos
  obtain ⟨log, t, hwalk⟩ := exists_walk (s := s) htop
  exact ⟨log, t, hwalk, hwalk.run_eq (Nat.le_refl _)⟩

end Source

/-! ## Success -/

/-- A text without flaws has a tree. -/
theorem exists_parseWith_eq_ok {grammar : List Char → Cst} {source : String}
    (h : (grammar source.toList).hasFlaw = false) (unit : String) (tabWidth : UInt64) :
    ∃ t, parseWith grammar unit source tabWidth = .ok t := by
  obtain ⟨-, t, -, ht⟩ := (Source.ofText source tabWidth).exists_walk_declarations unit
    (grammar source.toList)
  refine ⟨t, ?_⟩
  change (if (grammar source.toList).hasFlaw then _ else _) = _
  rw [h]
  exact Except.mapError_eq_ok_iff.2 ht

/-- Declarations are found in every concrete syntax tree, so the only texts that
    are refused are those with flaws. -/
theorem declarations_succeed (unit : String) :
    (∀ (s : Source) (program : Cst), ∃ log t,
      s.Walk [([], ⟨program, Tree.root⟩)] (Tree.ofUnit unit) log t ∧
        s.declarations unit program = .ok t) ∧
    ∀ (grammar : List Char → Cst) (source : String) (tabWidth : UInt64),
      (∀ e, parseWith grammar unit source tabWidth ≠ .error (.tree e)) ∧
      ((∃ t, parseWith grammar unit source tabWidth = .ok t) ↔
        (grammar source.toList).hasFlaw = false) := by
  refine ⟨fun s program => s.exists_walk_declarations unit program, fun grammar source tabWidth => ?_⟩
  obtain ⟨-, t, -, ht⟩ := (Source.ofText source tabWidth).exists_walk_declarations unit
    (grammar source.toList)
  have hparse : parseWith grammar unit source tabWidth =
      if (grammar source.toList).hasFlaw then
        .error (syntaxError (.ofText source tabWidth) (grammar source.toList))
      else .ok t := by
    change (if _ then _ else Except.mapError ParseError.tree
      ((Source.ofText source tabWidth).declarations unit (grammar source.toList))) = _
    rw [ht]
    rfl
  rw [hparse]
  cases (grammar source.toList).hasFlaw with
  | false => exact ⟨fun e => nofun, fun _ => rfl, fun _ => ⟨t, rfl⟩⟩
  | true =>
    refine ⟨fun e => ?_, nofun, nofun⟩
    rw [if_pos rfl]
    unfold syntaxError
    split <;> nofun

end Java

end JavaLint
