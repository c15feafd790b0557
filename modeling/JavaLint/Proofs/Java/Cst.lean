import JavaLint.Java.Extraction
/-!
# Nodes of concrete syntax trees

## Main definitions

- `Java.Cst.Within` — a node at or below a node
- `Java.Cst.nodes` — all these nodes
- `Java.Cst.NamesParameter` — the name of a parameter that is no receiver

## Main statements

- `Java.Cst.mem_nodes_of_within`, `Java.Cst.within_of_mem_nodes` — the nodes at and below a
  node are those of a list
- `Java.Cst.induction_children` — induction from the children of a node to the node
- `Java.Cst.weight_le_of_mem` — a list of nodes weighs no less than each of them
-/

namespace JavaLint.Java.Cst

variable {b c d name : Cst} {cs ds : List Cst} {role : Role}

/-! ## Nodes below a node -/

/-- A node is the given one or stands below it. -/
inductive Within : Cst → Cst → Prop
  | refl (c : Cst) : Within c c
  | child {b c d : Cst} : d ∈ c.children → Within b d → Within b c

theorem Within.trans (hbc : b.Within c) (hcd : c.Within d) : b.Within d := by
  induction hcd with
  | refl => exact hbc
  | child hmem _ ih => exact .child hmem ih

theorem within_of_mem (h : d ∈ c.children) : d.Within c :=
  .child h (.refl d)

theorem within_of_child? (h : c.child? role = some d) : d.Within c :=
  within_of_mem (List.mem_of_find?_eq_some h)

theorem within_of_mem_namedChildren (h : d ∈ c.namedChildren) : d.Within c :=
  within_of_mem (List.mem_filter.1 h).1

mutual

/-- A node and those below it. -/
def nodes : Cst → List Cst
  | .node kind role missing start stop children =>
    .node kind role missing start stop children :: nodesOf children

/-- The nodes at and below the nodes of a list. -/
def nodesOf : List Cst → List Cst
  | [] => []
  | c :: rest => c.nodes ++ nodesOf rest

end

theorem mem_nodesOf {b d : Cst} {children : List Cst} (hd : d ∈ children) (hb : b ∈ d.nodes) :
    b ∈ nodesOf children := by
  induction children with
  | nil => exact absurd hd List.not_mem_nil
  | cons c rest ih =>
    rw [nodesOf, List.mem_append]
    rcases List.mem_cons.1 hd with rfl | hd
    · exact .inl hb
    · exact .inr (ih hd)

theorem mem_nodes_of_within {b c : Cst} (h : b.Within c) : b ∈ c.nodes := by
  induction h with
  | refl =>
    cases b
    rw [nodes]
    exact List.mem_cons_self
  | @child c d hd _ ih =>
    cases c
    rw [nodes]
    exact List.mem_cons_of_mem _ (mem_nodesOf hd ih)

theorem nodes_eq (c : Cst) : c.nodes = c :: nodesOf c.children := by
  cases c
  rfl

theorem nodesOf_eq_flatMap (cs : List Cst) : nodesOf cs = cs.flatMap nodes := by
  induction cs with
  | nil => rfl
  | cons c cs ih => rw [nodesOf, ih, List.flatMap_cons]

theorem nodesOf_append (cs ds : List Cst) : nodesOf (cs ++ ds) = nodesOf cs ++ nodesOf ds := by
  rw [nodesOf_eq_flatMap, nodesOf_eq_flatMap, nodesOf_eq_flatMap, List.flatMap_append]

/-- A node is the name of a parameter. One with three dots wraps its name up in
    a declarator; receivers are not among the parameters meant here. -/
inductive NamesParameter : Cst → Cst → Prop
  | formal {param name : Cst} :
      param.kind = .formalParameter → param.child? .name = some name → NamesParameter param name
  | spread {param declarator name : Cst} :
      param.kind = .spreadParameter → declarator ∈ param.namedChildren →
        declarator.child? .name = some name → NamesParameter param name

theorem NamesParameter.within (h : c.NamesParameter name) : name.Within c := by
  cases h with
  | formal _ hname => exact within_of_child? hname
  | spread _ hmem hname => exact (within_of_child? hname).trans (within_of_mem_namedChildren hmem)

/-! ## Sizes -/

theorem size_eq (c : Cst) : c.size = sizes c.children + 1 := by
  cases c
  rfl

theorem sizes_append (cs ds : List Cst) : sizes (cs ++ ds) = sizes cs + sizes ds := by
  induction cs with
  | nil => exact (Nat.zero_add _).symm
  | cons c cs ih => rw [List.cons_append, sizes, sizes, ih, Nat.add_assoc]

theorem sizes_filter_le (p : Cst → Bool) (cs : List Cst) : sizes (cs.filter p) ≤ sizes cs := by
  induction cs with
  | nil => exact Nat.le_refl _
  | cons c cs ih =>
    rw [List.filter_cons, sizes]
    split
    · exact Nat.add_le_add_left ih _
    · exact Nat.le_trans ih (Nat.le_add_left _ _)

theorem size_lt_of_mem_children (h : d ∈ c.children) : d.size < c.size := by
  obtain ⟨before, after, heq⟩ := List.append_of_mem h
  rw [c.size_eq, heq, sizes_append, sizes]
  omega

/-- What a node has if its children have it, all nodes have. -/
theorem induction_children {P : Cst → Prop} (h : ∀ c : Cst, (∀ d ∈ c.children, P d) → P c)
    (c : Cst) : P c := by
  induction hsize : c.size using Nat.strongRecOn generalizing c with
  | ind n ih => exact h c fun d hd => ih d.size (hsize ▸ size_lt_of_mem_children hd) d rfl

theorem within_of_mem_nodes {b c : Cst} (h : b ∈ c.nodes) : b.Within c := by
  induction c using induction_children with
  | h c ih =>
    rw [nodes_eq, nodesOf_eq_flatMap, List.mem_cons, List.mem_flatMap] at h
    rcases h with rfl | ⟨d, hd, hb⟩
    · exact .refl b
    · exact .child hd (ih d hd hb)

/-! ## Weights -/

theorem weight_eq (c : Cst) : c.weight = 2 * weights c.children + 1 := by
  cases c
  rfl

theorem weights_append (cs ds : List Cst) : weights (cs ++ ds) = weights cs + weights ds := by
  induction cs with
  | nil => exact (Nat.zero_add _).symm
  | cons c cs ih => rw [List.cons_append, weights, weights, ih, Nat.add_assoc]

theorem weights_le_of_sublist (h : cs.Sublist ds) : weights cs ≤ weights ds := by
  induction h with
  | slnil => exact Nat.le_refl _
  | cons d _ ih => exact Nat.le_trans ih (Nat.le_add_left _ _)
  | cons_cons d _ ih => exact Nat.add_le_add_left ih _

theorem weight_le_of_mem (h : c ∈ cs) : c.weight ≤ weights cs := by
  have hle := weights_le_of_sublist (List.singleton_sublist.2 h)
  rwa [weights, weights, Nat.add_zero] at hle

theorem weights_namedExcept_le (c : Cst) (skip : List CstKind) :
    weights (c.namedExcept skip) ≤ weights c.children :=
  weights_le_of_sublist (List.filter_sublist.trans List.filter_sublist)

end JavaLint.Java.Cst
