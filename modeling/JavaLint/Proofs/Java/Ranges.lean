import JavaLint.Proofs.Java.Cst
/-!
# Ranges of nodes

A node of a concrete syntax tree takes a range of bytes of its text. What a grammar
grants about the ranges of a node and its children holds of all nodes below.

## Main definitions

- `Java.Cst.Ordered` — children follow one another within the ranges of their nodes

## Main statements

- `Java.Cst.Ordered.bounds` — what stands below a node is in its range
- `Java.Cst.Ordered.pairwise_start` — depth first, nodes start one after the other
-/

namespace JavaLint.Java.Cst

variable {b c d : Cst} {cs : List Cst}

/-- What is assumed of a node: its range contains those of its children, which stand
    one after the other. -/
structure OrderedNode (c : Cst) : Prop where
  start_le_stop : c.start ≤ c.stop
  contains : ∀ d ∈ c.children, c.start ≤ d.start ∧ d.stop ≤ c.stop
  apart : c.children.Pairwise fun d e => d.stop ≤ e.start

/-- All nodes of a program contain their children, which stand one after the other. -/
def Ordered (program : Cst) : Prop :=
  ∀ c : Cst, c.Within program → c.OrderedNode

instance (c : Cst) : Decidable c.OrderedNode :=
  decidable_of_iff
    (c.start ≤ c.stop ∧ (∀ d ∈ c.children, c.start ≤ d.start ∧ d.stop ≤ c.stop) ∧
      c.children.Pairwise fun d e => d.stop ≤ e.start)
    ⟨fun ⟨hle, hcontains, hapart⟩ => ⟨hle, hcontains, hapart⟩,
      fun h => ⟨h.start_le_stop, h.contains, h.apart⟩⟩

theorem ordered_of_nodes {program : Cst} (h : ∀ c ∈ program.nodes, c.OrderedNode) :
    program.Ordered :=
  fun _ hc => h _ (mem_nodes_of_within hc)

theorem Ordered.of_within (h : c.Ordered) (hd : d.Within c) : d.Ordered :=
  fun _ hb => h _ (hb.trans hd)

theorem Ordered.of_mem (h : c.Ordered) (hd : d ∈ c.children) : d.Ordered :=
  h.of_within (within_of_mem hd)

theorem Ordered.node (h : c.Ordered) : c.OrderedNode :=
  h c (.refl c)

/-- What stands at or below a node is in its range. -/
theorem Ordered.bounds (h : c.Ordered) (hb : b.Within c) : c.start ≤ b.start ∧ b.stop ≤ c.stop := by
  induction hb with
  | refl => exact ⟨Nat.le_refl _, Nat.le_refl _⟩
  | child hd _ ih =>
    obtain ⟨hstart, hstop⟩ := h.node.contains _ hd
    obtain ⟨hbstart, hbstop⟩ := ih (h.of_mem hd)
    exact ⟨Nat.le_trans hstart hbstart, Nat.le_trans hbstop hstop⟩

/-- Depth first, nodes start one after the other. -/
theorem Ordered.pairwise_start (h : c.Ordered) :
    c.nodes.Pairwise fun a b => a.start ≤ b.start := by
  induction c using induction_children with
  | h c ih =>
    rw [nodes_eq, nodesOf_eq_flatMap]
    refine List.pairwise_cons.2 ⟨fun b hb => ?_, List.pairwise_flatMap.2
      ⟨fun d hd => ih d hd (h.of_mem hd), ?_⟩⟩
    · obtain ⟨d, hd, hb⟩ := List.mem_flatMap.1 hb
      exact (h.bounds (.child hd (within_of_mem_nodes hb))).1
    · -- what is below one child ends before what is below the next one starts
      refine h.node.apart.imp_of_mem fun {d e} hd he hde a ha b hb => ?_
      have hinside := (h.of_mem hd).bounds (within_of_mem_nodes ha)
      have hnode := ((h.of_mem hd).of_within (within_of_mem_nodes ha)).node.start_le_stop
      have hbehind := ((h.of_mem he).bounds (within_of_mem_nodes hb)).1
      omega

end JavaLint.Java.Cst
