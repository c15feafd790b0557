import JavaLint.Proofs.Scope.Resolution
/-!
# What an enclosing type lets through

A declaration is never more visible than a type around it, however many
methods, lambdas, fields, anonymous classes and other types stand in between.

## Main statements

- `Tree.WellFormed.exists_firstMember_under` — the member that decides for what stands in a type is
  the type, or stands in it
- `Tree.isIn_resolvedScope_of_isType` — an enclosing type is at least as visible
-/

namespace JavaLint

theorem Scope.ne_pub_and_ne_prot_of_pack_isIn {s : Scope} (h : Scope.pack.isIn s = true) :
    s ≠ .pub ∧ s ≠ .prot := by
  cases s <;> simp_all [isIn, rank]

namespace Tree

variable {t : Tree} {a b c id m : NodeId} {s : Scope}

/-- What encloses an ancestor of a node encloses the node. -/
theorem WellFormed.mem_ancestors_trans (h : t.WellFormed) (hab : a ∈ t.ancestors b)
    (hbc : b ∈ t.ancestors c) : a ∈ t.ancestors c := by
  -- parents have smaller indices
  induction c using Nat.strongRecOn with
  | ind c ih =>
    obtain ⟨p, hp, rfl | hbp⟩ := h.exists_parent_of_mem_ancestors hbc
    · exact (h.mem_ancestors_iff hp).2 (.inr hab)
    · exact (h.mem_ancestors_iff hp).2 (.inr (ih p (h.parent_lt hp) hbp))

theorem IsType.isMember (ha : t.IsType a) : t.IsMember a := by
  obtain ⟨kind, hkind⟩ := ha
  exact ⟨.type kind, hkind, rfl⟩

/-- On the way up from what stands in a type, the first member is the type or is
    met before it. -/
theorem WellFormed.exists_firstMember_under (h : t.WellFormed) (htype : t.IsType a)
    (ha : a ∈ t.ancestors id) : ∃ m, t.FirstMember id m ∧ t.Under a m := by
  induction id using Nat.strongRecOn with
  | ind id ih =>
    by_cases hmember : t.IsMember id
    · exact ⟨id, .self hmember, .inr ha⟩
    · obtain ⟨p, hp, rfl | hap⟩ := h.exists_parent_of_mem_ancestors ha
      · exact ⟨a, .above hmember hp (.self htype.isMember), .refl t a⟩
      · obtain ⟨m, hm, hunder⟩ := ih p (h.parent_lt hp) hap
        exact ⟨m, .above hmember hp hm, hunder⟩

/-! ## What holds of a type holds of the members in it -/

theorem WellFormed.inAnonymousClass_of_under (h : t.WellFormed) (hunder : t.Under a m)
    (hin : t.InAnonymousClass a) : t.InAnonymousClass m := by
  rcases hunder with rfl | ha
  · exact hin
  · obtain ⟨b, hb, hkind⟩ := hin
    exact ⟨b, h.mem_ancestors_trans hb ha, hkind⟩

/-- A scope that counts for a type counts for every member in it. -/
theorem WellFormed.declaredAlong_of_under (h : t.WellFormed) (htype : t.IsType a)
    (hunder : t.Under a m) (hs : t.DeclaredAlong a s) : t.DeclaredAlong m s := by
  rcases hunder with rfl | ha
  · exact hs
  · rcases hs with hs | ⟨b, hb, hbtype, hs⟩
    · exact .inr ⟨a, ha, htype, hs⟩
    · exact .inr ⟨b, h.mem_ancestors_trans hb ha, hbtype, hs⟩

/-! ## The resolved scopes -/

/-- No scope that counts for a node is less visible than the one it resolves to. -/
theorem WellFormed.isIn_resolvedScope (h : t.WellFormed) (hm : t.FirstMember id m)
    (hs : t.DeclaredAlong m s) : s.isIn (t.resolvedScope id) = true := by
  by_cases hin : t.InAnonymousClass m
  · rw [h.resolvedScope_of_inAnonymousClass hm hin]
    exact s.isIn_anonInner
  · exact (h.isLeastVisible_resolvedScope hm hin).2 s hs

/-- An enclosing type is at least as visible as what stands in it. -/
theorem WellFormed.isIn_resolvedScope_of_under (h : t.WellFormed) (htype : t.IsType a)
    (hm : t.FirstMember id m) (hunder : t.Under a m) :
    (t.resolvedScope a).isIn (t.resolvedScope id) = true := by
  have hself : t.FirstMember a a := .self htype.isMember
  by_cases hin : t.InAnonymousClass a
  · -- the anonymous class around the type is around the member as well
    rw [h.resolvedScope_of_inAnonymousClass hm (h.inAnonymousClass_of_under hunder hin)]
    exact Scope.isIn_anonInner _
  · have hleast := h.isLeastVisible_resolvedScope hself hin
    exact h.isIn_resolvedScope hm (h.declaredAlong_of_under htype hunder hleast.1)

/-- A declaration is never more visible than a type that encloses it at any
    distance. In particular nothing below a type of package scope, or below one
    that declares package scope, resolves to public or protected. -/
theorem isIn_resolvedScope_of_isType (h : t.Built) (htype : t.IsType a) (ha : a ∈ t.ancestors id) :
    (t.resolvedScope a).isIn (t.resolvedScope id) = true ∧
      (t.resolvedScope a = .pack ∨ t.Declares a .pack →
        t.resolvedScope id ≠ .pub ∧ t.resolvedScope id ≠ .prot) := by
  have hwf := h.wellFormed
  obtain ⟨m, hm, hunder⟩ := hwf.exists_firstMember_under htype ha
  have hle := hwf.isIn_resolvedScope_of_under htype hm hunder
  refine ⟨hle, fun hpack => Scope.ne_pub_and_ne_prot_of_pack_isIn ?_⟩
  rcases hpack with hpack | hpack
  · exact hpack ▸ hle
  · exact hwf.isIn_resolvedScope hm (hwf.declaredAlong_of_under htype hunder (.inl hpack))

/-- A class without a visibility keyword. In it stands a public class with a
    public method, whose body has a lambda with a parameter. -/
def lambdaInside : Tree :=
  (((((Tree.ofUnit "A.java").attached 0 ⟨.type .classType, "Outer", ⟨1, 7⟩, 6, {}⟩).attached 1
    ⟨.type .classType, "Inner", ⟨2, 16⟩, 30, { visibility := some .pub }⟩).attached 2
    ⟨.method, "m", ⟨3, 17⟩, 55, { visibility := some .pub }⟩).attached 3
    ⟨.lambda, "lambda", ⟨4, 20⟩, 80, {}⟩).attached 4
    ⟨.parameter .lambda, "x", ⟨4, 20⟩, 80, {}⟩

theorem isIn_resolvedScope_of_isType_lambdaInside :
    lambdaInside.Built ∧ lambdaInside.IsType 1 ∧ 1 ∈ lambdaInside.ancestors 5 ∧
      (lambdaInside.resolvedScope 1).isIn (lambdaInside.resolvedScope 5) = true ∧
      lambdaInside.resolvedScope 1 = .pack ∧
      lambdaInside.resolvedScope 5 ≠ .pub ∧ lambdaInside.resolvedScope 5 ≠ .prot := by
  have hbuilt : lambdaInside.Built := by
    refine .attached (.attached (.attached (.attached (.attached (.ofUnit "A.java") ?_ ?_ ?_)
      ?_ ?_ ?_) ?_ ?_ ?_) ?_ ?_ ?_) ?_ ?_ ?_
    all_goals decide
  have htype : lambdaInside.IsType 1 := ⟨.classType, by decide⟩
  have habove : 1 ∈ lambdaInside.ancestors 5 := by decide
  have hpack : lambdaInside.resolvedScope 1 = .pack := by decide
  obtain ⟨hle, hhidden⟩ := isIn_resolvedScope_of_isType hbuilt htype habove
  exact ⟨hbuilt, htype, habove, hle, hpack, hhidden (.inl hpack)⟩

example : lambdaInside.resolvedScope 5 = .pack := by decide

end Tree

end JavaLint
