import JavaLint.Proofs.Scope.Resolution
/-!
# What stands inside anonymous classes

Members of anonymous classes resolve to the scope `anonInner`, and so does all
that stands in them. A declaration directly in the body of an anonymous class
that is no member, as a lambda in an initializer, is taken for one of the member
around the class instead.

## Main statements

- `Tree.resolvedScope_eq_anonInner_iff` — the nodes that resolve to `anonInner`
- `Tree.not_forall_anonInner_initializer` — a tree with a lambda that does not
-/

namespace JavaLint.Tree

variable {t : Tree}

/-- A node resolves to the scope of anonymous classes just if the first member on
    its way up stands in an anonymous class, or if that member or a type above it
    declares this scope. -/
theorem resolvedScope_eq_anonInner_iff (h : t.Built) (id : NodeId) :
    t.resolvedScope id = .anonInner ↔
      ∃ m, t.FirstMember id m ∧ (t.InAnonymousClass m ∨ t.DeclaredAlong m .anonInner) := by
  have hwf := h.wellFormed
  constructor
  · intro hscope
    by_cases hsome : ∃ m, t.FirstMember id m
    · obtain ⟨m, hm⟩ := hsome
      refine ⟨m, hm, or_iff_not_imp_left.2 fun hout => ?_⟩
      have hleast := hwf.isLeastVisible_resolvedScope hm hout
      rw [hscope] at hleast
      exact hleast.1
    · have hpriv := hwf.resolvedScope_of_forall_not_firstMember (not_exists.1 hsome)
      simp [hpriv] at hscope
  · rintro ⟨m, hm, hin | hdeclared⟩
    · exact hwf.resolvedScope_of_inAnonymousClass hm hin
    · by_cases hin : t.InAnonymousClass m
      · exact hwf.resolvedScope_of_inAnonymousClass hm hin
      · -- nothing is less visible, so the least visible scope is no other one
        have hle := (hwf.isLeastVisible_resolvedScope hm hin).2 _ hdeclared
        exact Scope.eq_anonInner_of_isIn hle

/-- A public method that creates an object of an anonymous class. The class has
    a method and, in an initializer, a lambda. -/
def initializer : Tree :=
  (((((Tree.ofUnit "A.java").attached 0
    ⟨.type .classType, "A", ⟨1, 14⟩, 13, { visibility := some .pub }⟩).attached 1
    ⟨.method, "m", ⟨2, 17⟩, 31, { visibility := some .pub }⟩).attached 2
    ⟨.anonymousClass, "Object", ⟨3, 13⟩, 50, {}⟩).attached 3
    ⟨.lambda, "lambda", ⟨4, 28⟩, 90, {}⟩).attached 3
    ⟨.method, "run", ⟨5, 14⟩, 120, { visibility := some .pub }⟩

theorem built_initializer : initializer.Built := by
  refine .attached (.attached (.attached (.attached (.attached (.ofUnit "A.java") ?_ ?_ ?_) ?_ ?_ ?_)
    ?_ ?_ ?_) ?_ ?_ ?_) ?_ ?_ ?_
  all_goals decide

theorem resolvedScope_eq_anonInner_iff_initializer :
    initializer.Built ∧
      (initializer.resolvedScope 5 = .anonInner ↔ ∃ m, initializer.FirstMember 5 m ∧
        (initializer.InAnonymousClass m ∨ initializer.DeclaredAlong m .anonInner)) :=
  ⟨built_initializer, resolvedScope_eq_anonInner_iff built_initializer 5⟩

/-- Not all that stands in an anonymous class resolves to its scope. -/
theorem not_forall_anonInner_initializer :
    initializer.Built ∧
      ¬ ∀ id, initializer.InAnonymousClass id → initializer.resolvedScope id = .anonInner := by
  refine ⟨built_initializer, fun hall => ?_⟩
  have hin : initializer.InAnonymousClass 4 := ⟨3, by decide, by decide⟩
  have hscope : initializer.resolvedScope 4 = .pub := by decide
  rw [hall 4 hin] at hscope
  exact absurd hscope (by decide)

end JavaLint.Tree
