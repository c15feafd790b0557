import JavaLint.Proofs.Tree.Order
import JavaLint.Scope.Resolution
/-!
# What the resolved scope of a node is

The resolver climbs from a node to its nearest member and from there through
everything above it, with an accumulator that starts empty and an early exit at
anonymous classes. This file says what comes of it without any of that: which
member decides, which scopes count, and that the least visible one wins.

## Main definitions

- `Scope.IsLeastVisible` — the least visible one of some scopes
- `Tree.FirstMember` — the first member on the way up from a node
- `Tree.Declares` — the scope that a member has by its modifiers and place
- `Tree.InAnonymousClass`, `Tree.DeclaredAlong` — what the resolver looks for above a member

## Main statements

- `Tree.WellFormed.nearestMember?_eq_some_iff` — the resolver starts at the first member
- `Tree.WellFormed.isLeastVisible_resolvedScope` — outside anonymous classes the least visible
  of the declared scopes is the resolved one
- `Tree.resolvedScope_spec` — the resolved scope of every node
-/

namespace JavaLint

namespace Scope

variable {a b c s : Scope} {among among' : Scope → Prop}

theorem isIn_iff : a.isIn b = true ↔ a.rank ≤ b.rank := by
  simp [isIn]

theorem isIn_refl (a : Scope) : a.isIn a = true :=
  isIn_iff.2 (Nat.le_refl _)

theorem isIn_trans (hab : a.isIn b = true) (hbc : b.isIn c = true) : a.isIn c = true :=
  isIn_iff.2 (Nat.le_trans (isIn_iff.1 hab) (isIn_iff.1 hbc))

theorem isIn_total (a b : Scope) : a.isIn b = true ∨ b.isIn a = true := by
  rw [isIn_iff, isIn_iff]
  omega

/-- Nothing is less visible than what stands inside an anonymous class. -/
theorem isIn_anonInner (a : Scope) : a.isIn .anonInner = true := by
  cases a <;> rfl

theorem eq_anonInner_of_isIn (h : Scope.anonInner.isIn a = true) : a = .anonInner := by
  cases a <;> simp_all [isIn, rank]

theorem isIn_leastVisible_left (a b : Scope) : a.isIn (a.leastVisible b) = true := by
  unfold leastVisible
  split
  · assumption
  · exact isIn_refl a

theorem isIn_leastVisible_right (a b : Scope) : b.isIn (a.leastVisible b) = true := by
  unfold leastVisible
  split
  · exact isIn_refl b
  · next h => exact (isIn_total a b).resolve_left h

theorem leastVisible_eq_or (a b : Scope) : a.leastVisible b = a ∨ a.leastVisible b = b := by
  unfold leastVisible
  split
  · exact .inr rfl
  · exact .inl rfl

theorem leastVisible_anonInner (a : Scope) : a.leastVisible .anonInner = .anonInner := by
  rw [leastVisible, if_pos (isIn_anonInner a)]

/-- A scope is one of some scopes, and each of them is at least as visible. -/
def IsLeastVisible (s : Scope) (among : Scope → Prop) : Prop :=
  among s ∧ ∀ d, among d → d.isIn s = true

/-- Scopes that lie below others in the set can be left out. -/
theorem IsLeastVisible.of_cofinal (h : s.IsLeastVisible among') (hsub : ∀ d, among' d → among d)
    (hcofinal : ∀ d, among d → ∃ d', among' d' ∧ d.isIn d' = true) : s.IsLeastVisible among := by
  refine ⟨hsub s h.1, fun d hd => ?_⟩
  obtain ⟨d', hd', hle⟩ := hcofinal d hd
  exact isIn_trans hle (h.2 d' hd')

theorem isLeastVisible_leastVisible (a b : Scope) :
    (a.leastVisible b).IsLeastVisible fun s => s = a ∨ s = b := by
  refine ⟨leastVisible_eq_or a b, ?_⟩
  rintro d (rfl | rfl)
  · exact isIn_leastVisible_left d b
  · exact isIn_leastVisible_right a d

/-- One more scope is taken into account beside those that have been found. -/
theorem isLeastVisible_elim (found : Option Scope) (s : Scope) :
    (found.elim s (·.leastVisible s)).IsLeastVisible fun d => found = some d ∨ d = s := by
  cases found with
  | none => exact ⟨.inr rfl, by simp [isIn_refl]⟩
  | some f =>
    refine (isLeastVisible_leastVisible f s).of_cofinal ?_ ?_
    · exact fun d hd => hd.imp_left fun h => congrArg some h.symm
    · exact fun d hd => ⟨d, hd.imp_left fun h => (Option.some.inj h).symm, isIn_refl d⟩

end Scope

namespace Tree

variable {t : Tree} {a id m p : NodeId} {s : Scope} {above : List NodeId}

/-! ## The member that decides -/

/-- The node is a type, method, constructor or field. -/
def IsMember (t : Tree) (id : NodeId) : Prop :=
  ∃ kind, t.kind? id = some kind ∧ kind.isMember = true

/-- The node is a type declaration. -/
def IsType (t : Tree) (id : NodeId) : Prop :=
  ∃ kind, t.kind? id = some (.type kind)

/-- `FirstMember t id m`: on the chain of `id`, its parent, the parent of that
    and so on, `m` is the first member. -/
inductive FirstMember (t : Tree) : NodeId → NodeId → Prop
  | self {id : NodeId} : t.IsMember id → FirstMember t id id
  | above {id p m : NodeId} : ¬ t.IsMember id → t.parent? id = some p → FirstMember t p m →
      FirstMember t id m

theorem any_isMember_iff : (t.kind? id).any NodeKind.isMember = true ↔ t.IsMember id := by
  simp [IsMember, Option.any_eq_true]

/-- The nearest member of a node is the node, or else that of its parent. -/
theorem WellFormed.nearestMember?_eq (h : t.WellFormed) (id : NodeId) :
    t.nearestMember? id =
      if (t.kind? id).any NodeKind.isMember then some id
      else (t.parent? id).bind t.nearestMember? := by
  unfold nearestMember?
  rw [List.find?_cons]
  split
  · next hmember => rw [if_pos hmember]
  · next hmember =>
    have hother : ¬ (t.kind? id).any NodeKind.isMember = true := Bool.eq_false_iff.1 hmember
    rw [if_neg hother, h.ancestors_eq]
    cases t.parent? id with
    | none => rfl
    | some p => rfl

theorem WellFormed.nearestMember?_eq_some_iff (h : t.WellFormed) :
    t.nearestMember? id = some m ↔ t.FirstMember id m := by
  constructor
  · intro hm
    -- parents have smaller indices
    induction id using Nat.strongRecOn with
    | ind id ih =>
      rw [h.nearestMember?_eq] at hm
      split at hm
      · next hmember =>
        rw [← Option.some.inj hm]
        exact .self (any_isMember_iff.1 hmember)
      · next hother =>
        obtain ⟨p, hp, hm⟩ := Option.bind_eq_some_iff.1 hm
        exact .above (fun hmember => hother (any_isMember_iff.2 hmember)) hp
          (ih p (h.parent_lt hp) hm)
  · intro hm
    induction hm with
    | self hmember => rw [h.nearestMember?_eq, if_pos (any_isMember_iff.2 hmember)]
    | above hother hp _ ih =>
      rw [h.nearestMember?_eq, if_neg fun hmember => hother (any_isMember_iff.1 hmember), hp]
      exact ih

theorem WellFormed.nearestMember?_eq_none_iff (h : t.WellFormed) :
    t.nearestMember? id = none ↔ ∀ m, ¬ t.FirstMember id m := by
  simp only [Option.eq_none_iff_forall_ne_some, ne_eq, h.nearestMember?_eq_some_iff]

theorem FirstMember.isMember (hm : t.FirstMember id m) : t.IsMember m := by
  induction hm with
  | self hmember => exact hmember
  | above _ _ _ ih => exact ih

theorem IsMember.exists_node (hm : t.IsMember m) : ∃ node, t.get? m = some node := by
  obtain ⟨kind, hkind, -⟩ := hm
  obtain ⟨node, hnode, -⟩ := Option.map_eq_some_iff.1 hkind
  exact ⟨node, hnode⟩

/-- There is no way up from a node that is not in the tree. -/
theorem not_firstMember_of_size_le (hid : t.size ≤ id) : ¬ t.FirstMember id m := by
  intro hm
  cases hm with
  | self hmember =>
    obtain ⟨node, hnode⟩ := hmember.exists_node
    exact Nat.not_lt.2 hid (lt_size_of_get? hnode)
  | above _ hp _ => exact Nat.not_lt.2 hid (lt_size_of_parent? hp)

/-! ## The scopes that members declare -/

/-- The node stands directly in one of the given kind. -/
def StandsIn (t : Tree) (id : NodeId) (kind : NodeKind) : Prop :=
  ∃ p, t.parent? id = some p ∧ t.kind? p = some kind

/-- `Declares t m s`: the member `m` declares the scope `s`. Its visibility
    keyword decides. Without one, members of interfaces and annotation types are
    public, constructors of enums are private, and all others belong to their
    package. -/
inductive Declares (t : Tree) (m : NodeId) : Scope → Prop
  | explicit {node : TreeNode} {s : Scope} :
      t.get? m = some node → node.modifiers.visibility = some s → Declares t m s
  | ofInterface {node : TreeNode} :
      t.get? m = some node → node.modifiers.visibility = none →
      t.StandsIn m (.type .interfaceType) ∨ t.StandsIn m (.type .annotationType) →
      Declares t m .pub
  | ofEnum {node : TreeNode} :
      t.get? m = some node → node.modifiers.visibility = none →
      t.StandsIn m (.type .enumType) → node.kind = .constructor → Declares t m .priv
  | ofPackage {node : TreeNode} :
      t.get? m = some node → node.modifiers.visibility = none →
      ¬ (t.StandsIn m (.type .interfaceType) ∨ t.StandsIn m (.type .annotationType)) →
      ¬ (t.StandsIn m (.type .enumType) ∧ node.kind = .constructor) → Declares t m .pack

theorem standsIn_iff {kind : NodeKind} :
    t.StandsIn id kind ↔ (t.parent? id).bind t.kind? = some kind := by
  simp [StandsIn, Option.bind_eq_some_iff]

theorem declares_declaredScope {node : TreeNode} (hnode : t.get? m = some node) :
    t.Declares m (t.declaredScope m) := by
  unfold declaredScope
  rw [hnode]
  dsimp only
  cases hv : node.modifiers.visibility with
  | some s => exact .explicit hnode hv
  | none =>
    rw [Option.getD_none]
    unfold implicitScope
    split
    · next hin => exact .ofInterface hnode hv (.inl (standsIn_iff.2 hin))
    · next hin => exact .ofInterface hnode hv (.inr (standsIn_iff.2 hin))
    · next hin =>
      split
      · next hkind => exact .ofEnum hnode hv (standsIn_iff.2 hin) hkind
      · next hkind =>
        refine .ofPackage hnode hv ?_ fun h => hkind h.2
        simp [standsIn_iff, hin]
    · next hinterface hannotation henum =>
      refine .ofPackage hnode hv ?_ fun h => henum (standsIn_iff.1 h.1)
      rw [standsIn_iff, standsIn_iff]
      exact fun h => h.elim hinterface hannotation

theorem eq_declaredScope (hs : t.Declares m s) : s = t.declaredScope m := by
  unfold declaredScope
  cases hs with
  | explicit hnode hv => simp [hnode, hv]
  | ofInterface hnode hv hin =>
    rw [standsIn_iff, standsIn_iff] at hin
    rcases hin with hin | hin <;> simp [hnode, hv, implicitScope, hin]
  | ofEnum hnode hv hin hkind =>
    rw [standsIn_iff] at hin
    simp [hnode, hv, implicitScope, hin, hkind]
  | ofPackage hnode hv hinterface henum =>
    rw [standsIn_iff, standsIn_iff, not_or] at hinterface
    rw [standsIn_iff] at henum
    simp only [hnode, hv, Option.getD_none]
    unfold implicitScope
    split
    · next hin => exact absurd hin hinterface.1
    · next hin => exact absurd hin hinterface.2
    · next hin => rw [if_neg fun hkind => henum ⟨hin, hkind⟩]
    · rfl

/-- A node of the tree declares one scope. -/
theorem declares_iff {node : TreeNode} (hnode : t.get? m = some node) :
    t.Declares m s ↔ s = t.declaredScope m :=
  ⟨eq_declaredScope, fun h => h ▸ declares_declaredScope hnode⟩

/-! ## The scopes above a member -/

/-- Some anonymous class encloses the node. -/
def InAnonymousClass (t : Tree) (id : NodeId) : Prop :=
  ∃ a ∈ t.ancestors id, t.kind? a = some .anonymousClass

/-- The member or a type declaration above it declares the scope. -/
def DeclaredAlong (t : Tree) (m : NodeId) (s : Scope) : Prop :=
  t.Declares m s ∨ ∃ a ∈ t.ancestors m, t.IsType a ∧ t.Declares a s

theorem WellFormed.exists_node_of_mem_ancestors (h : t.WellFormed) (ha : a ∈ t.ancestors id) :
    ∃ node, t.get? a = some node := by
  obtain ⟨p, hp, -⟩ := h.exists_parent_of_mem_ancestors ha
  exact get?_of_lt_size (Nat.lt_trans (h.lt_of_mem_ancestors ha) (lt_size_of_parent? hp))

theorem WellFormed.exists_kind_of_mem_ancestors (h : t.WellFormed) (ha : a ∈ t.ancestors id) :
    ∃ kind, t.kind? a = some kind := by
  obtain ⟨node, hnode⟩ := h.exists_node_of_mem_ancestors ha
  exact ⟨node.kind, by rw [kind?, hnode, Option.map_some]⟩

section ScopeAround

variable {kind : NodeKind} {soFar : Option Scope}

theorem scopeAround_cons_anonymousClass (ha : t.kind? a = some .anonymousClass) :
    t.scopeAround soFar (a :: above) = some .anonInner := by
  rw [scopeAround, ha]

theorem scopeAround_cons_type (ha : t.IsType a) :
    t.scopeAround soFar (a :: above) =
      t.scopeAround
        (some (soFar.elim (t.declaredScope a) (·.leastVisible (t.declaredScope a)))) above := by
  obtain ⟨kind, ha⟩ := ha
  rw [scopeAround, ha]

theorem scopeAround_cons_other (ha : t.kind? a = some kind) (hanonymous : kind ≠ .anonymousClass)
    (htype : ¬ t.IsType a) : t.scopeAround soFar (a :: above) = t.scopeAround soFar above := by
  rw [scopeAround, ha]
  cases kind with
  | type k => exact absurd ⟨k, ha⟩ htype
  | anonymousClass => exact absurd rfl hanonymous
  | compilationUnit | method | constructor | field | lambda | parameter => rfl

/-- An anonymous class decides, whatever has been found below it. -/
theorem scopeAround_of_anonymousClass (hkinds : ∀ a ∈ above, ∃ kind, t.kind? a = some kind)
    (hanonymous : ∃ a ∈ above, t.kind? a = some .anonymousClass) :
    t.scopeAround soFar above = some .anonInner := by
  induction above generalizing soFar with
  | nil => simp at hanonymous
  | cons first above ih =>
    obtain ⟨⟨kind, hkind⟩, hrest⟩ := List.forall_mem_cons.1 hkinds
    by_cases hfirst : kind = .anonymousClass
    · exact scopeAround_cons_anonymousClass (hfirst ▸ hkind)
    · have hlater : ∃ a ∈ above, t.kind? a = some .anonymousClass := by
        refine ((List.exists_mem_cons_iff ..).1 hanonymous).resolve_left fun h => hfirst ?_
        exact Option.some.inj (hkind.symm.trans h)
      by_cases htype : t.IsType first
      · rw [scopeAround_cons_type htype, ih hrest hlater]
      · rw [scopeAround_cons_other hkind hfirst htype, ih hrest hlater]

/-- Some type declaration of the list declares the scope. -/
def Limits (t : Tree) (above : List NodeId) (s : Scope) : Prop :=
  ∃ a ∈ above, t.IsType a ∧ s = t.declaredScope a

theorem limits_cons_type (ha : t.IsType a) :
    t.Limits (a :: above) s ↔ s = t.declaredScope a ∨ t.Limits above s := by
  simp [Limits, ha]

theorem limits_cons_other (ha : ¬ t.IsType a) : t.Limits (a :: above) s ↔ t.Limits above s := by
  simp [Limits, ha]

/-- Without an anonymous class the types above a member limit what has been
    found so far, and nothing else does. -/
theorem isLeastVisible_scopeAround (declared : Scope) (soFar : Option Scope)
    (hkinds : ∀ a ∈ above, ∃ kind, t.kind? a = some kind ∧ kind ≠ .anonymousClass) :
    ((t.scopeAround soFar above).elim declared declared.leastVisible).IsLeastVisible fun s =>
      s = declared ∨ soFar = some s ∨ t.Limits above s := by
  -- what has been found so far stands for the types that have been passed
  induction above generalizing soFar with
  | nil =>
    have hnone : ∀ s, ¬ t.Limits [] s := by simp [Limits]
    rw [scopeAround]
    cases soFar with
    | none => exact ⟨.inl rfl, by simp [hnone, Scope.isIn_refl]⟩
    | some found =>
      refine (Scope.isLeastVisible_leastVisible declared found).of_cofinal ?_ ?_
      · exact fun d hd => hd.imp_right fun h => .inl (congrArg some h.symm)
      · rintro d (hd | hd | hd)
        · exact ⟨d, .inl hd, Scope.isIn_refl d⟩
        · exact ⟨d, .inr (Option.some.inj hd).symm, Scope.isIn_refl d⟩
        · exact absurd hd (hnone d)
  | cons first above ih =>
    obtain ⟨⟨kind, hkind, hplain⟩, hrest⟩ := List.forall_mem_cons.1 hkinds
    by_cases htype : t.IsType first
    · rw [scopeAround_cons_type htype]
      simp only [limits_cons_type htype]
      have hfound := Scope.isLeastVisible_elim soFar (t.declaredScope first)
      generalize soFar.elim (t.declaredScope first) (·.leastVisible (t.declaredScope first)) =
        found at hfound
      refine (ih _ hrest).of_cofinal ?_ ?_
      · rintro d (hd | hd | hd)
        · exact .inl hd
        · rw [← Option.some.inj hd]
          exact .inr (hfound.1.imp_right .inl)
        · exact .inr (.inr (.inr hd))
      · rintro d (hd | hd | hd | hd)
        · exact ⟨d, .inl hd, Scope.isIn_refl d⟩
        · exact ⟨found, .inr (.inl rfl), hfound.2 d (.inl hd)⟩
        · exact ⟨found, .inr (.inl rfl), hfound.2 d (.inr hd)⟩
        · exact ⟨d, .inr (.inr hd), Scope.isIn_refl d⟩
    · rw [scopeAround_cons_other hkind hplain htype]
      simpa only [limits_cons_other htype] using ih soFar hrest

end ScopeAround

/-! ## The resolved scope -/

theorem resolvedScope_of_nearestMember? (hm : t.nearestMember? id = some m) :
    t.resolvedScope id =
      (t.scopeAround none (t.ancestors m)).elim (t.declaredScope m)
        (t.declaredScope m).leastVisible := by
  rw [resolvedScope, hm]

theorem WellFormed.resolvedScope_of_forall_not_firstMember (h : t.WellFormed)
    (hnone : ∀ m, ¬ t.FirstMember id m) : t.resolvedScope id = .priv := by
  rw [resolvedScope, h.nearestMember?_eq_none_iff.2 hnone]

theorem WellFormed.resolvedScope_of_inAnonymousClass (h : t.WellFormed)
    (hm : t.FirstMember id m) (hin : t.InAnonymousClass m) : t.resolvedScope id = .anonInner := by
  rw [resolvedScope_of_nearestMember? (h.nearestMember?_eq_some_iff.2 hm),
    scopeAround_of_anonymousClass (fun a ha => h.exists_kind_of_mem_ancestors ha) hin,
    Option.elim_some, Scope.leastVisible_anonInner]

theorem WellFormed.declaredAlong_iff (h : t.WellFormed) (hm : t.IsMember m) :
    t.DeclaredAlong m s ↔ s = t.declaredScope m ∨ t.Limits (t.ancestors m) s := by
  obtain ⟨node, hnode⟩ := hm.exists_node
  unfold DeclaredAlong Limits
  rw [declares_iff hnode]
  refine or_congr_right (exists_congr fun a => and_congr_right fun ha => ?_)
  obtain ⟨node, hnode⟩ := h.exists_node_of_mem_ancestors ha
  rw [declares_iff hnode]

/-- Outside anonymous classes the least visible of the scopes that the first
    member and the types above it declare is the one that counts. -/
theorem WellFormed.isLeastVisible_resolvedScope (h : t.WellFormed) (hm : t.FirstMember id m)
    (hout : ¬ t.InAnonymousClass m) :
    (t.resolvedScope id).IsLeastVisible (t.DeclaredAlong m) := by
  have hkinds : ∀ a ∈ t.ancestors m, ∃ kind, t.kind? a = some kind ∧ kind ≠ .anonymousClass := by
    intro a ha
    obtain ⟨kind, hkind⟩ := h.exists_kind_of_mem_ancestors ha
    exact ⟨kind, hkind, fun he => hout ⟨a, ha, he ▸ hkind⟩⟩
  have hleast := isLeastVisible_scopeAround (t.declaredScope m) none hkinds
  rw [resolvedScope_of_nearestMember? (h.nearestMember?_eq_some_iff.2 hm)]
  refine hleast.of_cofinal ?_ ?_
  · rintro d (hd | hd | hd)
    · exact (h.declaredAlong_iff hm.isMember).2 (.inl hd)
    · exact absurd hd (by simp)
    · exact (h.declaredAlong_iff hm.isMember).2 (.inr hd)
  · intro d hd
    exact ⟨d, ((h.declaredAlong_iff hm.isMember).1 hd).imp_right .inr, Scope.isIn_refl d⟩

/-- The resolved scope of a node depends on the first member on its way up. If
    there is none, or the node is not in the tree, the scope is private. If an
    anonymous class encloses the member, it is that of anonymous classes.
    Otherwise it is the least visible of the scopes that the member and the types
    above it declare. -/
theorem resolvedScope_spec (h : t.Built) (id : NodeId) :
    ((∀ m, ¬ t.FirstMember id m) → t.resolvedScope id = .priv) ∧
      (t.size ≤ id → t.resolvedScope id = .priv) ∧
      ∀ m, t.FirstMember id m →
        (t.InAnonymousClass m → t.resolvedScope id = .anonInner) ∧
        (¬ t.InAnonymousClass m → (t.resolvedScope id).IsLeastVisible (t.DeclaredAlong m)) := by
  have hwf := h.wellFormed
  refine ⟨hwf.resolvedScope_of_forall_not_firstMember, fun hid => ?_, fun m hm => ⟨?_, ?_⟩⟩
  · exact hwf.resolvedScope_of_forall_not_firstMember fun m => not_firstMember_of_size_le hid
  · exact hwf.resolvedScope_of_inAnonymousClass hm
  · exact hwf.isLeastVisible_resolvedScope hm

/-- A method of a public interface in a class without a visibility keyword. The
    method has a parameter. -/
def nestedInterface : Tree :=
  ((((Tree.ofUnit "A.java").attached 0 ⟨.type .classType, "Holder", ⟨1, 7⟩, 6, {}⟩).attached 1
    ⟨.type .interfaceType, "Api", ⟨2, 20⟩, 34, { visibility := some .pub }⟩).attached 2
    ⟨.method, "call", ⟨3, 10⟩, 52, {}⟩).attached 3
    ⟨.parameter .formal, "x", ⟨3, 19⟩, 61, {}⟩

/-- The class hides the method, which is public in its interface. -/
theorem resolvedScope_spec_nestedInterface :
    nestedInterface.Built ∧ nestedInterface.FirstMember 4 3 ∧ ¬ nestedInterface.InAnonymousClass 3 ∧
      (nestedInterface.resolvedScope 4).IsLeastVisible (nestedInterface.DeclaredAlong 3) := by
  have hbuilt : nestedInterface.Built := by
    refine .attached (.attached (.attached (.attached (.ofUnit "A.java") ?_ ?_ ?_) ?_ ?_ ?_)
      ?_ ?_ ?_) ?_ ?_ ?_
    all_goals decide
  have hother : ¬ nestedInterface.IsMember 4 := by
    rw [← any_isMember_iff]
    decide
  have hfirst : nestedInterface.FirstMember 4 3 :=
    .above hother (by decide) (.self ⟨.method, by decide, by decide⟩)
  have hout : ¬ nestedInterface.InAnonymousClass 3 := by
    unfold InAnonymousClass
    decide
  exact ⟨hbuilt, hfirst, hout, ((resolvedScope_spec hbuilt 4).2.2 3 hfirst).2 hout⟩

example : nestedInterface.resolvedScope 4 = .pack := by decide

end Tree

end JavaLint
