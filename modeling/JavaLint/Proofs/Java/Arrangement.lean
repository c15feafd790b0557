import JavaLint.Proofs.Java.Extraction
/-!
# How the places of a yield lie

What a step attaches and goes on with stands at places below its node that have
nothing in common. Which child of the node leads to a place decides whether the
place belongs to what the node declares.

## Main definitions

- `Java.Cst.Regular` — what a grammar grants about parameters and bodies
- `Java.Cst.Encloses` — the children that belong to what a node declares
- `Java.Cst.Hides` — the children that no step goes on with
- `Java.Yield.Arranged` — the places of a yield against these

## Main statements

- `Java.Source.Yields.arranged` — the yields of regular nodes are arranged
-/

namespace JavaLint.Java

/-- Groups that a step looks into, to go on with or declare what stands in them. -/
def CstKind.IsGroup (k : CstKind) : Prop :=
  k = .classBody ∨ k = .formalParameters ∨ k = .inferredParameters

namespace Cst

/-- What a grammar grants about a node: the parameters of a method or constructor
    are a list of formal parameters, and the body of a constant is that of a class. -/
structure RegularNode (c : Cst) : Prop where
  parameters {kind : NodeKind} {i : Nat} {list : Cst} : c.kind.callableKind? = some kind →
    c.childAt? .parameters = some (i, list) → list.kind = .formalParameters
  body {i : Nat} {body : Cst} : c.kind = .enumConstant →
    c.childAt? .body = some (i, body) → body.kind = .classBody

/-- All nodes of a program are as a grammar grants. -/
def Regular (program : Cst) : Prop :=
  ∀ {c : Cst}, c.Within program → c.RegularNode

instance (c : Cst) : Decidable c.RegularNode :=
  decidable_of_iff
    ((c.kind.callableKind?.isSome → ∀ p ∈ c.childAt? .parameters, p.2.kind = .formalParameters) ∧
      (c.kind = .enumConstant → ∀ p ∈ c.childAt? .body, p.2.kind = .classBody))
    ⟨fun h => ⟨fun hkind hlist => h.1 (by rw [hkind]; rfl) _ hlist, fun hkind hbody => h.2 hkind _ hbody⟩,
      fun h => ⟨fun hkind _ hlist => (Option.isSome_iff_exists.1 hkind).elim fun _ hkind =>
        h.parameters hkind hlist, fun hkind _ hbody => h.body hkind hbody⟩⟩

theorem regular_of_nodes {program : Cst} (h : ∀ c ∈ program.nodes, c.RegularNode) :
    program.Regular :=
  fun hc => h _ (mem_nodes_of_within hc)

/-- What a node declares surrounds its child number `i`. An anonymous class
    surrounds its body only, neither its arguments nor what it qualifies. -/
def Encloses (c : Cst) (i : Nat) : Prop :=
  c.kind = .objectCreation ∨ c.kind = .enumConstant → ∃ body, c.bodyAt? = some (i, body)

/-- A child that no step goes on with: a parameter of a catch clause; and if the
    node is declared, its modifiers, its lists of formal parameters, and what
    stands before the arrow of a lambda. -/
inductive Hides (c : Cst) (declared : Bool) (d : Cst) : Prop
  | caught : c.kind = .catchClause → d.kind = .catchParameter → Hides c declared d
  | modifiers : declared = true → c.kind.typeKind?.isSome ∨ c.kind.callableKind?.isSome ∨
      c.kind = .fieldDeclaration ∨ c.kind = .constantDeclaration → d.kind = .modifiers →
      Hides c declared d
  | parameters : declared = true → c.kind.typeKind?.isSome ∨ c.kind.callableKind?.isSome →
      d.kind = .formalParameters → Hides c declared d
  | lambda : declared = true → c.kind = .lambda → d.role ≠ some .body → Hides c declared d

/-- The address leads to a child, or to a child of a group among the children. -/
def Reaches (c : Cst) (a : Address) : Prop :=
  ∃ i d, c.children[i]? = some d ∧ (a = [i] ∨ ∃ j, a = [i, j] ∧ d.kind.IsGroup)

variable {c d e : Cst} {i j : Nat} {a b : Address} {skip : List CstKind}

theorem apart_of_children (hd : c.children[i]? = some d) (he : c.children[j]? = some e)
    (hne : d ≠ e) : Address.Apart (i :: a) (j :: b) := by
  refine Address.apart_cons_iff.2 (.inl fun hij => hne ?_)
  rw [hij, he] at hd
  exact (Option.some.inj hd).symm

/-- Between a node and a place that it reaches there is room for a group only. -/
theorem Reaches.group_above (h : c.Reaches a) (hle : b <+: a) (hnil : b ≠ []) (hne : b ≠ a) :
    ∃ d, c.at? b = some d ∧ d.kind.IsGroup := by
  obtain ⟨k, b, rfl⟩ := List.exists_cons_of_ne_nil hnil
  obtain ⟨i, d, hd, rfl | ⟨j, rfl, hgroup⟩⟩ := h
  · obtain ⟨rfl, hb⟩ := List.cons_prefix_cons.1 hle
    obtain rfl := List.prefix_nil.1 hb
    exact absurd rfl hne
  · obtain ⟨rfl, hb⟩ := List.cons_prefix_cons.1 hle
    cases b with
    | nil => exact ⟨d, at?_singleton.trans hd, hgroup⟩
    | cons l b =>
      obtain ⟨rfl, hrest⟩ := List.cons_prefix_cons.1 hb
      obtain rfl := List.prefix_nil.1 hrest
      exact absurd rfl hne

theorem pairwise_others : ((c.others skip).map Prod.fst).Pairwise Address.Apart :=
  List.pairwise_map.2 pairwise_childrenWhere

/-- The way to what a step goes on with never leads through a child that is skipped. -/
theorem kind_notMem_of_mem_others (h : (i :: a, e) ∈ c.others skip)
    (hd : c.children[i]? = some d) : d.kind ∉ skip := by
  obtain ⟨j, heq, he, -, hskip⟩ := mem_others.1 h
  obtain ⟨rfl, rfl⟩ := List.cons.inj heq
  obtain rfl := Option.some.inj (he.symm.trans hd)
  exact hskip

theorem encloses_of_kind (h₁ : c.kind ≠ .objectCreation) (h₂ : c.kind ≠ .enumConstant) :
    c.Encloses i :=
  fun h => absurd h (not_or.2 ⟨h₁, h₂⟩)

theorem RegularNode.kind_of_bodyAt? (hc : c.RegularNode) (h : c.bodyAt? = some (i, d)) :
    (c.kind = .objectCreation ∨ c.kind = .enumConstant) ∧ d.kind = .classBody := by
  unfold bodyAt? at h
  split at h
  · next hkind =>
    have hbody := (childWhere?_eq_some h).2
    exact ⟨.inl hkind, by simpa using hbody⟩
  · next hkind => exact ⟨.inr hkind, hc.body hkind h⟩
  · cases h

end Cst

namespace Yield

/-- The places that a step attaches declarations for or goes on with, its own left out. -/
def addresses (y : Yield) : List Address :=
  y.params.map Prod.fst ++ (y.around.map Prod.fst ++ y.inside.map Prod.fst)

theorem mem_addresses {y : Yield} {a : Address} : a ∈ y.addresses ↔
    (∃ decl, (a, decl) ∈ y.params) ∨ (∃ d, (a, d) ∈ y.around) ∨ ∃ d, (a, d) ∈ y.inside := by
  simp [addresses]

/-- How the places of a yield of the node `c` lie: they have nothing in common;
    parameters and what is inside belong to what the node declares, and what is
    around does not; only parameters are hidden. -/
structure Arranged (c : Cst) (y : Yield) : Prop where
  apart : y.addresses.Pairwise Address.Apart
  reaches {a : Address} : a ∈ y.addresses → c.Reaches a
  encloses_params {i : Nat} {rest : Address} {decl : Declaration} :
    y.own?.isSome → (i :: rest, decl) ∈ y.params → c.Encloses i
  encloses_inside {i : Nat} {rest : Address} {d : Cst} :
    (i :: rest, d) ∈ y.inside → c.Encloses i
  not_encloses_around {i : Nat} {rest : Address} {d : Cst} :
    y.own?.isSome → (i :: rest, d) ∈ y.around → ¬ c.Encloses i
  hides_params {i : Nat} {rest : Address} {decl : Declaration} {d : Cst} :
    (i :: rest, decl) ∈ y.params → c.children[i]? = some d → c.Hides y.own?.isSome d
  not_hides {i : Nat} {rest : Address} {d e : Cst} :
    (i :: rest, e) ∈ y.around ∨ (i :: rest, e) ∈ y.inside → c.children[i]? = some d →
      ¬ c.Hides y.own?.isSome d

end Yield

namespace Source

open Cst (pairwise_others mem_others apart_of_children)

variable {s : Source} {c d list : Cst} {y : Yield} {a : Address} {decl own : Declaration}
  {i : Nat} {skip : List CstKind} {pkind : ParamKind}

theorem pairwise_parametersIn :
    (s.parametersIn pkind list).Pairwise fun x y => Address.Apart x.1 y.1 :=
  Address.pairwise_choose Cst.pairwise_childrenWhere

theorem pairwise_parametersOfLambda :
    (s.parametersOfLambda list).Pairwise fun x y => Address.Apart x.1 y.1 := by
  unfold parametersOfLambda
  split
  · exact Address.pairwise_choose (List.pairwise_singleton _ _)
  · exact Address.pairwise_choose Cst.pairwise_childrenWhere
  · exact pairwise_parametersIn
  · exact List.Pairwise.nil

theorem pairwise_parametersBy {f : Cst → List (Address × Declaration)}
    (hf : ∀ list, (f list).Pairwise fun x y => Address.Apart x.1 y.1) :
    ((c.parametersBy f).map Prod.fst).Pairwise Address.Apart := by
  refine List.pairwise_map.2 ?_
  unfold Cst.parametersBy
  split
  · exact Address.pairwise_under (hf _)
  · exact List.Pairwise.nil

/-- The parameters of a lambda stand in a list of parameters, if there is not just one name. -/
theorem reaches_of_mem_parametersOfLambda (h : (a, decl) ∈ s.parametersOfLambda list) :
    a = [] ∨ (∃ j, a = [j]) ∧ list.kind.IsGroup := by
  unfold parametersOfLambda at h
  split at h
  · obtain ⟨name, hname, -⟩ := Address.mem_choose.1 h
    exact .inl (congrArg Prod.fst (List.mem_singleton.1 hname))
  · next hkind =>
    obtain ⟨name, hname, -⟩ := Address.mem_choose.1 h
    obtain ⟨j, rfl, -⟩ := Cst.mem_childrenWhere.1 hname
    exact .inr ⟨⟨j, rfl⟩, .inr (.inr hkind)⟩
  · next hkind =>
    obtain ⟨j, param, rfl, -⟩ := mem_parametersIn.1 h
    exact .inr ⟨⟨j, rfl⟩, .inr (.inl hkind)⟩
  · simp at h

/-- A node that declares nothing goes on with its children, parameters of catch clauses apart. -/
theorem arranged_around (hskip : c.kind = .catchClause → .catchParameter ∈ skip) :
    Yield.Arranged c { around := c.others skip } where
  apart := by
    change ([] ++ (_ ++ [])).Pairwise _
    rw [List.nil_append, List.append_nil]
    exact pairwise_others
  reaches {a} ha := by
    rcases Yield.mem_addresses.1 ha with ⟨_, hmem⟩ | ⟨d, hmem⟩ | ⟨_, hmem⟩
    · cases hmem
    · obtain ⟨i, rfl, hchild, -⟩ := mem_others.1 hmem
      exact ⟨i, d, hchild, .inl rfl⟩
    · cases hmem
  encloses_params h := nomatch h
  encloses_inside h := nomatch h
  not_encloses_around h := nomatch h
  hides_params h := nomatch h
  not_hides {i rest d e} h hd hhides := by
    have hkind := Cst.kind_notMem_of_mem_others (h.resolve_right List.not_mem_nil) hd
    cases hhides with
    | caught hc hd => exact hkind (hd ▸ hskip hc)
    | modifiers h | parameters h | lambda h => cases h

theorem arranged_catchClause (hc : c.kind = .catchClause) :
    Yield.Arranged c { params := (s.caughtParameter? c).toList, around := c.others [.catchParameter] } := by
  have haround : Yield.Arranged c { around := c.others [.catchParameter] } :=
    arranged_around fun _ => List.mem_singleton_self _
  cases hparam : s.caughtParameter? c with
  | none => exact haround
  | some param =>
    obtain ⟨a, decl⟩ := param
    obtain ⟨i, param, ident, rfl, hchild, -⟩ := caughtParameter?_eq_some hparam
    obtain ⟨hchild, hkind⟩ := Cst.childWhere?_eq_some hchild
    have hkind : param.kind = .catchParameter := by simpa using hkind
    exact {
      apart := by
        refine List.pairwise_cons.2 ⟨fun a ha => ?_, haround.apart⟩
        have haddress : a ∈ (c.others [.catchParameter]).map Prod.fst ++ [] := ha
        rw [List.append_nil] at haddress
        obtain ⟨⟨b, d⟩, hmem, rfl⟩ := List.mem_map.1 haddress
        obtain ⟨j, rfl, hd, -, hskip⟩ := mem_others.1 hmem
        exact apart_of_children hchild hd fun heq => hskip (by simp [← heq, hkind])
      reaches := fun {a} ha => by
        rcases List.mem_cons.1 ha with rfl | ha
        · exact ⟨i, param, hchild, .inl rfl⟩
        · exact haround.reaches ha
      encloses_params := nofun
      encloses_inside := nofun
      not_encloses_around := nofun
      hides_params := fun {j rest decl d} hmem hd => by
        obtain ⟨heq, -⟩ := Prod.mk.inj (List.mem_singleton.1 hmem)
        obtain ⟨rfl, -⟩ := List.cons.inj heq
        obtain rfl := Option.some.inj (hchild.symm.trans hd)
        exact .caught hc hkind
      not_hides := haround.not_hides }

/-- The yields of types, methods, constructors and fields. -/
theorem arranged_inside {params : List (Address × Declaration)}
    (hkind : c.kind ≠ .catchClause ∧ c.kind ≠ .lambda ∧ c.kind ≠ .objectCreation ∧
      c.kind ≠ .enumConstant)
    (hmodifiers : .modifiers ∈ skip)
    (hlists : c.kind.typeKind?.isSome ∨ c.kind.callableKind?.isSome → .formalParameters ∈ skip)
    (happart : (params.map Prod.fst).Pairwise Address.Apart)
    (hparams : ∀ {a decl}, (a, decl) ∈ params → ∃ i list j, a = [i, j] ∧
      c.children[i]? = some list ∧ list.kind = .formalParameters ∧ c.kind.callableKind?.isSome) :
    Yield.Arranged c { own? := some own, params, inside := c.others skip } where
  apart := by
    refine List.pairwise_append.2 ⟨happart, pairwise_others, fun a ha b hb => ?_⟩
    -- parameters stand in a list, and lists are skipped
    obtain ⟨⟨a, decl⟩, hmem, rfl⟩ := List.mem_map.1 ha
    obtain ⟨⟨b, d⟩, hother, rfl⟩ := List.mem_map.1 hb
    obtain ⟨i, list, j, rfl, hlist, hlkind, hcallable⟩ := hparams hmem
    obtain ⟨k, rfl, hd, -, hskip⟩ := mem_others.1 hother
    exact apart_of_children hlist hd fun heq => hskip (heq ▸ hlkind ▸ hlists (.inr hcallable))
  reaches {a} ha := by
    rcases Yield.mem_addresses.1 ha with ⟨_, hmem⟩ | ⟨_, hmem⟩ | ⟨d, hmem⟩
    · obtain ⟨i, list, j, rfl, hlist, hlkind, -⟩ := hparams hmem
      exact ⟨i, list, hlist, .inr ⟨j, rfl, .inr (.inl hlkind)⟩⟩
    · cases hmem
    · obtain ⟨i, rfl, hd, -⟩ := mem_others.1 hmem
      exact ⟨i, d, hd, .inl rfl⟩
  encloses_params _ _ := Cst.encloses_of_kind hkind.2.2.1 hkind.2.2.2
  encloses_inside _ := Cst.encloses_of_kind hkind.2.2.1 hkind.2.2.2
  not_encloses_around _ h := nomatch h
  hides_params {i rest decl d} hmem hd := by
    obtain ⟨i', list, j, heq, hlist, hlkind, hcallable⟩ := hparams hmem
    obtain ⟨rfl, -⟩ := List.cons.inj heq
    obtain rfl := Option.some.inj (hlist.symm.trans hd)
    exact .parameters rfl (.inr hcallable) hlkind
  not_hides {i rest d e} h hd hhides := by
    have hskip := Cst.kind_notMem_of_mem_others (h.resolve_left List.not_mem_nil) hd
    cases hhides with
    | caught hc => exact hkind.1 hc
    | modifiers _ _ hd => exact hskip (hd ▸ hmodifiers)
    | parameters _ hc hd => exact hskip (hd ▸ hlists hc)
    | lambda _ hc => exact hkind.2.1 hc

theorem arranged_anonymousClass (hc : c.RegularNode) (hbody : c.bodyAt? = some (i, d)) :
    Yield.Arranged c {
      own? := some own
      around := c.others [.classBody]
      inside := Address.under [i] (d.others []) } := by
  obtain ⟨hkind, hdkind⟩ := hc.kind_of_bodyAt? hbody
  have hd := Cst.getElem?_of_bodyAt? hbody
  have haround : ∀ {a e}, (a, e) ∈ c.others [.classBody] →
      ∃ j, a = [j] ∧ c.children[j]? = some e ∧ d ≠ e := by
    intro a e hmem
    obtain ⟨j, rfl, he, -, hskip⟩ := mem_others.1 hmem
    exact ⟨j, rfl, he, fun heq => hskip (by simp [← heq, hdkind])⟩
  have hinside : ∀ {a e}, (a, e) ∈ Address.under [i] (d.others []) → ∃ j, a = [i, j] := by
    intro a e hmem
    obtain ⟨b, rfl, hbelow⟩ := Address.mem_under.1 hmem
    obtain ⟨j, rfl, -⟩ := mem_others.1 hbelow
    exact ⟨j, rfl⟩
  exact {
    apart := by
      change ([] ++ (_ ++ _)).Pairwise _
      rw [List.nil_append]
      refine List.pairwise_append.2 ⟨pairwise_others,
        List.pairwise_map.2 (Address.pairwise_under Cst.pairwise_childrenWhere), fun a ha b hb => ?_⟩
      obtain ⟨⟨a, e⟩, hmem, rfl⟩ := List.mem_map.1 ha
      obtain ⟨⟨b, e'⟩, hmem', rfl⟩ := List.mem_map.1 hb
      obtain ⟨j, rfl, he, hne⟩ := haround hmem
      obtain ⟨k, rfl⟩ := hinside hmem'
      exact apart_of_children he hd hne.symm
    reaches := fun {a} ha => by
      rcases Yield.mem_addresses.1 ha with ⟨_, hmem⟩ | ⟨e, hmem⟩ | ⟨_, hmem⟩
      · cases hmem
      · obtain ⟨j, rfl, he, -⟩ := haround hmem
        exact ⟨j, e, he, .inl rfl⟩
      · obtain ⟨j, rfl⟩ := hinside hmem
        exact ⟨i, d, hd, .inr ⟨j, rfl, .inl hdkind⟩⟩
    encloses_params := nofun
    encloses_inside := fun {j rest e} hmem _ => by
      obtain ⟨k, heq⟩ := hinside hmem
      obtain ⟨rfl, -⟩ := List.cons.inj heq
      exact ⟨d, hbody⟩
    not_encloses_around := fun {j rest e} _ hmem hencloses => by
      obtain ⟨k, heq, he, hne⟩ := haround hmem
      obtain ⟨rfl, -⟩ := List.cons.inj heq
      obtain ⟨body, hbody'⟩ := hencloses hkind
      obtain ⟨rfl, -⟩ := Prod.mk.inj (Option.some.inj (hbody.symm.trans hbody'))
      exact hne (Option.some.inj (hd.symm.trans he))
    hides_params := nofun
    not_hides := fun _ _ hhides => by
      cases hhides with
      | caught h => rcases hkind with hkind | hkind <;> simp [hkind] at h
      | modifiers _ h =>
        rcases hkind with hkind | hkind <;>
          simp [hkind, CstKind.typeKind?, CstKind.callableKind?] at h
      | parameters _ h =>
        rcases hkind with hkind | hkind <;>
          simp [hkind, CstKind.typeKind?, CstKind.callableKind?] at h
      | lambda _ h => rcases hkind with hkind | hkind <;> simp [hkind] at h }

theorem arranged_lambda (hc : c.kind = .lambda) :
    Yield.Arranged c {
      own? := some own
      params := c.parametersBy s.parametersOfLambda
      inside := ((c.childAt? .body).map fun p => ([p.1], p.2)).toList } := by
  have hparams : ∀ {a decl}, (a, decl) ∈ c.parametersBy s.parametersOfLambda →
      ∃ i list rest, a = i :: rest ∧ c.children[i]? = some list ∧ list.role = some .parameters ∧
        (rest = [] ∨ (∃ j, rest = [j]) ∧ list.kind.IsGroup) := by
    intro a decl hmem
    obtain ⟨i, list, b, hlist, rfl, hlisted⟩ := exists_of_mem_parametersBy hmem
    obtain ⟨hlist, hrole⟩ := Cst.childWhere?_eq_some hlist
    exact ⟨i, list, b, rfl, hlist, by simpa using hrole, reaches_of_mem_parametersOfLambda hlisted⟩
  have hinside : ∀ {a d}, (a, d) ∈ ((c.childAt? .body).map fun p => ([p.1], p.2)).toList →
      ∃ i, a = [i] ∧ c.children[i]? = some d ∧ d.role = some .body := by
    intro a d hmem
    obtain ⟨⟨i, body⟩, hbody, heq⟩ := Option.map_eq_some_iff.1 (Option.mem_toList.1 hmem)
    obtain ⟨rfl, rfl⟩ := Prod.mk.inj heq
    obtain ⟨hbody, hrole⟩ := Cst.childWhere?_eq_some hbody
    exact ⟨i, rfl, hbody, by simpa using hrole⟩
  have hencloses : ∀ {i}, c.Encloses i :=
    Cst.encloses_of_kind (by rw [hc]; nofun) (by rw [hc]; nofun)
  exact {
    apart := by
      refine List.pairwise_append.2 ⟨pairwise_parametersBy fun _ => pairwise_parametersOfLambda, ?_,
        fun a ha b hb => ?_⟩
      · cases c.childAt? .body with
        | none => exact List.Pairwise.nil
        | some found => exact List.pairwise_singleton _ _
      · obtain ⟨⟨a, decl⟩, hmem, rfl⟩ := List.mem_map.1 ha
        obtain ⟨⟨b, d⟩, hmem', rfl⟩ := List.mem_map.1 hb
        obtain ⟨i, list, rest, rfl, hlist, hrole, -⟩ := hparams hmem
        obtain ⟨j, rfl, hd, hrole'⟩ := hinside hmem'
        -- a child has one role, so the body is no list of parameters
        refine apart_of_children hlist hd fun heq => ?_
        rw [heq, hrole'] at hrole
        cases hrole
    reaches := fun {a} ha => by
      rcases Yield.mem_addresses.1 ha with ⟨_, hmem⟩ | ⟨_, hmem⟩ | ⟨d, hmem⟩
      · obtain ⟨i, list, rest, rfl, hlist, -, rfl | ⟨⟨j, rfl⟩, hgroup⟩⟩ := hparams hmem
        · exact ⟨i, list, hlist, .inl rfl⟩
        · exact ⟨i, list, hlist, .inr ⟨j, rfl, hgroup⟩⟩
      · cases hmem
      · obtain ⟨i, rfl, hd, -⟩ := hinside hmem
        exact ⟨i, d, hd, .inl rfl⟩
    encloses_params := fun _ _ => hencloses
    encloses_inside := fun _ => hencloses
    not_encloses_around := nofun
    hides_params := fun {i rest decl d} hmem hd => by
      obtain ⟨i', list, rest', heq, hlist, hrole, -⟩ := hparams hmem
      obtain ⟨rfl, -⟩ := List.cons.inj heq
      obtain rfl := Option.some.inj (hlist.symm.trans hd)
      exact .lambda rfl hc (by rw [hrole]; nofun)
    not_hides := fun {i rest d e} h hd hhides => by
      obtain ⟨j, heq, hchild, hrole⟩ := hinside (h.resolve_left List.not_mem_nil)
      obtain ⟨rfl, -⟩ := List.cons.inj heq
      obtain rfl := Option.some.inj (hchild.symm.trans hd)
      cases hhides with
      | caught h => simp [hc] at h
      | modifiers _ h => simp [hc, CstKind.typeKind?, CstKind.callableKind?] at h
      | parameters _ h => simp [hc, CstKind.typeKind?, CstKind.callableKind?] at h
      | lambda _ _ h => exact h hrole }

/-- The yields of regular nodes are arranged. -/
theorem Yields.arranged (h : s.Yields c y) (hc : c.RegularNode) : y.Arranged c := by
  have hparams : ∀ {kind : NodeKind}, c.kind.callableKind? = some kind → ∀ {a decl},
      (a, decl) ∈ c.parametersBy (s.parametersIn .formal) → ∃ i list j, a = [i, j] ∧
        c.children[i]? = some list ∧ list.kind = .formalParameters ∧
          c.kind.callableKind?.isSome := by
    intro kind hkind a decl hmem
    obtain ⟨i, list, b, hlist, rfl, hlisted⟩ := exists_of_mem_parametersBy hmem
    obtain ⟨j, param, rfl, -⟩ := mem_parametersIn.1 hlisted
    exact ⟨i, list, j, rfl, (Cst.childWhere?_eq_some hlist).1, hc.parameters hkind hlist,
      by rw [hkind]; rfl⟩
  cases h with
  | pass hkind => exact arranged_around fun h => absurd h hkind
  | typeDeclaration hkind _ =>
    refine arranged_inside ⟨?_, ?_, ?_, ?_⟩ (by simp) (fun _ => by simp) List.Pairwise.nil nofun
    all_goals
      intro h
      rw [h] at hkind
      cases hkind
  | callable hkind _ =>
    refine arranged_inside ⟨?_, ?_, ?_, ?_⟩ (by simp) (fun _ => by simp)
      (pairwise_parametersBy fun _ => pairwise_parametersIn) (hparams hkind)
    all_goals
      intro h
      rw [h] at hkind
      cases hkind
  | field hkind _ =>
    have hplain : c.kind.typeKind? = none ∧ c.kind.callableKind? = none := by
      rcases hkind with hkind | hkind <;> rw [hkind] <;> exact ⟨rfl, rfl⟩
    refine arranged_inside ?_ (by simp) ?_ List.Pairwise.nil nofun
    · rcases hkind with hkind | hkind <;> simp [hkind]
    · -- fields have no lists of formal parameters that could be skipped
      simp [hplain]
  | anonymousClass hbody _ => exact arranged_anonymousClass hc hbody
  | catchClause hkind => exact arranged_catchClause hkind
  | lambda hkind => exact arranged_lambda hkind

end Source

end JavaLint.Java
