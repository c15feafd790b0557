import JavaLint.Proofs.Regex.Groups
/-!
# Reading alternatives

Alternatives end at the end of the text or at a closing parenthesis, and it
makes no difference at which. The one thing that does make a difference is a
comment that goes on to the end of the text.

## Main statements

- `Read.exact_alternatives` — alternatives are exact
- `Read.alternatives_succ_eq` — the bound of alternatives does not matter
-/

namespace JavaLint.Regex.Read

variable {r r' : Reader} {x : List Char}

/-- An escape is exact together with what follows it, provided that what follows
    a word boundary does not accept an opening brace that is left alone. -/
theorem taking_escape_bind {β : Type} {f : Ast → Read β} (hf : ∀ a, Exact (f a))
    (hbrace : ∀ ⦃r b t x⦄, Closing x → EndsIn '\x7b' r →
      f (.assertion .wordBoundary) (r.append x) = .ok (b, t) → t.rest.length < x.length) :
    Taking (escape >>= f) where
  shorter := by
    intro r b r' hne h
    obtain ⟨a, t, hescape, hf'⟩ := bind_eq_ok_iff.1 h
    exact ((hf a).shrinks hf').trans (escape_shorter hne hescape)
  forth := by
    intro r b r' hne h
    obtain ⟨a, t, hescape, hf'⟩ := bind_eq_ok_iff.1 h
    exact (escape_carries hne hescape).bind hf' ((hf a).forth hf') fun a => (hf a).shrinks
  back := by
    intro r b r' x hne hx h
    obtain ⟨a, t, hescape, hf'⟩ := bind_eq_ok_iff.1 h
    obtain ⟨r₁, rfl, -⟩ :=
      Reader.exists_eq_append (localBut_escape.shrinks hescape) ((hf a).shrinks hf')
    rcases escape_back hne hx hescape with hescape | ⟨rfl, hend⟩
    · exact bind_eq_ok_iff.2 ⟨a, r₁, hescape, (hf a).back hx hf'⟩
    · have hlt := hbrace hx hend hf'
      rw [Reader.append_rest, List.length_append] at hlt
      omega

/-- Alternatives do not go on at an opening brace that a word boundary leaves alone. -/
theorem alternatives_of_endsIn_brace {fuel : Nat} {branches items : List Ast} {ast : Ast}
    (hrest : ∀ n < fuel, ∀ branches items, Exact (alternatives n branches items))
    (hx : Closing x) (hend : EndsIn '\x7b' r)
    (h : alternatives fuel branches (.assertion .wordBoundary :: items) (r.append x) =
      .ok (ast, r')) : r'.rest.length < x.length := by
  rcases fuel with _ | fuel
  · rw [alternatives] at h
    exact absurd h throw_ne_ok
  have hhead := head?_append hend.1 x
  rw [alternatives, bind_eq_of_eq_ok (skip_of_head? hhead (by decide) (by decide)), peek?_bind,
    hhead] at h
  obtain ⟨p, t, hitem, h⟩ := bind_eq_ok_iff.1 h
  obtain ⟨rfl, rfl⟩ := pure_eq_ok_iff.1 hitem
  obtain ⟨bounds, t, hcounts, h⟩ := bind_eq_ok_iff.1 h
  exact Nat.lt_of_le_of_lt ((hrest fuel (Nat.lt_succ_self fuel) _ _).shrinks h).length_le
    (counts_of_endsIn_brace hx hend hcounts)

/-- For alternatives, a closing parenthesis is as good as the end of the text. -/
theorem exact_alternatives (fuel : Nat) (branches items : List Ast) :
    Exact (alternatives fuel branches items) := by
  induction fuel using Nat.strong_induction_on generalizing branches items with
  | _ fuel ih =>
    rcases fuel with _ | fuel
    · rw [alternatives]
      exact exact_throw _
    have hrest := ih fuel (Nat.lt_succ_self fuel)
    have hrepetition : ∀ least most,
        Taking (alternatives.repetition fuel branches items least most) := by
      intro least most
      rw [alternatives.repetition]
      refine taking_repeated_bind items fun p => taking_bump.bind fun _ => ?_
      exact exact_lazyMark.bind fun _ => hrest _ _
    rw [alternatives]
    refine exact_skip.bind fun _ => Exact.peek_bind rfl (exact_pure _) fun c hc => .inr ?_
    dsimp only
    -- the cases follow the next character, which is no closing parenthesis
    split
    · next h => cases h
    · next h => exact absurd (Option.some.inj h) hc
    · exact taking_bump.bind fun _ => hrest _ _
    · -- a group must be closed, so the alternatives in it need not be more than local
      refine taking_groupOpening.bind fun opening => ?_
      split
      · exact (exact_setVerbose _).bind fun _ => hrest _ _
      · next set =>
        refine Exact.choose (fun r => r.verbose) (fun r x _ => rfl) (f := fun outer => do
          setVerbose set
          let inner ← alternatives fuel [] []
          closeGroup outer
          alternatives fuel branches (.group set inner :: items)) fun outer => ?_
        refine (exact_setVerbose set).bind fun _ => Demanding.exact ?_
        refine Demanding.of_local (hrest _ _).localBut fun inner => ?_
        exact (demanding_closeGroup outer).bind fun _ => hrest _ _
    · refine (Demanding.of_local local_classOpening fun opening => ?_).toTaking
      exact (demanding_classBody _ _ _).bind fun set => hrest _ _
    · exact hrepetition _ _
    · exact hrepetition _ _
    · exact hrepetition _ _
    · refine taking_repeated_bind items fun p => taking_counts.bind fun bounds => hrest _ _
    · refine taking_escape_bind (fun item => hrest _ _) fun r b t x hx hend h => ?_
      exact alternatives_of_endsIn_brace (fun n hn => ih n (Nat.lt_succ_of_lt hn)) hx hend h
    · exact taking_bump.bind fun _ => hrest _ _
    · exact taking_bump.bind fun _ => hrest _ _
    · exact taking_bump.bind fun _ => hrest _ _
    · exact taking_bump.bind fun _ => hrest _ _

/-- The two steps do the same at `r`. -/
def SameAt {α : Type} (r : Reader) (m m' : Read α) : Prop :=
  m r = m' r

theorem SameAt.bind {α β : Type} {m : Read α} {f f' : α → Read β}
    (h : ∀ ⦃a t⦄, m r = .ok (a, t) → SameAt t (f a) (f' a)) : SameAt r (m >>= f) (m >>= f') :=
  bind_congr_of_eq_ok h

theorem SameAt.bump_bind {α : Type} {f f' : Unit → Read α} (hne : r.rest ≠ [])
    (h : ∀ ⦃t : Reader⦄, t.rest.length < r.rest.length → SameAt t (f ()) (f' ())) :
    SameAt r (bump >>= f) (bump >>= f') :=
  SameAt.bind fun _ _ hbump => h (taking_bump.length_lt hne hbump)

/-- Alternatives with the two bounds do the same where less text is left than at `t`. -/
def AgreeBelow (fuel : Nat) (t : Reader) : Prop :=
  ∀ ⦃u : Reader⦄, u.rest.length < t.rest.length → ∀ branches items,
    SameAt u (alternatives (fuel + 1) branches items) (alternatives fuel branches items)

namespace AgreeBelow

variable {fuel : Nat} {t : Reader} {branches items : List Ast}

theorem repetition (h : AgreeBelow fuel t) (hne : t.rest ≠ []) (least : Nat) (most : Option Nat) :
    SameAt t (alternatives.repetition (fuel + 1) branches items least most)
      (alternatives.repetition fuel branches items least most) := by
  rw [alternatives.repetition, alternatives.repetition]
  rcases repeated_eq items with ⟨e, heq⟩ | ⟨item, rest, heq⟩
  · -- there is nothing to repeat, whatever the bound
    rw [heq]
    rfl
  · rw [heq, pure_bind, pure_bind]
    refine SameAt.bump_bind hne fun u hu => ?_
    refine SameAt.bind (m := lazyMark) fun _ v hmark => h ?_ _ _
    exact Nat.lt_of_le_of_lt (exact_lazyMark.shrinks hmark).length_le hu

theorem countedRepetition (h : AgreeBelow fuel t) (hne : t.rest ≠ []) :
    SameAt t
      (do
        let (item, rest) ← repeated items
        let (least, most) ← counts
        alternatives (fuel + 1) branches (.repetition item least most :: rest))
      (do
        let (item, rest) ← repeated items
        let (least, most) ← counts
        alternatives fuel branches (.repetition item least most :: rest)) := by
  rcases repeated_eq items with ⟨e, heq⟩ | ⟨item, rest, heq⟩
  · rw [heq]
    rfl
  · rw [heq, pure_bind, pure_bind]
    refine SameAt.bind fun bounds u hcounts => h ?_ _ _
    exact taking_counts.length_lt hne hcounts

/-- The alternatives in a group and those after it are both read from less text. -/
theorem group {u : Reader} (h : AgreeBelow fuel t) (hu : u.rest.length < t.rest.length)
    (set : List FlagItem) :
    SameAt u
      (do
        let outer := (← get).verbose
        setVerbose set
        let inner ← alternatives (fuel + 1) [] []
        closeGroup outer
        alternatives (fuel + 1) branches (.group set inner :: items))
      (do
        let outer := (← get).verbose
        setVerbose set
        let inner ← alternatives fuel [] []
        closeGroup outer
        alternatives fuel branches (.group set inner :: items)) := by
  refine SameAt.bind (m := get) fun outer v hget => ?_
  obtain rfl : u = v := (Prod.mk.inj (Except.ok.inj hget)).2
  refine SameAt.bind fun _ v hset => ?_
  have hv := Nat.lt_of_le_of_lt ((exact_setVerbose set).shrinks hset).length_le hu
  refine (bind_congr_fst (h hv [] []) _).trans (SameAt.bind fun inner w hinner => ?_)
  have hw := Nat.lt_of_le_of_lt ((exact_alternatives _ _ _).shrinks hinner).length_le hv
  refine SameAt.bind fun _ z hclose => h ?_ _ _
  exact Nat.lt_trans ((demanding_closeGroup _).length_lt hclose) hw

end AgreeBelow

/-- The bound of alternatives does not matter if it exceeds the length of the text. -/
theorem alternatives_succ_eq {fuel : Nat} (h : r.rest.length < fuel) (branches items : List Ast) :
    alternatives (fuel + 1) branches items r = alternatives fuel branches items r := by
  induction fuel generalizing r branches items with
  | zero => exact absurd h (Nat.not_lt_zero _)
  | succ fuel ih =>
    rw [alternatives.eq_2 branches items (fuel + 1), alternatives.eq_2 branches items fuel]
    refine bind_congr_of_eq_ok fun _ t hskip => ?_
    have ht := Nat.lt_of_le_of_lt (exact_skip.shrinks hskip).length_le h
    -- each step takes a character before it goes on, which the induction is on
    have hrest : AgreeBelow fuel t := fun u hu => ih (Nat.lt_of_lt_of_le hu (Nat.le_of_lt_succ ht))
    rw [peek?_bind, peek?_bind]
    change SameAt t _ _
    rcases hnext : t.rest.head? with _ | c
    · rfl
    have hne := ne_nil_of_head? hnext
    rw [← hnext]
    split
    · rfl
    · rfl
    · exact SameAt.bump_bind hne fun u hu => hrest hu _ _
    · refine SameAt.bind fun opening u hopening => ?_
      have hu := taking_groupOpening.length_lt hne hopening
      split
      · refine SameAt.bind fun _ v hset => hrest ?_ _ _
        exact Nat.lt_of_le_of_lt ((exact_setVerbose _).shrinks hset).length_le hu
      · next set => exact hrest.group hu set
    · refine SameAt.bind fun opening u hopening => ?_
      have hu := classOpening_length_lt hne hopening
      have hclass : classBody (fuel + 1) none opening.2 u = classBody fuel none opening.2 u :=
        classBody_succ_eq (Nat.le_of_lt_succ (Nat.lt_trans hu ht)) none opening.2
      show (classBody (fuel + 1) none opening.2 >>= _) u = (classBody fuel none opening.2 >>= _) u
      rw [bind_congr_fst hclass]
      refine bind_congr_of_eq_ok fun set v hset => hrest ?_ _ _
      exact Nat.lt_trans ((demanding_classBody _ _ _).length_lt hset) hu
    · exact hrest.repetition hne _ _
    · exact hrest.repetition hne _ _
    · exact hrest.repetition hne _ _
    · exact hrest.countedRepetition hne
    · refine SameAt.bind fun item u hescape => hrest ?_ _ _
      have hle := (escape_shorter hne hescape).length_le
      have hpos := List.length_pos_iff.2 hne
      rw [List.length_tail] at hle
      omega
    · exact SameAt.bump_bind hne fun u hu => hrest hu _ _
    · exact SameAt.bump_bind hne fun u hu => hrest hu _ _
    · exact SameAt.bump_bind hne fun u hu => hrest hu _ _
    · exact SameAt.bump_bind hne fun u hu => hrest hu _ _

end JavaLint.Regex.Read
