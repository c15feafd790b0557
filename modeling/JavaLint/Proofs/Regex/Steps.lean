import JavaLint.Proofs.Regex.Suffix
/-!
# The single steps of the reader

Which of the steps that the reader of regular expressions is made of are local,
exact or demanding.

## Main statements

- `Read.exact_skip` — blanks and comments
- `Read.Demanding.need_bind`, `Read.Exact.peek_bind` — looking at the next character
- `Read.Local.sized` — loops with a bound that is the length of the text
-/

namespace JavaLint.Regex

namespace Read

variable {α β : Type} {m : Read α} {f : α → Read β} {E : α → Reader → Prop}

/-! ## Blanks and comments -/

theorem dropLine_suffix (cs : List Char) : dropLine cs <:+ cs := by
  induction cs with
  | nil => exact List.suffix_rfl
  | cons c cs ih =>
    rw [dropLine]
    split
    · exact List.suffix_cons c cs
    · exact ih.trans (List.suffix_cons c cs)

theorem dropLine_append {cs : List Char} (h : '\n' ∈ cs) (x : List Char) :
    dropLine (cs ++ x) = dropLine cs ++ x := by
  induction cs with
  | nil => exact absurd h List.not_mem_nil
  | cons c cs ih =>
    rw [List.cons_append, dropLine, dropLine]
    split
    · rfl
    · next hc => exact ih ((List.mem_cons.1 h).resolve_left fun h => hc h.symm)

theorem dropLine_append_of_notMem {cs : List Char} (h : '\n' ∉ cs) (x : List Char) :
    dropLine (cs ++ x) = dropLine x := by
  induction cs with
  | nil => rfl
  | cons c cs ih =>
    obtain ⟨hc, hcs⟩ := not_or.1 (mt List.mem_cons.2 h)
    rw [List.cons_append, dropLine, if_neg fun h => hc h.symm, ih hcs]

theorem dropLine_eq_nil {cs : List Char} (h : '\n' ∉ cs) : dropLine cs = [] := by
  have happend := dropLine_append_of_notMem h []
  rwa [List.append_nil] at happend

theorem dropVerbose_suffix (fuel : Nat) (cs : List Char) : dropVerbose fuel cs <:+ cs := by
  fun_induction dropVerbose fuel cs with
  | case1 cs => exact List.suffix_rfl
  | case2 => exact List.suffix_rfl
  | case3 fuel c cs hblank ih => exact ih.trans (List.suffix_cons c cs)
  | case4 fuel cs hblank ih =>
    exact ih.trans ((dropLine_suffix cs).trans (List.suffix_cons _ cs))
  | case5 => exact List.suffix_rfl

theorem dropVerbose_of_length_le {fuel more : Nat} {cs : List Char} (h : cs.length ≤ fuel)
    (hle : fuel ≤ more) : dropVerbose more cs = dropVerbose fuel cs := by
  -- each step takes a character or more, so the smaller bound lasts as well
  induction more generalizing fuel cs with
  | zero =>
    obtain rfl := Nat.le_zero.1 hle
    rfl
  | succ more ih =>
    rcases cs with _ | ⟨c, cs⟩
    · cases fuel <;> rfl
    · obtain ⟨fuel, rfl⟩ := Nat.exists_eq_succ_of_ne_zero (Nat.ne_zero_of_lt h)
      have hcs := Nat.le_of_succ_le_succ h
      have hle := Nat.le_of_succ_le_succ hle
      have hline := (dropLine_suffix cs).length_le.trans hcs
      rw [dropVerbose, dropVerbose, ih hcs hle, ih hline hle]

/-- The text without leading blanks and comments. -/
def afterBlanks (cs : List Char) : List Char :=
  dropVerbose cs.length cs

theorem afterBlanks_cons (c : Char) (cs : List Char) :
    afterBlanks (c :: cs) = if Text.isBlank c then afterBlanks cs
      else if c = '#' then afterBlanks (dropLine cs) else c :: cs := by
  unfold afterBlanks
  rw [List.length_cons, dropVerbose,
    dropVerbose_of_length_le (Nat.le_refl _) (dropLine_suffix cs).length_le]

theorem afterBlanks_suffix (cs : List Char) : afterBlanks cs <:+ cs :=
  dropVerbose_suffix _ cs

theorem afterBlanks_closing {x : List Char} (h : Closing x) : afterBlanks x = x := by
  obtain ⟨y, rfl⟩ := h
  rw [afterBlanks_cons, if_neg (by decide), if_neg (by decide)]

/-- What follows a text keeps its place after the blanks and comments of the
    text, or else the text ends in a comment. -/
theorem afterBlanks_append (cs : List Char) :
    (∀ ⦃x⦄, Closing x → afterBlanks (cs ++ x) = afterBlanks cs ++ x) ∨
      (afterBlanks cs = [] ∧ ∀ ⦃x⦄, Closing x → ('\n' ∉ x → afterBlanks (cs ++ x) = []) ∧
        (afterBlanks (cs ++ x)).length < x.length) := by
  -- a comment drops a line at once, so the induction is on the length
  induction hn : cs.length using Nat.strong_induction_on generalizing cs with
  | _ n ih =>
    subst hn
    rcases cs with _ | ⟨c, cs⟩
    · exact .inl fun x hx => afterBlanks_closing hx
    · simp only [List.cons_append, afterBlanks_cons]
      split
      · exact ih _ (Nat.lt_succ_self _) cs rfl
      split
      · by_cases hline : '\n' ∈ cs
        · simp only [dropLine_append hline]
          exact ih _ (Nat.lt_succ_of_le (dropLine_suffix cs).length_le) _ rfl
        · -- the comment goes on in what follows
          refine .inr ⟨?_, fun x hx => ?_⟩
          · rw [dropLine_eq_nil hline]
            rfl
          · rw [dropLine_append_of_notMem hline]
            obtain ⟨y, rfl⟩ := hx
            constructor
            · intro hx
              rw [dropLine_eq_nil hx]
              rfl
            · rw [dropLine, if_neg (by decide)]
              have hsuffix := (afterBlanks_suffix (dropLine y)).trans (dropLine_suffix y)
              exact Nat.lt_succ_of_le hsuffix.length_le
      · exact .inl fun x _ => rfl

theorem skip_eq (r : Reader) :
    skip r = .ok ((), if r.verbose then { r with rest := afterBlanks r.rest } else r) := rfl

theorem exact_skip : Exact skip where
  shrinks := by
    intro r _ r' h
    rw [skip_eq] at h
    obtain rfl := (Prod.mk.inj (Except.ok.inj h)).2
    split
    · exact afterBlanks_suffix r.rest
    · exact List.suffix_rfl
  forth := by
    intro r _ r' h
    rw [skip_eq] at h
    obtain rfl := (Prod.mk.inj (Except.ok.inj h)).2
    by_cases hv : r.verbose = true
    · simp only [if_pos hv]
      -- outside a comment the blanks end where they did, in a comment all is swallowed
      rcases afterBlanks_append r.rest with hsame | ⟨hnil, hswallowed⟩
      · refine .inl fun x hx => ?_
        simp only [skip_eq, Reader.append_verbose, if_pos hv, Reader.append_rest, hsame hx]
        rfl
      · refine .inr ⟨hnil, fun x hx hline => ?_, fun x _ t hx ht => ?_⟩
        · simp only [skip_eq, Reader.append_verbose, if_pos hv, Reader.append_rest,
            (hswallowed hx).1 hline, hnil]
          rfl
        · rw [skip_eq, Reader.append_verbose, if_pos hv] at ht
          obtain rfl := (Prod.mk.inj (Except.ok.inj ht)).2
          exact (hswallowed hx).2
    · simp only [if_neg hv]
      refine .inl fun x _ => ?_
      rw [skip_eq, Reader.append_verbose, if_neg hv]
  back := by
    intro r _ r' x hx h
    rw [skip_eq, Reader.append_verbose] at h
    have heq := (Prod.mk.inj (Except.ok.inj h)).2
    rw [skip_eq]
    by_cases hv : r.verbose = true
    · rw [if_pos hv] at heq ⊢
      rcases afterBlanks_append r.rest with hsame | ⟨-, hswallowed⟩
      · rw [Reader.append_rest, hsame hx] at heq
        obtain rfl : { r with rest := afterBlanks r.rest } = r' := Reader.append_injective heq
        rfl
      · -- a comment that goes on takes something of what follows
        have hlt := (hswallowed hx).2
        have hrest := congrArg (fun t => t.rest.length) heq
        simp only [Reader.append_rest, List.length_append] at hrest
        omega
    · rw [if_neg hv] at heq ⊢
      rw [Reader.append_injective heq]

theorem local_skip : Local skip :=
  exact_skip.localBut

/-! ## The next character -/

theorem bump_eq (r : Reader) : bump r = .ok ((), { r with rest := r.rest.tail }) := rfl

theorem taking_bump : Taking bump where
  shorter := by
    intro r _ r' _ h
    obtain rfl := (Prod.mk.inj (Except.ok.inj h)).2
    exact List.suffix_rfl
  forth := by
    intro r _ r' hne h
    obtain rfl := (Prod.mk.inj (Except.ok.inj h)).2
    refine .inl fun x _ => ?_
    simp only [bump_eq, Reader.append_rest, List.tail_append_of_ne_nil hne]
    rfl
  back := by
    intro r _ r' x hne hx h
    rw [bump_eq] at h
    have heq := (Prod.mk.inj (Except.ok.inj h)).2
    rw [Reader.append_rest, List.tail_append_of_ne_nil hne] at heq
    obtain rfl : { r with rest := r.rest.tail } = r' := Reader.append_injective heq
    rfl

theorem shrinks_bump : Shrinks bump := by
  intro r _ r' h
  obtain rfl := (Prod.mk.inj (Except.ok.inj h)).2
  exact List.tail_suffix r.rest

/-- What takes a character wherever there is one is local, provided it only takes
    text off where there is none. -/
theorem Taking.localBut (h : Taking m) (hshrinks : Shrinks m) : LocalBut E m where
  shrinks := hshrinks
  ahead := by
    intro r a r' x hx hne hm
    rcases h.forth (ne_nil_of_suffix (hshrinks hm) hne) hm with hsame | hswallows
    · exact hsame hx
    · exact absurd hswallows.at_end hne
  back := fun _ _ _ _ hx _ hm => .inl (h.back (h.rest_ne_nil hx hm) hx hm)

theorem local_bump : Local bump :=
  taking_bump.localBut shrinks_bump

theorem taking_bumpSkip : Taking bumpSkip :=
  taking_bump.bind fun _ => exact_skip

theorem local_bumpSkip : Local bumpSkip :=
  local_bump.bind fun _ => exact_skip.localBut

theorem peek?_eq (r : Reader) : peek? r = .ok (r.rest.head?, r) := rfl

theorem peek?_bind (r : Reader) (f : Option Char → Read α) :
    (peek? >>= f) r = f r.rest.head? r := rfl

theorem need_bind_eq (e : Error) (r : Reader) (f : Char → Read α) :
    (need e >>= f) r = match r.rest.head? with | some c => f c r | none => .error e := by
  -- the monad's layers are transparent, so the step is its match on the next character
  show ((match r.rest.head? with | some c => pure c | none => throw e : Read Char) >>= f) r = _
  cases r.rest.head? <;> rfl

theorem need_eq_ok_iff {e : Error} {r r' : Reader} {c : Char} :
    need e r = .ok (c, r') ↔ r.rest.head? = some c ∧ r = r' := by
  show ((match r.rest.head? with | some c => pure c | none => throw e : Read Char) r) = _ ↔ _
  rcases r.rest.head? with _ | d
  · simp
  · simp

theorem local_need (e : Error) : Local (need e) where
  shrinks := by
    intro r c r' h
    obtain ⟨-, rfl⟩ := need_eq_ok_iff.1 h
    exact List.suffix_rfl
  ahead := by
    intro r c r' x _ hne h
    obtain ⟨hc, rfl⟩ := need_eq_ok_iff.1 h
    refine need_eq_ok_iff.2 ⟨?_, rfl⟩
    rw [Reader.append_rest, List.head?_append_of_ne_nil _ hne, hc]
  back := by
    intro r c r' x _ hne h
    obtain ⟨hc, heq⟩ := need_eq_ok_iff.1 h
    obtain rfl := Reader.append_injective heq
    refine .inl (need_eq_ok_iff.2 ⟨?_, rfl⟩)
    rwa [Reader.append_rest, List.head?_append_of_ne_nil _ hne] at hc

/-- A step that comes to what another one comes to carries as well. -/
theorem Carries.congr {m' : Read α} {r s r' : Reader} {a : α} (h : Carries m r a r')
    (heq : ∀ ⦃x⦄, Closing x → m' (s.append x) = m (r.append x)) : Carries m' s a r' := by
  rcases h with hsame | hswallows
  · exact .inl fun x hx => (heq hx).trans (hsame hx)
  · exact .inr ⟨hswallows.at_end, fun x hx hline => (heq hx).trans (hswallows.reads hx hline),
      fun x b t hx ht => hswallows.spills hx ((heq hx).symm.trans ht)⟩

theorem peek?_bind_append {r : Reader} (hne : r.rest ≠ []) (x : List Char)
    (f : Option Char → Read β) :
    (peek? >>= f) (r.append x) = f r.rest.head? (r.append x) := by
  rw [peek?_bind, Reader.append_rest, List.head?_append_of_ne_nil _ hne]

/-- A choice that does not depend on what follows the text. -/
theorem Taking.choose {κ : Type} (choice : Reader → κ) {f : κ → Read β}
    (hchoice : ∀ ⦃r x⦄, r.rest ≠ [] → Closing x → choice (r.append x) = choice r)
    (hf : ∀ k, Taking (f k)) : Taking (do f (choice (← get))) := by
  have heq : ∀ r : Reader, (do f (choice (← get)) : Read β) r = f (choice r) r := fun r => rfl
  refine { shorter := ?_, forth := ?_, back := ?_ }
  · intro r b r' hne h
    exact (hf _).shorter hne h
  · intro r b r' hne h
    refine ((hf _).forth hne h).congr fun x hx => ?_
    rw [heq, hchoice hne hx]
  · intro r b r' x hne hx h
    rw [heq, hchoice hne hx] at h
    exact (hf _).back hne hx h

theorem Exact.choose {κ : Type} (choice : Reader → κ) {f : κ → Read β}
    (hchoice : ∀ ⦃r x⦄, Closing x → choice (r.append x) = choice r)
    (hf : ∀ k, Exact (f k)) : Exact (do f (choice (← get))) := by
  have heq : ∀ r : Reader, (do f (choice (← get)) : Read β) r = f (choice r) r := fun r => rfl
  refine { shrinks := ?_, forth := ?_, back := ?_ }
  · intro r b r' h
    exact (hf _).shrinks h
  · intro r b r' h
    refine ((hf _).forth h).congr fun x hx => ?_
    rw [heq, hchoice hx]
  · intro r b r' x hx h
    rw [heq, hchoice hx] at h
    exact (hf _).back hx h

/-- Looking at the next character is exact if a closing parenthesis is treated
    as the end of the text and each other character is left alone or taken. -/
theorem Exact.peek_bind {f : Option Char → Read β} (hend : f none = f (some ')'))
    (hexact : Exact (f none))
    (hf : ∀ c, c ≠ ')' → Exact (f (some c)) ∨ Taking (f (some c))) : Exact (peek? >>= f) := by
  -- at a parenthesis the step is the one at the end of the text
  have hkind : ∀ c, Exact (f (some c)) ∨ Taking (f (some c)) := by
    intro c
    by_cases hc : c = ')'
    · rw [hc, ← hend]
      exact .inl hexact
    · exact hf c hc
  -- so a text that has run out is not told from one with a parenthesis next
  have happend : ∀ {r : Reader} {x}, Closing x → r.rest = [] →
      (peek? >>= f) (r.append x) = f none (r.append x) := by
    rintro r x ⟨y, rfl⟩ hr
    rw [peek?_bind, Reader.append_rest, hr, hend]
    rfl
  refine { shrinks := ?_, forth := ?_, back := ?_ }
  · intro r b r' h
    rw [peek?_bind] at h
    rcases hr : r.rest with _ | ⟨c, cs⟩
    · rw [hr] at h
      exact hr ▸ hexact.shrinks h
    · have hne : r.rest ≠ [] := hr ▸ List.cons_ne_nil c cs
      rw [hr, List.head?_cons] at h
      rw [← hr]
      rcases hkind c with hexact | htaking
      · exact hexact.shrinks h
      · exact (htaking.shorter hne h).trans (List.tail_suffix r.rest)
  · intro r b r' h
    rw [peek?_bind] at h
    rcases hr : r.rest with _ | ⟨c, cs⟩
    · rw [hr] at h
      exact (hexact.forth h).congr fun x hx => happend hx hr
    · have hne : r.rest ≠ [] := hr ▸ List.cons_ne_nil c cs
      have hcarries : Carries (f r.rest.head?) r b r' := by
        rw [hr, List.head?_cons] at h ⊢
        rcases hkind c with hexact | htaking
        · exact hexact.forth h
        · exact htaking.forth hne h
      exact hcarries.congr fun x _ => peek?_bind_append hne x f
  · intro r b r' x hx h
    rw [peek?_bind]
    rcases hr : r.rest with _ | ⟨c, cs⟩
    · rw [happend hx hr] at h
      exact hexact.back hx h
    · have hne : r.rest ≠ [] := hr ▸ List.cons_ne_nil c cs
      rw [peek?_bind_append hne, hr] at h
      rcases hkind c with hexact | htaking
      · exact hexact.back hx h
      · exact htaking.back hne hx h

/-- Looking at the next character is demanding if it fails where there is none
    and each character is taken. -/
theorem Demanding.peek_bind {e : Error} {f : Option Char → Read β} (hend : f none = throw e)
    (hf : ∀ c, Taking (f (some c))) : Demanding (peek? >>= f) := by
  have hcons : ∀ {r b r'}, f r.rest.head? r = .ok (b, r') →
      r.rest ≠ [] ∧ Taking (f r.rest.head?) := by
    intro r b r' h
    rcases hr : r.rest with _ | ⟨c, cs⟩
    · rw [hr, List.head?_nil, hend] at h
      exact absurd h throw_ne_ok
    · exact ⟨List.cons_ne_nil c cs, hf c⟩
  refine { shorter := ?_, forth := ?_, back := ?_, ne_nil := ?_ }
  · intro r b r' hne h
    exact (hcons h).2.shorter hne h
  · intro r b r' hne h
    exact ((hcons h).2.forth hne h).congr fun x _ => peek?_bind_append hne x f
  · intro r b r' x hne hx h
    obtain ⟨c, cs, hr⟩ := List.exists_cons_of_ne_nil hne
    rw [peek?_bind_append hne, hr] at h
    rw [peek?_bind, hr]
    exact (hf c).back hne hx h
  · intro r b r' h
    exact (hcons h).1

theorem Demanding.need_bind {e : Error} {f : Char → Read β} (hf : ∀ c, Taking (f c)) :
    Demanding (need e >>= f) := by
  have heq : need e >>= f = peek? >>= fun next =>
      match next with | some c => f c | none => throw e := by
    funext r
    rw [peek?_bind, need_bind_eq]
    cases r.rest.head? <;> rfl
  rw [heq]
  exact Demanding.peek_bind rfl hf

/-! ## Loops and words -/

/-- A loop whose bound does not matter if it is the length of the text or more,
    as long as text is left at the end. -/
def Settles (step : Nat → Read α) : Prop :=
  ∀ ⦃r a r' fuel⦄, r.rest.length ≤ fuel → r'.rest ≠ [] →
    (step (fuel + 1) r = .ok (a, r') ↔ step fuel r = .ok (a, r'))

theorem Settles.iff {step : Nat → Read α} (h : Settles step) {r r' : Reader} {a : α}
    {fuel more : Nat} (hr : r.rest.length ≤ fuel) (hne : r'.rest ≠ []) (hle : fuel ≤ more) :
    step more r = .ok (a, r') ↔ step fuel r = .ok (a, r') := by
  induction more, hle using Nat.le_induction with
  | base => exact Iff.rfl
  | succ more hle ih => exact (h (hr.trans hle) hne).trans ih

/-- A loop that is bounded by the length of the text. -/
theorem Local.sized {step : Nat → Read α} (h : ∀ fuel, Local (step fuel))
    (hsettles : Settles step) : Local (do step (← get).rest.length) where
  shrinks := fun r _ _ hm => (h r.rest.length).shrinks hm
  ahead := by
    intro r a r' x hx hne hm
    have hm : step r.rest.length r = .ok (a, r') := hm
    -- the longer text runs under a larger bound, which comes to the same
    rw [← hsettles.iff (Nat.le_refl _) hne (Nat.le_add_right _ x.length)] at hm
    show step (r.rest ++ x).length (r.append x) = _
    rw [List.length_append]
    exact (h _).ahead hx hne hm
  back := by
    intro r a r' x hx hne hm
    have hm : step (r.rest ++ x).length (r.append x) = .ok (a, r'.append x) := hm
    show step r.rest.length r = _ ∨ _
    rw [← hsettles.iff (Nat.le_refl _) hne (Nat.le_add_right _ x.length), ← List.length_append]
    exact (h _).back hx hne hm

/-- Two sequences are the same if they are after each result of the first step. -/
theorem bind_congr_of_eq_ok {f' : α → Read β} {r : Reader}
    (h : ∀ ⦃a r'⦄, m r = .ok (a, r') → f a r' = f' a r') : (m >>= f) r = (m >>= f') r := by
  simp only [bind, StateT.bind, Except.bind]
  rcases hm : m r with e | ⟨a, r'⟩
  · rfl
  · exact h hm

theorem get_bind_eq (r : Reader) (f : Reader → Read β) : (get >>= f) r = f r r := rfl

theorem bind_congr_fst {m' : Read α} {r : Reader} (h : m r = m' r) (f : α → Read β) :
    (m >>= f) r = (m' >>= f) r := by
  simp only [bind, StateT.bind, h]

theorem Taking.length_lt (h : Taking m) {r r' : Reader} {a : α} (hne : r.rest ≠ [])
    (hm : m r = .ok (a, r')) : r'.rest.length < r.rest.length := by
  have hle := (h.shorter hne hm).length_le
  have hpos := List.length_pos_iff.2 hne
  rw [List.length_tail] at hle
  omega

theorem Demanding.length_lt (h : Demanding m) {r r' : Reader} {a : α} (hm : m r = .ok (a, r')) :
    r'.rest.length < r.rest.length :=
  h.toTaking.length_lt (h.ne_nil hm) hm

/-! ## Beyond the next character -/

theorem skip_of_head? {r : Reader} {c : Char} (h : r.rest.head? = some c)
    (hblank : Text.isBlank c = false) (hc : c ≠ '#') : skip r = .ok ((), r) := by
  obtain ⟨rest, verbose, names⟩ := r
  rcases rest with _ | ⟨d, cs⟩
  · exact absurd h nofun
  · obtain rfl : d = c := Option.some.inj h
    have hrest : afterBlanks (d :: cs) = d :: cs := by
      rw [afterBlanks_cons, hblank, if_neg Bool.false_ne_true, if_neg hc]
    rw [skip_eq, hrest]
    split <;> rfl

/-- The reader after a character, and after the blanks and comments that follow it. -/
def afterBump (r : Reader) : Reader :=
  if r.verbose then { r with rest := afterBlanks r.rest.tail } else { r with rest := r.rest.tail }

/-- Only one character is left, blanks and comments aside. -/
def EndsIn (c : Char) (r : Reader) : Prop :=
  r.rest.head? = some c ∧ (afterBump r).rest = []

theorem bumpSkip_eq (r : Reader) : bumpSkip r = .ok ((), afterBump r) := by
  show skip { r with rest := r.rest.tail } = _
  rw [skip_eq]
  rfl

theorem peekAfter?_eq (r : Reader) : peekAfter? r = .ok ((afterBump r).rest.head?, r) := by
  show Except.ok ((if r.verbose then _ else _ : List Char).head?, r) = _
  unfold afterBump
  split <;> rfl

theorem afterBump_append {r : Reader} {x : List Char} (hne : r.rest ≠ [])
    (h : (afterBump r).rest ≠ []) (hx : Closing x) :
    afterBump (r.append x) = (afterBump r).append x := by
  rcases taking_bumpSkip.forth hne (bumpSkip_eq r) with hsame | hswallows
  · have heq := (bumpSkip_eq (r.append x)).symm.trans (hsame hx)
    exact (Prod.mk.inj (Except.ok.inj heq)).2
  · exact absurd hswallows.at_end h

/-- If nothing is left after a character, then nothing but what follows the text
    is left after it in a longer text. -/
theorem length_afterBump_append_le {r : Reader} {x : List Char} (hne : r.rest ≠ [])
    (h : (afterBump r).rest = []) (hx : Closing x) :
    (afterBump (r.append x)).rest.length ≤ x.length := by
  rcases taking_bumpSkip.forth hne (bumpSkip_eq r) with hsame | hswallows
  · have heq := (bumpSkip_eq (r.append x)).symm.trans (hsame hx)
    rw [(Prod.mk.inj (Except.ok.inj heq)).2, Reader.append_rest, h, List.nil_append]
  · exact Nat.le_of_lt (hswallows.spills hx (bumpSkip_eq (r.append x)))

theorem ne_nil_of_head? {r : Reader} {c : Char} (h : r.rest.head? = some c) : r.rest ≠ [] := by
  intro hnil
  rw [hnil] at h
  simp at h

theorem head?_append {r : Reader} {c : Char} (h : r.rest.head? = some c) (x : List Char) :
    (r.append x).rest.head? = some c := by
  rw [Reader.append_rest, List.head?_append_of_ne_nil _ (ne_nil_of_head? h), h]

theorem head?_append_ne {r : Reader} {x : List Char} {c : Char} (hc : c ≠ ')')
    (hx : Closing x) (h : r.rest.head? ≠ some c) : (r.append x).rest.head? ≠ some c := by
  obtain ⟨y, rfl⟩ := hx
  rw [Reader.append_rest]
  rcases hr : r.rest with _ | ⟨d, ds⟩
  · simpa using hc.symm
  · rwa [hr] at h

/-! ## Runs of characters -/

theorem local_peek? : Local peek? where
  shrinks := by
    intro r c r' h
    obtain rfl := (Prod.mk.inj (Except.ok.inj h)).2
    exact List.suffix_rfl
  ahead := by
    intro r c r' x _ hne h
    obtain ⟨rfl, rfl⟩ := Prod.mk.inj (Except.ok.inj h)
    rw [peek?_eq, Reader.append_rest, List.head?_append_of_ne_nil _ hne]
  back := by
    intro r c r' x _ hne h
    rw [peek?_eq] at h
    obtain ⟨hc, heq⟩ := Prod.mk.inj (Except.ok.inj h)
    obtain rfl := Reader.append_injective heq
    rw [Reader.append_rest, List.head?_append_of_ne_nil _ hne] at hc
    rw [peek?_eq, hc]
    exact .inl rfl

variable (keep : Char → Bool)

theorem local_run (fuel : Nat) : Local (run keep fuel) := by
  induction fuel with
  | zero => exact localBut_pure []
  | succ fuel ih =>
    rw [run]
    refine local_peek?.bind fun next => ?_
    split
    · refine LocalBut.ite (fun _ => ?_) fun _ => localBut_pure []
      exact local_bumpSkip.bind fun _ => ih.bind fun _ => localBut_pure _
    · exact localBut_pure []

theorem run_succ_eq {r : Reader} {fuel : Nat} (h : r.rest.length ≤ fuel) :
    run keep (fuel + 1) r = run keep fuel r := by
  induction fuel generalizing r with
  | zero =>
    obtain ⟨rest, verbose, names⟩ := r
    obtain rfl : rest = [] := List.length_eq_zero_iff.1 (Nat.le_zero.1 h)
    rfl
  | succ fuel ih =>
    rw [run, run, peek?_bind, peek?_bind]
    rcases hrest : r.rest with _ | ⟨c, cs⟩
    · rfl
    · have hne : r.rest ≠ [] := hrest ▸ List.cons_ne_nil c cs
      simp only [List.head?_cons]
      split
      · refine bind_congr_of_eq_ok fun _ r' hbump => bind_congr_fst ?_ _
        have hlt := taking_bumpSkip.length_lt hne hbump
        exact ih (Nat.le_of_lt_succ (Nat.lt_of_lt_of_le hlt h))
      · rfl

theorem settles_run : Settles (run keep) := by
  intro r a r' fuel hr _
  rw [run_succ_eq keep hr]

theorem local_runAll : Local (runAll keep) :=
  Local.sized (local_run keep) (settles_run keep)

end Read

end JavaLint.Regex
