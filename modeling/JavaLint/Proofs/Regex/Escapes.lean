import JavaLint.Proofs.Regex.Steps
/-!
# Reading escapes

An escape is as good with a closing parenthesis after it as at the end of the
text, with one exception: `\b` and an opening brace at the end of the text are
refused, but before a closing parenthesis the brace is left alone.

## Main statements

- `Read.escape_shorter`, `Read.escape_carries` — an escape takes characters and
  does not depend on what follows it
- `Read.escape_back` — conversely, but for the exception
- `Read.localBut_escape` — an escape as an item of a class
-/

namespace JavaLint.Regex.Read

variable {r r' : Reader} {x : List Char}

/-! ## Code points and properties -/

theorem demanding_hexDigits {count : Nat} (h : Exact (hexDigits count)) :
    Demanding (hexDigits (count + 1)) := by
  refine Demanding.need_bind fun c => ?_
  refine Taking.ite (fun _ => taking_throw _) fun _ => ?_
  exact taking_bumpSkip.bind fun _ => h.bind fun _ => exact_pure _

theorem exact_hexDigits (count : Nat) : Exact (hexDigits count) := by
  induction count with
  | zero => exact exact_pure []
  | succ count ih => exact (demanding_hexDigits ih).exact

theorem exact_literal (braced : Bool) (count : Nat) (digits : List Char) :
    Exact (match charOfNat? (hexNumber digits) with
      | some c => pure ⟨c, !braced && count == 2⟩
      | none => throw .escape : Read Literal) := by
  split
  · exact exact_pure _
  · exact exact_throw _

theorem taking_hexEscape (count : Nat) : Taking (hexEscape (count + 1)) := by
  refine taking_bumpSkip.bind fun _ => Demanding.exact (Demanding.need_bind fun c => ?_)
  refine Taking.ite (fun _ => ?_) fun _ => ?_
  · refine taking_bumpSkip.bind fun _ => Demanding.exact ?_
    refine Demanding.of_local (local_runAll _) fun digits => Demanding.need_bind fun _ => ?_
    refine taking_bumpSkip.bind fun _ => ?_
    exact Exact.ite (fun _ => exact_throw _) fun _ => exact_literal _ _ _
  · refine Taking.bind ?_ fun digits => exact_literal _ _ _
    exact (demanding_hexDigits (exact_hexDigits count)).toTaking

theorem demanding_unicodeClass : Demanding unicodeClass := by
  refine Demanding.need_bind fun c => taking_bumpSkip.bind fun _ => ?_
  refine Demanding.exact (Demanding.need_bind fun d => Taking.ite (fun _ => ?_) fun _ => ?_)
  · refine taking_bumpSkip.bind fun _ => Demanding.exact ?_
    refine Demanding.of_local (local_runAll _) fun text => Demanding.need_bind fun _ => ?_
    exact taking_bump.bind fun _ => exact_pure _
  · refine Taking.ite (fun _ => taking_throw _) fun _ => ?_
    exact taking_bumpSkip.bind fun _ => exact_pure _

/-- All escapes but those of word boundaries. -/
theorem taking_escaped {c : Char} (hc : c ≠ 'b') : Taking (escaped c) := by
  refine Taking.ite (fun _ => taking_throw _) fun _ => ?_
  split
  · exact (taking_hexEscape 1).bind fun _ => exact_pure _
  · exact (taking_hexEscape 3).bind fun _ => exact_pure _
  · exact (taking_hexEscape 7).bind fun _ => exact_pure _
  · exact demanding_unicodeClass.toTaking.bind fun _ => exact_pure _
  · exact demanding_unicodeClass.toTaking.bind fun _ => exact_pure _
  · refine taking_bump.bind fun _ => ?_
    split
    · exact exact_pure _
    · exact exact_pure _
    · refine Exact.ite (fun _ => exact_pure _) fun _ => ?_
      split
      · exact exact_pure _
      · exact exact_pure _
      · exact absurd rfl hc
      · exact exact_pure _
      · exact exact_pure _
      · exact exact_pure _
      · exact exact_throw _

/-! ## Word boundaries -/

theorem demanding_wordBoundaryName : Demanding wordBoundaryName := by
  refine Demanding.of_local (local_runAll _) fun name => ?_
  refine Demanding.peek_bind rfl fun c => Taking.ite (fun _ => taking_throw _) fun _ => ?_
  refine taking_bump.bind fun _ => ?_
  split
  · exact exact_pure _
  · exact exact_pure _
  · exact exact_pure _
  · exact exact_pure _
  · exact exact_throw _

theorem wordBoundaryKind_of_ne (h : r.rest.head? ≠ some '\x7b') :
    wordBoundaryKind r = .ok (.wordBoundary, r) := by
  show (if r.rest.head? != some '\x7b' then pure .wordBoundary else _ : Read Assertion) r = _
  rw [if_pos (bne_iff_ne.2 h)]
  rfl

/-- An opening brace starts the name of a boundary, or is left alone. -/
theorem wordBoundaryKind_of_brace (h : r.rest.head? = some '\x7b') :
    wordBoundaryKind r = match (afterBump r).rest.head? with
      | some c => if isBoundaryNamePart c then wordBoundaryName (afterBump r)
        else .ok (.wordBoundary, r)
      | none => .error .escape := by
  show (if r.rest.head? != some '\x7b' then pure .wordBoundary else _ : Read Assertion) r = _
  rw [if_neg (by simp [h]), bind_eq_of_eq_ok (bumpSkip_eq r), need_bind_eq]
  rcases (afterBump r).rest.head? with _ | c
  · rfl
  · show (if (!isBoundaryNamePart c) = true then _ else _ : Read Assertion) (afterBump r) =
      if isBoundaryNamePart c = true then _ else _
    cases isBoundaryNamePart c <;> rfl

theorem shrinks_wordBoundaryKind : Shrinks wordBoundaryKind := by
  intro r k r' h
  by_cases hhead : r.rest.head? = some '\x7b'
  · rw [wordBoundaryKind_of_brace hhead] at h
    split at h
    · split at h
      · exact (demanding_wordBoundaryName.exact.shrinks h).trans
          ((taking_bumpSkip.shorter (ne_nil_of_head? hhead) (bumpSkip_eq r)).trans
            (List.tail_suffix r.rest))
      · obtain rfl := (Prod.mk.inj (Except.ok.inj h)).2
        exact List.suffix_rfl
    · exact absurd h nofun
  · rw [wordBoundaryKind_of_ne hhead] at h
    obtain rfl := (Prod.mk.inj (Except.ok.inj h)).2
    exact List.suffix_rfl

theorem wordBoundaryKind_carries {k : Assertion} (h : wordBoundaryKind r = .ok (k, r')) :
    Carries wordBoundaryKind r k r' := by
  by_cases hhead : r.rest.head? = some '\x7b'
  · have hne := ne_nil_of_head? hhead
    rw [wordBoundaryKind_of_brace hhead] at h
    rcases hc : (afterBump r).rest.head? with _ | c
    · rw [hc] at h
      exact absurd h nofun
    · have hkind : ∀ ⦃x⦄, Closing x → wordBoundaryKind (r.append x) =
          if isBoundaryNamePart c then wordBoundaryName ((afterBump r).append x)
          else .ok (.wordBoundary, r.append x) := by
        intro x hx
        rw [wordBoundaryKind_of_brace (head?_append hhead x),
          afterBump_append hne (ne_nil_of_head? hc) hx, head?_append hc]
      rw [hc] at h
      dsimp only at h
      split at h
      · next hname =>
        refine (demanding_wordBoundaryName.exact.forth h).congr fun x hx => ?_
        rw [hkind hx, if_pos hname]
      · next hname =>
        obtain ⟨rfl, rfl⟩ := Prod.mk.inj (Except.ok.inj h)
        exact .inl fun x hx => (hkind hx).trans (if_neg hname)
  · rw [wordBoundaryKind_of_ne hhead] at h
    obtain ⟨rfl, rfl⟩ := Prod.mk.inj (Except.ok.inj h)
    exact .inl fun x hx => wordBoundaryKind_of_ne (head?_append_ne (by decide) hx hhead)

/-- What is read before a closing parenthesis is read at the end of the text as
    well, unless an opening brace is left alone there. -/
theorem wordBoundaryKind_back {k : Assertion} (hx : Closing x)
    (h : wordBoundaryKind (r.append x) = .ok (k, r'.append x)) :
    wordBoundaryKind r = .ok (k, r') ∨ k = .wordBoundary ∧ EndsIn '\x7b' r' := by
  by_cases hhead : r.rest.head? = some '\x7b'
  · have hne := ne_nil_of_head? hhead
    rw [wordBoundaryKind_of_brace (head?_append hhead x)] at h
    -- a brace followed by nothing may go with a name in the longer text
    by_cases hend : (afterBump r).rest = []
    · right
      split at h
      · split at h
        · -- a name would be read from what follows the text
          have hlt := demanding_wordBoundaryName.length_lt h
          have hle := length_afterBump_append_le hne hend hx
          simp only [Reader.append_rest, List.length_append] at hlt
          omega
        · obtain ⟨rfl, heq⟩ := Prod.mk.inj (Except.ok.inj h)
          obtain rfl := Reader.append_injective heq
          exact ⟨rfl, hhead, hend⟩
      · exact absurd h nofun
    · left
      obtain ⟨c, cs, hc⟩ := List.exists_cons_of_ne_nil hend
      rw [afterBump_append hne hend hx, head?_append (c := c) (by rw [hc]; rfl)] at h
      rw [wordBoundaryKind_of_brace hhead, hc, List.head?_cons]
      dsimp only at h ⊢
      split at h
      · next hname =>
        rw [if_pos hname]
        exact demanding_wordBoundaryName.exact.back hx h
      · next hname =>
        obtain ⟨rfl, heq⟩ := Prod.mk.inj (Except.ok.inj h)
        obtain rfl := Reader.append_injective heq
        rw [if_neg hname]
  · left
    rw [wordBoundaryKind_of_ne (head?_append_ne (by decide) hx hhead)] at h
    obtain ⟨rfl, heq⟩ := Prod.mk.inj (Except.ok.inj h)
    obtain rfl := Reader.append_injective heq
    exact wordBoundaryKind_of_ne hhead

/-! ## All escapes -/

theorem escaped_boundary : escaped 'b' = (do
    bump
    return .assertion (← wordBoundaryKind)) := by
  rw [escaped, if_neg (by decide)]
  simp [perlClass?, controlEscape?, isMeta, isEscapable]

/-- An escape that is not of a word boundary, from its backslash on. -/
def plainEscape : Read Ast := do
  bump
  let c ← need .escape
  if c = 'b' then throw .escape else escaped c

theorem taking_plainEscape : Taking plainEscape := by
  refine taking_bump.bind fun _ => Demanding.exact (Demanding.need_bind fun c => ?_)
  exact Taking.ite (fun _ => taking_throw _) taking_escaped

/-- The reader after a backslash and the letter of a word boundary. -/
def afterBoundary (r : Reader) : Reader :=
  { r with rest := r.rest.tail.tail }

theorem escape_of_boundary (h : r.rest.tail.head? = some 'b') :
    escape r = (do return .assertion (← wordBoundaryKind) : Read Ast) (afterBoundary r) := by
  show (need .escape >>= escaped) { r with rest := r.rest.tail } = _
  rw [need_bind_eq, h]
  show escaped 'b' { r with rest := r.rest.tail } = _
  rw [escaped_boundary]
  rfl

theorem escape_of_ne (h : r.rest.tail.head? ≠ some 'b') : escape r = plainEscape r := by
  show (need .escape >>= escaped) { r with rest := r.rest.tail } =
    (need .escape >>= fun c => if c = 'b' then throw .escape else escaped c)
      { r with rest := r.rest.tail }
  rw [need_bind_eq, need_bind_eq]
  split
  · next c hc =>
    rw [if_neg]
    rintro rfl
    exact h hc
  · rfl

theorem afterBoundary_append (h : r.rest.tail.head? = some 'b') (x : List Char) :
    afterBoundary (r.append x) = (afterBoundary r).append x := by
  rcases hr : r.rest with _ | ⟨c, _ | ⟨d, cs⟩⟩
  · simp [hr] at h
  · simp [hr] at h
  · simp [afterBoundary, Reader.append, hr]

theorem head?_tail_append (hne : r.rest ≠ []) (hx : Closing x) :
    (r.append x).rest.tail.head? = some 'b' ↔ r.rest.tail.head? = some 'b' := by
  obtain ⟨y, rfl⟩ := hx
  rcases hr : r.rest with _ | ⟨c, _ | ⟨d, cs⟩⟩
  · exact absurd hr hne
  · simp [hr]
  · simp [hr]

theorem escape_shorter {a : Ast} (hne : r.rest ≠ []) (h : escape r = .ok (a, r')) :
    r'.rest <:+ r.rest.tail := by
  by_cases hb : r.rest.tail.head? = some 'b'
  · rw [escape_of_boundary hb] at h
    obtain ⟨k, t, hk, heq⟩ := bind_eq_ok_iff.1 h
    obtain ⟨-, rfl⟩ := pure_eq_ok_iff.1 heq
    exact (shrinks_wordBoundaryKind hk).trans (List.tail_suffix _)
  · rw [escape_of_ne hb] at h
    exact taking_plainEscape.shorter hne h

/-- An escape does not depend on what follows it. -/
theorem escape_carries {a : Ast} (hne : r.rest ≠ []) (h : escape r = .ok (a, r')) :
    Carries escape r a r' := by
  by_cases hb : r.rest.tail.head? = some 'b'
  · rw [escape_of_boundary hb] at h
    obtain ⟨k, t, hk, heq⟩ := bind_eq_ok_iff.1 h
    have hpure : ∀ k, Exact (pure (Ast.assertion k) : Read Ast) := fun k => exact_pure _
    have hcarries := (wordBoundaryKind_carries hk).bind heq ((hpure k).forth heq)
      fun k => (hpure k).shrinks
    refine hcarries.congr fun x hx => ?_
    rw [escape_of_boundary ((head?_tail_append hne hx).2 hb), afterBoundary_append hb]
  · rw [escape_of_ne hb] at h
    refine (taking_plainEscape.forth hne h).congr fun x hx => ?_
    exact escape_of_ne (mt (head?_tail_append hne hx).1 hb)

/-- An escape before a closing parenthesis is an escape at the end of the text
    as well, unless an opening brace is left alone there. -/
theorem escape_back {a : Ast} (hne : r.rest ≠ []) (hx : Closing x)
    (h : escape (r.append x) = .ok (a, r'.append x)) :
    escape r = .ok (a, r') ∨ a = .assertion .wordBoundary ∧ EndsIn '\x7b' r' := by
  -- only the escape of a word boundary looks past its letter
  by_cases hb : r.rest.tail.head? = some 'b'
  · rw [escape_of_boundary ((head?_tail_append hne hx).2 hb), afterBoundary_append hb] at h
    obtain ⟨k, t, hk, heq⟩ := bind_eq_ok_iff.1 h
    obtain ⟨rfl, rfl⟩ := pure_eq_ok_iff.1 heq
    rw [escape_of_boundary hb]
    rcases wordBoundaryKind_back hx hk with hk | ⟨rfl, hbrace⟩
    · exact .inl (bind_eq_ok_iff.2 ⟨k, r', hk, rfl⟩)
    · exact .inr ⟨rfl, hbrace⟩
  · rw [escape_of_ne (mt (head?_tail_append hne hx).1 hb)] at h
    rw [escape_of_ne hb]
    exact .inl (taking_plainEscape.back hne hx h)

theorem escape_ne_nil {a : Ast} (h : escape r = .ok (a, r')) : r.rest ≠ [] := by
  intro hnil
  rw [escape, bind_eq_of_eq_ok (bump_eq r), need_bind_eq, hnil] at h
  exact absurd h nofun

/-- The exception that `escape_back` makes. -/
def LeavesBrace (a : Ast) (r : Reader) : Prop :=
  a = .assertion .wordBoundary ∧ EndsIn '\x7b' r

theorem localBut_escape : LocalBut LeavesBrace escape where
  shrinks := fun r _ _ h =>
    (escape_shorter (escape_ne_nil h) h).trans (List.tail_suffix r.rest)
  ahead := by
    intro r a r' x hx hne h
    rcases escape_carries (escape_ne_nil h) h with hsame | hswallows
    · exact hsame hx
    · exact absurd hswallows.at_end hne
  back := by
    intro r a r' x hx hne h
    refine escape_back ?_ hx h
    intro hnil
    have hle := (escape_shorter (escape_ne_nil h) h).length_le
    simp only [Reader.append_rest, hnil, List.nil_append, List.length_append,
      List.length_tail] at hle
    have hpos := List.length_pos_iff.2 hx.ne_nil
    omega

end JavaLint.Regex.Read
