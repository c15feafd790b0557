import JavaLint.Proofs.Regex.Alternatives
/-!
# Wrapping the text of an expression

A text that is put between `^(?:` and `)$` need not be read as one group. It is
if it is an expression on its own that does not end in a comment. If it is not,
then a parenthesis in the text can end the group.

## Main definitions

- `Ast.Reads` — a text writes an expression, however deep it nests
- `EndsInComment` — the comment at the end of a text goes on in what follows it
- `HasLoneParenthesis` — a parenthesis in a text ends a group that the text does not open
- `Ast.anchored` — an expression in a group between the ends of a text

## Main statements

- `reads_wrapped_iff_of_reads` — how a wrapped text is read if it is an expression on its own
- `hasLoneParenthesis_of_reads_wrapped` — a wrapped text that is none on its own ends the group
-/

namespace JavaLint.Regex

open Read

variable {cs x : List Char} {ast : Ast} {t : Reader}

/-- The reader at the start of a text. -/
def Reader.start (cs : List Char) : Reader :=
  { rest := cs }

/-- The alternatives that a text starts with. -/
def readAlternatives (cs : List Char) : Except Error (Ast × Reader) :=
  alternatives (cs.length + 1) [] [] (Reader.start cs)

/-- The text writes the expression, however deep that nests. -/
def Ast.Reads (text : String) (ast : Ast) : Prop :=
  ∃ t, readAlternatives text.toList = .ok (ast, t) ∧ t.rest = []

theorem Ast.Reads.unique {text : String} {ast ast' : Ast} (h : Ast.Reads text ast)
    (h' : Ast.Reads text ast') : ast = ast' := by
  obtain ⟨t, hread, -⟩ := h
  obtain ⟨t', hread', -⟩ := h'
  exact (Prod.mk.inj (Except.ok.inj (hread.symm.trans hread'))).1

/-- The text is an expression that ends in a comment, so that even a closing
    parenthesis after it counts for nothing. -/
def EndsInComment (text : String) : Prop :=
  ∃ ast, Ast.Reads (text ++ ")") ast

/-! ## Reading up to a closing parenthesis -/

theorem alternatives_eq_of_lt {fuel more : Nat} {r : Reader} (h : r.rest.length < fuel)
    (hle : fuel ≤ more) (branches items : List Ast) :
    alternatives more branches items r = alternatives fuel branches items r := by
  induction more, hle using Nat.le_induction with
  | base => rfl
  | succ more hle ih => exact (alternatives_succ_eq (Nat.lt_of_lt_of_le h hle) _ _).trans ih

theorem alternatives_start {fuel : Nat} (h : cs.length < fuel) :
    alternatives fuel [] [] (Reader.start cs) = readAlternatives cs :=
  alternatives_eq_of_lt (r := Reader.start cs) (Nat.lt_succ_self _) h [] []

theorem Ast.parse_eq_ok_iff {text : String} :
    Ast.parse text = .ok ast ↔ Ast.Reads text ast ∧ ast.depth ≤ nestLimit := by
  -- the parser's own bound is larger than needed
  have hread : StateT.run (alternatives (2 * text.toList.length + 2) [] [])
      { rest := text.toList } = readAlternatives text.toList :=
    alternatives_start (by omega)
  unfold Ast.parse Ast.Reads
  simp only [hread]
  rcases readAlternatives text.toList with e | ⟨ast', t⟩
  · simp [bind, Except.bind]
  · simp only [bind, Except.bind, Except.ok.injEq, Prod.mk.injEq]
    by_cases hend : t.rest = []
    · by_cases hdepth : nestLimit < ast'.depth
      · simp only [hend, List.isEmpty_nil, Bool.not_true, Bool.false_eq_true, if_false, hdepth,
          if_true]
        constructor
        · exact fun h => absurd h nofun
        · rintro ⟨⟨_, ⟨rfl, -⟩, -⟩, hle⟩
          exact absurd hdepth (Nat.not_lt.2 hle)
      · simp only [hend, List.isEmpty_nil, Bool.not_true, Bool.false_eq_true, if_false, hdepth]
        constructor
        · rintro ⟨rfl⟩
          exact ⟨⟨t, ⟨rfl, rfl⟩, hend⟩, Nat.not_lt.1 hdepth⟩
        · rintro ⟨⟨_, ⟨rfl, -⟩, -⟩, -⟩
          rfl
    · rw [if_pos (by simpa using hend)]
      constructor
      · exact fun h => absurd h nofun
      · rintro ⟨⟨_, ⟨-, rfl⟩, hnil⟩, -⟩
        exact absurd hnil hend

/-- What is read of a text before a closing parenthesis is the whole of it, read
    on its own. -/
theorem readAlternatives_of_append (hx : Closing x)
    (h : readAlternatives (cs ++ x) = .ok (ast, t)) (ht : t.rest = x) :
    readAlternatives cs = .ok (ast, { t with rest := [] }) := by
  have hlt : (cs ++ x).length < (cs ++ x).length + 1 := Nat.lt_succ_self _
  have hcs : cs.length < (cs ++ x).length + 1 := by
    rw [List.length_append]
    omega
  rw [← alternatives_start hcs]
  refine (exact_alternatives _ [] []).back (x := x) hx ?_
  obtain ⟨rest, verbose, names⟩ := t
  obtain rfl : rest = x := ht
  exact h

/-- Before a closing parenthesis a text is read as it is on its own, or it ends
    in a comment. -/
theorem readAlternatives_append (hx : Closing x) (h : readAlternatives cs = .ok (ast, t)) :
    (readAlternatives (cs ++ x) = .ok (ast, t.append x) ∧
      readAlternatives (cs ++ [')']) = .ok (ast, t.append [')'])) ∨
    (readAlternatives (cs ++ [')']) = .ok (ast, t) ∧
      ∀ ast' t', readAlternatives (cs ++ x) = .ok (ast', t') → t'.rest.length < x.length) := by
  have hclosing : Closing [')'] := ⟨[], rfl⟩
  have hpos := List.length_pos_iff.2 hx.ne_nil
  -- one bound that is enough for all three texts
  have hcs : cs.length < (cs ++ x).length + 1 := by
    rw [List.length_append]
    omega
  have hcsx : (cs ++ x).length < (cs ++ x).length + 1 := Nat.lt_succ_self _
  have hcsp : (cs ++ [')']).length < (cs ++ x).length + 1 := by
    rw [List.length_append, List.length_append, List.length_singleton]
    omega
  rw [← alternatives_start hcs] at h
  rw [← alternatives_start hcsx, ← alternatives_start hcsp]
  rcases (exact_alternatives _ [] []).forth h with hsame | hswallows
  · exact .inl ⟨hsame hx, hsame hclosing⟩
  · exact .inr ⟨hswallows.reads hclosing (by simp), fun ast' t' ht' => hswallows.spills hx ht'⟩

theorem not_endsInComment_iff {text : String} (h : readAlternatives text.toList = .ok (ast, t))
    (ht : t.rest = []) (hx : Closing x) : ¬EndsInComment text ↔
      readAlternatives (text.toList ++ x) = .ok (ast, t.append x) := by
  have htext : (text ++ ")").toList = text.toList ++ [')'] := by simp
  have hpos := List.length_pos_iff.2 hx.ne_nil
  unfold EndsInComment Ast.Reads
  rw [htext]
  constructor
  · intro hcomment
    rcases readAlternatives_append hx h with ⟨hsame, -⟩ | ⟨hswallowed, -⟩
    · exact hsame
    · exact absurd ⟨ast, t, hswallowed, ht⟩ hcomment
  · rintro hsame ⟨ast', t', hread, hend⟩
    rcases readAlternatives_append hx h with ⟨-, hclosed⟩ | ⟨-, hspills⟩
    · rw [hread] at hclosed
      obtain ⟨-, rfl⟩ := Prod.mk.inj (Except.ok.inj hclosed)
      simp at hend
    -- text that a comment swallows cannot be what is left
    · have hlt := hspills _ _ hsame
      rw [Reader.append_rest, List.length_append] at hlt
      omega

/-! ## The wrapper -/

/-- The expression in a group between the ends of the text. -/
def Ast.anchored (ast : Ast) : Ast :=
  .concat [.assertion .startLine, .group [] ast, .assertion .endLine]

theorem groupOpening_plain (cs : List Char) (names : List String) :
    groupOpening { rest := '(' :: '?' :: ':' :: cs, names } =
      .ok (.group [], { rest := cs, names }) := by
  have hlook : isLookAround ('?' :: ':' :: cs) = false := by
    simp [isLookAround, List.isPrefixOf]
  rw [groupOpening, bind_eq_of_eq_ok (bumpSkip_eq _), get_bind_eq]
  show (if isLookAround ('?' :: ':' :: cs) then _ else _ : Read Opening) _ = _
  rw [hlook]
  -- neither of the words that introduce a name is there
  have haccept : ∀ (word : String) (r : Reader) (f : Bool → Read Opening),
      word.toList.isPrefixOf r.rest = false → (accept word >>= f) r = f false r := by
    intro word r f hword
    refine bind_eq_of_eq_ok ?_
    rw [accept_eq, hword]
    rfl
  show (accept "?P<" >>= _) { rest := '?' :: ':' :: cs, names := names } = _
  rw [haccept _ _ _ (by simp [List.isPrefixOf])]
  show (accept "?<" >>= _) { rest := '?' :: ':' :: cs, names := names } = _
  rw [haccept _ _ _ (by simp [List.isPrefixOf])]
  rfl

theorem alternatives_start_line {fuel : Nat} {branches items : List Ast} {names : List String} :
    alternatives (fuel + 1) branches items { rest := '^' :: cs, names } =
      alternatives fuel branches (.assertion .startLine :: items) { rest := cs, names } := by
  rw [alternatives]
  rfl

theorem alternatives_end_line {fuel : Nat} {branches items : List Ast} {names : List String} :
    alternatives (fuel + 1) branches items { rest := '$' :: cs, names } =
      alternatives fuel branches (.assertion .endLine :: items) { rest := cs, names } := by
  rw [alternatives]
  rfl

theorem alternatives_nil {fuel : Nat} {branches items : List Ast} {names : List String} :
    alternatives (fuel + 1) branches items { rest := [], names } =
      .ok (Ast.ofBranches (Ast.ofItems items.reverse :: branches).reverse, { rest := [], names }) := by
  rw [alternatives]
  rfl

theorem alternatives_plain_group {fuel : Nat} {branches items : List Ast} {names : List String} :
    alternatives (fuel + 1) branches items { rest := '(' :: '?' :: ':' :: cs, names } = (do
      let inner ← alternatives fuel [] []
      closeGroup false
      alternatives fuel branches (.group [] inner :: items)) { rest := cs, names } := by
  rw [alternatives, bind_eq_of_eq_ok (skip_of_head? rfl (by decide) (by decide)), peek?_bind]
  show (groupOpening >>= _) _ = _
  rw [bind_eq_of_eq_ok (groupOpening_plain cs names)]
  rfl

/-- The text between the wrapper's parts. -/
def wrapped (text : String) : String :=
  "^(?:" ++ text ++ ")$"

theorem wrapped_toList (text : String) :
    (wrapped text).toList = '^' :: '(' :: '?' :: ':' :: (text.toList ++ [')', '$']) := by
  simp [wrapped]

theorem closing_wrapper : Closing [')', '$'] :=
  ⟨['$'], rfl⟩

/-- How the wrapper is read around a text. -/
theorem readAlternatives_wrapper (cs : List Char) :
    readAlternatives ('^' :: '(' :: '?' :: ':' :: cs) = (do
      let (inner, t) ← readAlternatives cs
      (do closeGroup false
          alternatives (cs.length + 3) [] [.group [] inner, .assertion .startLine] : Read Ast) t) := by
  show alternatives (cs.length + 3 + 1 + 1) [] [] { rest := '^' :: '(' :: '?' :: ':' :: cs } = _
  rw [alternatives_start_line, alternatives_plain_group]
  have hread : alternatives (cs.length + 3) [] [] { rest := cs } = readAlternatives cs :=
    alternatives_start (by omega)
  simp only [bind, StateT.bind, hread]

theorem closeGroup_eq_ok_iff {outer : Bool} {t t' : Reader} :
    closeGroup outer t = .ok ((), t') ↔
      ∃ u, t.rest = ')' :: u ∧ t' = { t with rest := u, verbose := outer } := by
  obtain ⟨rest, verbose, names⟩ := t
  rcases rest with _ | ⟨c, u⟩
  · exact ⟨fun h => absurd h nofun, fun ⟨_, h, _⟩ => absurd h nofun⟩
  · show (if (some c != some ')') = true then _ else _ : Read PUnit) _ = _ ↔ _
    by_cases hc : c = ')'
    · rw [hc, if_neg (by decide)]
      constructor
      · intro h
        exact ⟨u, rfl, ((Prod.mk.inj (Except.ok.inj h)).2).symm⟩
      · rintro ⟨_, ⟨rfl⟩, rfl⟩
        rfl
    · rw [if_pos (by simpa using hc)]
      constructor
      · exact fun h => absurd h nofun
      · rintro ⟨_, hrest, -⟩
        exact absurd (List.cons.inj hrest).1 hc

/-- A wrapped text is read up to a closing parenthesis, and from there on. -/
theorem reads_wrapped_iff {text : String} :
    Ast.Reads (wrapped text) ast ↔
      ∃ inner t u t', readAlternatives (text.toList ++ [')', '$']) = .ok (inner, t) ∧
        t.rest = ')' :: u ∧
        alternatives (text.toList.length + 5) [] [.group [] inner, .assertion .startLine]
          { t with rest := u, verbose := false } = .ok (ast, t') ∧ t'.rest = [] := by
  unfold Ast.Reads
  rw [wrapped_toList, readAlternatives_wrapper, List.length_append]
  rcases readAlternatives (text.toList ++ [')', '$']) with e | ⟨inner, t⟩
  · exact ⟨fun ⟨_, h, _⟩ => absurd h nofun, fun ⟨_, _, _, _, h, _⟩ => absurd h nofun⟩
  · show (∃ t', (closeGroup false >>= fun _ => alternatives (text.toList.length + 5) [] _) t =
      .ok (ast, t') ∧ _) ↔ _
    constructor
    · rintro ⟨t', hread, hend⟩
      obtain ⟨_, v, hclose, hread⟩ := bind_eq_ok_iff.1 hread
      obtain ⟨u, hu, rfl⟩ := closeGroup_eq_ok_iff.1 hclose
      exact ⟨inner, t, u, t', rfl, hu, hread, hend⟩
    · rintro ⟨_, _, u, t', ⟨rfl⟩, hu, hread, hend⟩
      exact ⟨t', bind_eq_ok_iff.2 ⟨(), _, closeGroup_eq_ok_iff.2 ⟨u, hu, rfl⟩, hread⟩, hend⟩

/-- A closing parenthesis in a wrapped text is in the text or in the wrapper. -/
theorem append_wrapper_eq {p u : List Char} (h : cs ++ [')', '$'] = p ++ ')' :: u) :
    (p = cs ∧ u = ['$']) ∨ ∃ after, cs = p ++ ')' :: after := by
  -- the parenthesis stands behind the text or inside it
  rcases List.append_eq_append_iff.1 h with ⟨q, rfl, hq⟩ | ⟨q, rfl, hq⟩
  · rcases q with _ | ⟨c, _ | ⟨d, q⟩⟩
    · obtain ⟨-, rfl⟩ := List.cons.inj hq
      exact .inl ⟨List.append_nil _, rfl⟩
    · simp at hq
    · simp at hq
  · rcases q with _ | ⟨c, q⟩
    · obtain ⟨-, rfl⟩ := List.cons.inj hq
      exact .inl ⟨(List.append_nil _).symm, rfl⟩
    · obtain ⟨rfl, -⟩ := List.cons.inj hq
      exact .inr ⟨q, rfl⟩

/-- The text has a closing parenthesis before which it is an expression, and
    which no comment hides. -/
def HasLoneParenthesis (text : String) : Prop :=
  ∃ before after : String, text = before ++ ")" ++ after ∧
    (∃ ast, Ast.Reads before ast) ∧ ¬EndsInComment before

theorem not_reads_of_hasLoneParenthesis {text : String} (h : HasLoneParenthesis text) :
    ¬Ast.Reads text ast := by
  obtain ⟨before, after, rfl, ⟨ast', t, hread, hend⟩, hcomment⟩ := h
  rintro ⟨t', hread', hend'⟩
  have hx : Closing (')' :: after.toList) := ⟨after.toList, rfl⟩
  have hsame := (not_endsInComment_iff hread hend hx).1 hcomment
  have htext : (before ++ ")" ++ after).toList = before.toList ++ ')' :: after.toList := by simp
  rw [htext, hsame] at hread'
  obtain ⟨-, rfl⟩ := Prod.mk.inj (Except.ok.inj hread')
  simp at hend'

/-- A wrapped text that is an expression, but not on its own, has a lone
    parenthesis that ends the group of the wrapper. -/
theorem hasLoneParenthesis_of_reads_wrapped {text : String} (h : Ast.Reads (wrapped text) ast)
    (halone : ∀ ast, ¬Ast.Reads text ast) : HasLoneParenthesis text := by
  obtain ⟨inner, t, u, t', hinner, hu, -, -⟩ := reads_wrapped_iff.1 h
  obtain ⟨p, hp⟩ : t.rest <:+ text.toList ++ [')', '$'] :=
    (exact_alternatives _ [] []).shrinks hinner
  rw [hu] at hp
  have hx : Closing (')' :: u) := ⟨u, rfl⟩
  rw [← hp] at hinner
  have hbefore := readAlternatives_of_append hx hinner hu
  -- at the parenthesis of the wrapper the text would have been read on its own
  rcases append_wrapper_eq hp.symm with ⟨rfl, -⟩ | ⟨after, htext⟩
  · exact absurd ⟨{ t with rest := [] }, hbefore, rfl⟩ (halone inner)
  · have hbefore : readAlternatives (String.ofList p).toList = .ok (inner, { t with rest := [] }) := by
      rwa [String.toList_ofList]
    refine ⟨String.ofList p, String.ofList after, ?_, ⟨inner, _, hbefore, rfl⟩, ?_⟩
    · rw [← String.toList_inj]
      simp [htext]
    · refine (not_endsInComment_iff hbefore rfl hx).2 ?_
      rw [String.toList_ofList, hinner]
      obtain ⟨rest, verbose, names⟩ := t
      obtain rfl : rest = ')' :: u := hu
      rfl

theorem alternatives_after_group (fuel : Nat) (inner : Ast) (names : List String) :
    alternatives (fuel + 2) [] [.group [] inner, .assertion .startLine]
      { rest := ['$'], names } = .ok (inner.anchored, { rest := [], names }) := by
  rw [alternatives_end_line, alternatives_nil]
  rfl

/-- An expression is wrapped as a group, unless it ends in a comment. -/
theorem reads_wrapped_iff_of_reads {text : String} {inner : Ast} (h : Ast.Reads text inner) :
    Ast.Reads (wrapped text) ast ↔ ¬EndsInComment text ∧ ast = inner.anchored := by
  obtain ⟨t₀, hread, hend₀⟩ := h
  rw [not_endsInComment_iff hread hend₀ closing_wrapper]
  have hrest₀ : (t₀.append [')', '$']).rest = [')', '$'] := by
    rw [Reader.append_rest, hend₀, List.nil_append]
  constructor
  · intro h
    obtain ⟨inner', t, u, t', hinner, hu, hread', -⟩ := reads_wrapped_iff.1 h
    rcases readAlternatives_append closing_wrapper hread with ⟨hsame, -⟩ | ⟨-, hspills⟩
    · rw [hsame] at hinner
      obtain ⟨rfl, rfl⟩ := Prod.mk.inj (Except.ok.inj hinner)
      obtain rfl : ['$'] = u := (List.cons.inj (hrest₀.symm.trans hu)).2
      have hgroup := alternatives_after_group (text.toList.length + 3) inner t₀.names
      rw [Reader.append_names] at hread'
      obtain ⟨rfl, -⟩ := Prod.mk.inj (Except.ok.inj (hgroup.symm.trans hread'))
      exact ⟨hsame, rfl⟩
    · -- what is left would be the parenthesis without the end of the wrapper
      obtain ⟨p, hp⟩ := (exact_alternatives _ [] []).shrinks hinner
      have hlt := hspills _ _ hinner
      rw [hu] at hp hlt
      obtain rfl : u = [] := by
        refine List.length_eq_zero_iff.1 ?_
        simp only [List.length_cons, List.length_nil] at hlt
        omega
      have hlast := congrArg List.getLast? hp
      simp [Reader.start] at hlast
  · rintro ⟨hsame, rfl⟩
    refine reads_wrapped_iff.2
      ⟨inner, _, ['$'], { rest := [], names := t₀.names }, hsame, hrest₀, ?_, rfl⟩
    exact alternatives_after_group _ inner t₀.names

end JavaLint.Regex
