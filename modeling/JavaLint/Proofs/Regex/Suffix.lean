import JavaLint.Regex.Parser
import Mathlib.Data.List.Infix
/-!
# Reading a text with more text after it

The reader of regular expressions looks ahead, so what it makes of a text can
depend on the text that follows. This file compares a run on a text with a run
on the same text followed by a closing parenthesis and anything after it. The
end of the text and a closing parenthesis end an expression alike, but only the
parenthesis can be taken off the text.

## Main definitions

- `Reader.append` — a reader with more text at the end
- `Read.LocalBut` — as long as text is left, what follows it has no influence
- `Read.Exact` — also at the end of the text, unless the last thing read is a comment
- `Read.Taking`, `Read.Demanding` — the same of steps that take a character off the text

## Main statements

- `Read.Exact.bind`, `Read.Demanding.of_local` — how the notions compose
- `Read.Exact.of_append_eq` — a step is exact if more text makes no difference to it

## Design notes

A step such as `need` fails at the end of a text where it finds the parenthesis
in a longer one. A local step followed by one that takes a character is exact
all the same: if the longer run gives back the text it was handed, then the
first step cannot have reached it.
-/

namespace JavaLint.Regex

/-- The text starts with a closing parenthesis. -/
def Closing (x : List Char) : Prop :=
  ∃ y, x = ')' :: y

theorem Closing.ne_nil {x : List Char} (h : Closing x) : x ≠ [] := by
  obtain ⟨y, rfl⟩ := h
  exact List.cons_ne_nil _ _

namespace Reader

/-- The reader with more text at the end. -/
def append (r : Reader) (x : List Char) : Reader :=
  { r with rest := r.rest ++ x }

@[simp]
theorem append_rest (r : Reader) (x : List Char) : (r.append x).rest = r.rest ++ x := rfl

@[simp]
theorem append_verbose (r : Reader) (x : List Char) : (r.append x).verbose = r.verbose := rfl

@[simp]
theorem append_names (r : Reader) (x : List Char) : (r.append x).names = r.names := rfl

theorem append_injective {r r' : Reader} {x : List Char} (h : r.append x = r'.append x) :
    r = r' := by
  obtain ⟨rest, verbose, names⟩ := r
  obtain ⟨rest', verbose', names'⟩ := r'
  simpa [append] using h

/-- A reader at which `x` and more is left has something in front of `x`. -/
theorem exists_eq_append {r r' t : Reader} {x : List Char}
    (ht : t.rest <:+ r.rest ++ x) (h : r'.rest ++ x <:+ t.rest) :
    ∃ r₁ : Reader, t = r₁.append x ∧ r'.rest <:+ r₁.rest := by
  obtain ⟨p, hp⟩ := h
  refine ⟨{ t with rest := p ++ r'.rest }, ?_, List.suffix_append _ _⟩
  obtain ⟨rest, verbose, names⟩ := t
  simp only at hp
  simp only [append, List.append_assoc, hp]

end Reader

namespace Read

variable {α β : Type} {m : Read α} {f : α → Read β} {E : α → Reader → Prop} {F : β → Reader → Prop}

/-- A sequence of steps succeeds if both of them do. -/
theorem bind_eq_ok_iff {r r'' : Reader} {b : β} :
    (m >>= f) r = .ok (b, r'') ↔ ∃ a r', m r = .ok (a, r') ∧ f a r' = .ok (b, r'') := by
  simp only [bind, StateT.bind, Except.bind]
  rcases m r with e | ⟨a, r'⟩
  · simp
  · simp only [Except.ok.injEq, Prod.mk.injEq]
    constructor
    · intro h
      exact ⟨a, r', ⟨rfl, rfl⟩, h⟩
    · rintro ⟨_, _, ⟨rfl, rfl⟩, h⟩
      exact h

theorem bind_eq_of_eq_ok {r r' : Reader} {a : α} (h : m r = .ok (a, r')) :
    (m >>= f) r = f a r' := by
  simp only [bind, StateT.bind, Except.bind, h]

@[simp]
theorem pure_eq_ok_iff {r r' : Reader} {a b : α} :
    (pure a : Read α) r = .ok (b, r') ↔ a = b ∧ r = r' := by
  show Except.ok (a, r) = Except.ok (b, r') ↔ _
  rw [Except.ok.injEq, Prod.mk.injEq]

@[simp]
theorem throw_ne_ok {e : Error} {r r' : Reader} {a : α} :
    (throw e : Read α) r ≠ .ok (a, r') := by
  rintro ⟨⟩

/-! ## Local steps -/

/-- Reading takes text off the front and does nothing else to it. -/
def Shrinks (m : Read α) : Prop :=
  ∀ ⦃r a r'⦄, m r = .ok (a, r') → r'.rest <:+ r.rest

/-- As long as text is left, reading comes to the same result whether or not a
    closing parenthesis follows. A longer text may also lead to the results in `E`. -/
structure LocalBut (E : α → Reader → Prop) (m : Read α) : Prop where
  shrinks : Shrinks m
  ahead : ∀ ⦃r a r' x⦄, Closing x → r'.rest ≠ [] → m r = .ok (a, r') →
    m (r.append x) = .ok (a, r'.append x)
  back : ∀ ⦃r a r' x⦄, Closing x → r'.rest ≠ [] →
    m (r.append x) = .ok (a, r'.append x) → m r = .ok (a, r') ∨ E a r'

/-- `LocalBut` without exceptions. -/
abbrev Local (m : Read α) : Prop :=
  LocalBut (fun _ _ => False) m

theorem ne_nil_of_suffix {p q : List Char} (h : p <:+ q) (hp : p ≠ []) : q ≠ [] := by
  rintro rfl
  exact hp (List.suffix_nil.1 h)

theorem Shrinks.bind (hm : Shrinks m) (hf : ∀ a, Shrinks (f a)) : Shrinks (m >>= f) := by
  intro r b r'' h
  obtain ⟨a, r', hm', hf'⟩ := bind_eq_ok_iff.1 h
  exact (hf a hf').trans (hm hm')

/-- The exceptions of `m` must not lead to more than the exceptions in `F`. -/
theorem LocalBut.bind (hm : LocalBut E m) (hf : ∀ a, LocalBut F (f a))
    (hE : ∀ ⦃a r' b r'' x⦄, Closing x → E a r' → r''.rest ≠ [] →
      f a (r'.append x) = .ok (b, r''.append x) → F b r'') : LocalBut F (m >>= f) where
  shrinks := hm.shrinks.bind fun a => (hf a).shrinks
  ahead := by
    intro r b r'' x hx hne h
    obtain ⟨a, r', hm', hf'⟩ := bind_eq_ok_iff.1 h
    have hne' := ne_nil_of_suffix ((hf a).shrinks hf') hne
    exact bind_eq_ok_iff.2 ⟨a, _, hm.ahead hx hne' hm', (hf a).ahead hx hne hf'⟩
  back := by
    intro r b r'' x hx hne h
    obtain ⟨a, t, hm', hf'⟩ := bind_eq_ok_iff.1 h
    obtain ⟨r', rfl, hsuffix⟩ :=
      Reader.exists_eq_append (hm.shrinks hm') ((hf a).shrinks hf')
    rcases hm.back hx (ne_nil_of_suffix hsuffix hne) hm' with hm' | hexcept
    · rcases (hf a).back hx hne hf' with hf' | hexcept
      · exact .inl (bind_eq_ok_iff.2 ⟨a, r', hm', hf'⟩)
      · exact .inr hexcept
    · exact .inr (hE hx hexcept hne hf')

theorem Local.bind (hm : Local m) (hf : ∀ a, LocalBut F (f a)) : LocalBut F (m >>= f) :=
  LocalBut.bind hm hf fun _ _ _ _ _ _ hE => hE.elim

theorem localBut_pure (a : α) : LocalBut E (pure a : Read α) where
  shrinks := by
    intro r b r' h
    obtain ⟨-, rfl⟩ := pure_eq_ok_iff.1 h
    exact List.suffix_rfl
  ahead := by
    intro r b r' x _ _ h
    obtain ⟨rfl, rfl⟩ := pure_eq_ok_iff.1 h
    rfl
  back := by
    intro r b r' x _ _ h
    obtain ⟨rfl, heq⟩ := pure_eq_ok_iff.1 h
    obtain rfl := Reader.append_injective heq
    exact .inl rfl

theorem localBut_throw (e : Error) : LocalBut E (throw e : Read α) where
  shrinks := fun _ _ _ h => absurd h throw_ne_ok
  ahead := fun _ _ _ _ _ _ h => absurd h throw_ne_ok
  back := fun _ _ _ _ _ _ h => absurd h throw_ne_ok

theorem LocalBut.ite {c : Prop} [Decidable c] {m m' : Read α} (h : c → LocalBut E m)
    (h' : ¬c → LocalBut E m') : LocalBut E (if c then m else m') := by
  split
  · exact h ‹_›
  · exact h' ‹_›

/-! ## Exact steps -/

/-- The step takes off the whole text and, as the text ends in a comment, also
    what follows it on the line. -/
structure Swallows (m : Read α) (r : Reader) (a : α) (r' : Reader) : Prop where
  at_end : r'.rest = []
  reads : ∀ ⦃x⦄, Closing x → '\n' ∉ x → m (r.append x) = .ok (a, r')
  spills : ∀ ⦃x b t⦄, Closing x → m (r.append x) = .ok (b, t) → t.rest.length < x.length

/-- The step comes to the same result if a closing parenthesis follows, or its
    text ends in a comment. -/
def Carries (m : Read α) (r : Reader) (a : α) (r' : Reader) : Prop :=
  (∀ ⦃x⦄, Closing x → m (r.append x) = .ok (a, r'.append x)) ∨ Swallows m r a r'

/-- A step for which a closing parenthesis is as good as the end of the text. -/
structure Exact (m : Read α) : Prop where
  shrinks : Shrinks m
  forth : ∀ ⦃r a r'⦄, m r = .ok (a, r') → Carries m r a r'
  back : ∀ ⦃r a r' x⦄, Closing x → m (r.append x) = .ok (a, r'.append x) → m r = .ok (a, r')

/-- A step that takes a character off a text that has one, and is exact there. -/
structure Taking (m : Read α) : Prop where
  shorter : ∀ ⦃r a r'⦄, r.rest ≠ [] → m r = .ok (a, r') → r'.rest <:+ r.rest.tail
  forth : ∀ ⦃r a r'⦄, r.rest ≠ [] → m r = .ok (a, r') → Carries m r a r'
  back : ∀ ⦃r a r' x⦄, r.rest ≠ [] → Closing x → m (r.append x) = .ok (a, r'.append x) →
    m r = .ok (a, r')

/-- A step that takes a character and fails at the end of a text. -/
structure Demanding (m : Read α) : Prop extends Taking m where
  ne_nil : ∀ ⦃r a r'⦄, m r = .ok (a, r') → r.rest ≠ []

theorem Exact.localBut (h : Exact m) : LocalBut E m where
  shrinks := h.shrinks
  ahead := by
    intro r a r' x hx hne hm
    rcases h.forth hm with hsame | hswallows
    · exact hsame hx
    · exact absurd hswallows.at_end hne
  back := fun _ _ _ _ hx _ hm => .inl (h.back hx hm)

/-- A step that takes a character of `x` does not give `x` back. -/
theorem Taking.rest_ne_nil (h : Taking m) {r r' : Reader} {a : α} {x : List Char}
    (hx : Closing x) (hm : m (r.append x) = .ok (a, r'.append x)) : r.rest ≠ [] := by
  intro hr
  have hne : (r.append x).rest ≠ [] := by
    rw [Reader.append_rest, hr]
    exact hx.ne_nil
  have hle := (h.shorter hne hm).length_le
  obtain ⟨y, rfl⟩ := hx
  simp only [Reader.append_rest, hr, List.nil_append, List.tail_cons, List.length_append,
    List.length_cons] at hle
  omega

theorem Demanding.exact (h : Demanding m) : Exact m where
  shrinks := fun r _ _ hm => (h.shorter (h.ne_nil hm) hm).trans (List.tail_suffix r.rest)
  forth := fun _ _ _ hm => h.forth (h.ne_nil hm) hm
  back := fun _ _ _ _ hx hm => h.back (h.rest_ne_nil hx hm) hx hm

theorem Demanding.localBut (h : Demanding m) : LocalBut E m :=
  h.exact.localBut

theorem Carries.bind {r r' r'' : Reader} {a : α} {b : β} (h : Carries m r a r')
    (hf : f a r' = .ok (b, r'')) (h' : Carries (f a) r' b r'')
    (hshrinks : ∀ a, Shrinks (f a)) : Carries (m >>= f) r b r'' := by
  rcases h with hsame | hswallows
  · rcases h' with hsame' | hswallows'
    · exact .inl fun x hx => bind_eq_ok_iff.2 ⟨a, _, hsame hx, hsame' hx⟩
    · refine .inr ⟨hswallows'.at_end, fun x hx hline => ?_, fun x c t hx ht => ?_⟩
      · exact bind_eq_ok_iff.2 ⟨a, _, hsame hx, hswallows'.reads hx hline⟩
      · rw [bind_eq_of_eq_ok (hsame hx)] at ht
        exact hswallows'.spills hx ht
  -- once the first step has swallowed the text, nothing is left for the second one
  · have hend : r''.rest = [] := by
      have hsuffix := hshrinks a hf
      rw [hswallows.at_end] at hsuffix
      exact List.suffix_nil.1 hsuffix
    refine .inr ⟨hend, fun x hx hline => ?_, fun x c t hx ht => ?_⟩
    · exact bind_eq_ok_iff.2 ⟨a, _, hswallows.reads hx hline, hf⟩
    · obtain ⟨d, t', hm, ht⟩ := bind_eq_ok_iff.1 ht
      exact Nat.lt_of_le_of_lt (hshrinks d ht).length_le (hswallows.spills hx hm)

theorem Exact.bind (hm : Exact m) (hf : ∀ a, Exact (f a)) : Exact (m >>= f) where
  shrinks := hm.shrinks.bind fun a => (hf a).shrinks
  forth := by
    intro r b r'' h
    obtain ⟨a, r', hm', hf'⟩ := bind_eq_ok_iff.1 h
    exact (hm.forth hm').bind hf' ((hf a).forth hf') fun a => (hf a).shrinks
  back := by
    intro r b r'' x hx h
    obtain ⟨a, t, hm', hf'⟩ := bind_eq_ok_iff.1 h
    obtain ⟨r', rfl, -⟩ := Reader.exists_eq_append (hm.shrinks hm') ((hf a).shrinks hf')
    exact bind_eq_ok_iff.2 ⟨a, r', hm.back hx hm', (hf a).back hx hf'⟩

theorem Taking.bind (hm : Taking m) (hf : ∀ a, Exact (f a)) : Taking (m >>= f) where
  shorter := by
    intro r b r'' hne h
    obtain ⟨a, r', hm', hf'⟩ := bind_eq_ok_iff.1 h
    exact ((hf a).shrinks hf').trans (hm.shorter hne hm')
  forth := by
    intro r b r'' hne h
    obtain ⟨a, r', hm', hf'⟩ := bind_eq_ok_iff.1 h
    exact (hm.forth hne hm').bind hf' ((hf a).forth hf') fun a => (hf a).shrinks
  back := by
    intro r b r'' x hne hx h
    obtain ⟨a, t, hm', hf'⟩ := bind_eq_ok_iff.1 h
    have hsuffix : t.rest <:+ r.rest ++ x :=
      (hm.shorter (List.append_ne_nil_of_left_ne_nil hne x) hm').trans (List.tail_suffix _)
    obtain ⟨r', rfl, -⟩ := Reader.exists_eq_append hsuffix ((hf a).shrinks hf')
    exact bind_eq_ok_iff.2 ⟨a, r', hm.back hne hx hm', (hf a).back hx hf'⟩

theorem Demanding.bind (hm : Demanding m) (hf : ∀ a, Exact (f a)) : Demanding (m >>= f) where
  toTaking := hm.toTaking.bind hf
  ne_nil := by
    intro r b r'' h
    obtain ⟨a, r', hm', -⟩ := bind_eq_ok_iff.1 h
    exact hm.ne_nil hm'

/-- After a local step, a step that takes a character tells the end of the text
    from a closing parenthesis. -/
theorem Demanding.of_localBut (hm : LocalBut E m) (hf : ∀ a, Demanding (f a))
    (hE : ∀ ⦃a r' b t x⦄, Closing x → E a r' → f a (r'.append x) = .ok (b, t) →
      t.rest.length < x.length) : Demanding (m >>= f) := by
  have hshorter : ∀ ⦃r a r'⦄, (m >>= f) r = .ok (a, r') → r'.rest <:+ r.rest.tail := by
    intro r b r'' h
    obtain ⟨a, r', hm', hf'⟩ := bind_eq_ok_iff.1 h
    obtain ⟨p, hp⟩ := hm.shrinks hm'
    have hlt := (hf a).shorter ((hf a).ne_nil hf') hf'
    rw [← hp]
    -- the character is taken by the second step if the first one took none
    rcases p with _ | ⟨c, p⟩
    · exact hlt
    · exact hlt.trans ((List.tail_suffix r'.rest).trans (List.suffix_append p r'.rest))
  refine { shorter := fun r a r' _ h => hshorter h, forth := ?_, back := ?_, ne_nil := ?_ }
  · intro r b r'' _ h
    obtain ⟨a, r', hm', hf'⟩ := bind_eq_ok_iff.1 h
    have hne := (hf a).ne_nil hf'
    have hsame : Carries m r a r' := .inl fun x hx => hm.ahead hx hne hm'
    exact hsame.bind hf' ((hf a).forth hne hf') fun a => (hf a).exact.shrinks
  · intro r b r'' x _ hx h
    obtain ⟨a, t, hm', hf'⟩ := bind_eq_ok_iff.1 h
    obtain ⟨r', rfl, -⟩ :=
      Reader.exists_eq_append (hm.shrinks hm') ((hf a).exact.shrinks hf')
    -- the second step gives `x` back, so it found text of its own, where the first one is local
    have hne := (hf a).rest_ne_nil hx hf'
    rcases hm.back hx hne hm' with hm' | hexcept
    · exact bind_eq_ok_iff.2 ⟨a, r', hm', (hf a).back hne hx hf'⟩
    · have hlt := hE hx hexcept hf'
      rw [Reader.append_rest, List.length_append] at hlt
      omega
  · intro r b r'' h
    obtain ⟨a, r', hm', hf'⟩ := bind_eq_ok_iff.1 h
    exact ne_nil_of_suffix (hm.shrinks hm') ((hf a).ne_nil hf')

theorem Demanding.of_local (hm : Local m) (hf : ∀ a, Demanding (f a)) : Demanding (m >>= f) :=
  Demanding.of_localBut hm hf fun _ _ _ _ _ _ hE => hE.elim

/-- A step that does the same with and without more text at the end. -/
theorem Exact.of_append_eq (hshrinks : Shrinks m)
    (h : ∀ ⦃r x⦄, Closing x →
      m (r.append x) = (m r).map fun (a, r') => (a, Reader.append r' x)) : Exact m where
  shrinks := hshrinks
  forth := by
    intro r a r' hm
    refine .inl fun x hx => ?_
    rw [h hx, hm]
    rfl
  back := by
    intro r a r' x hx hm
    rw [h hx] at hm
    rcases hr : m r with e | ⟨b, t⟩
    · rw [hr] at hm
      exact absurd hm nofun
    · rw [hr] at hm
      obtain ⟨rfl, heq⟩ := Prod.mk.inj (Except.ok.inj hm)
      rw [Reader.append_injective heq]

theorem exact_pure (a : α) : Exact (pure a : Read α) where
  shrinks := (localBut_pure (E := fun _ _ => False) a).shrinks
  forth := by
    intro r b r' h
    obtain ⟨rfl, rfl⟩ := pure_eq_ok_iff.1 h
    exact .inl fun _ _ => rfl
  back := by
    intro r b r' x _ h
    obtain ⟨rfl, heq⟩ := pure_eq_ok_iff.1 h
    obtain rfl := Reader.append_injective heq
    rfl

theorem demanding_throw (e : Error) : Demanding (throw e : Read α) where
  shorter := fun _ _ _ _ h => absurd h throw_ne_ok
  forth := fun _ _ _ _ h => absurd h throw_ne_ok
  back := fun _ _ _ _ _ _ h => absurd h throw_ne_ok
  ne_nil := fun _ _ _ h => absurd h throw_ne_ok

theorem exact_throw (e : Error) : Exact (throw e : Read α) :=
  (demanding_throw e).exact

theorem taking_throw (e : Error) : Taking (throw e : Read α) :=
  (demanding_throw e).toTaking

theorem Exact.ite {c : Prop} [Decidable c] {m m' : Read α} (h : c → Exact m)
    (h' : ¬c → Exact m') : Exact (if c then m else m') := by
  split
  · exact h ‹_›
  · exact h' ‹_›

theorem Demanding.ite {c : Prop} [Decidable c] {m m' : Read α} (h : c → Demanding m)
    (h' : ¬c → Demanding m') : Demanding (if c then m else m') := by
  split
  · exact h ‹_›
  · exact h' ‹_›

theorem Taking.ite {c : Prop} [Decidable c] {m m' : Read α} (h : c → Taking m)
    (h' : ¬c → Taking m') : Taking (if c then m else m') := by
  split
  · exact h ‹_›
  · exact h' ‹_›

end Read

end JavaLint.Regex
