import Mathlib.Data.List.Forall2
/-!
# Computations that can fail

What a computation that is made of several ones has gone through when it
succeeds.

## Main definitions

- `Except.Follows` — one computation does what another one does, up to a map
- `Except.Leads` — one computation does what another one does, up to a relation
- `Except.FailsBy` — a computation fails for the first reason that there is on a list

## Main statements

- `Except.bind_eq_ok_iff`, `Except.map_eq_ok_iff` — both parts succeed
- `List.foldlM_eq_ok_induction` — an invariant of all steps holds at the end
- `List.mapM_eq_ok_iff`, `List.mapM_eq_error_iff` — all elements succeed, or a first one fails
- `Except.Follows.bind`, `Except.follows_foldlM` — what is made of parts that follow others
- `Except.Leads.bind`, `Except.leads_foldlM` — the same for relations
- `Except.FailsBy.bind` — the reasons against the first part come before those against the rest
-/

variable {ε ε' α β : Type}

namespace Except

theorem bind_eq_ok_iff {x : Except ε α} {f : α → Except ε β} {b : β} :
    x >>= f = .ok b ↔ ∃ a, x = .ok a ∧ f a = .ok b := by
  cases x with
  | error e => exact ⟨nofun, fun ⟨_, h, _⟩ => nomatch h⟩
  | ok a => exact ⟨fun h => ⟨a, rfl, h⟩, fun ⟨_, ha, h⟩ => Except.ok.inj ha ▸ h⟩

theorem map_eq_ok_iff {x : Except ε α} {f : α → β} {b : β} :
    f <$> x = .ok b ↔ ∃ a, x = .ok a ∧ f a = b := by
  cases x with
  | error e => exact ⟨nofun, fun ⟨_, h, _⟩ => nomatch h⟩
  | ok a =>
    exact ⟨fun h => ⟨a, rfl, Except.ok.inj h⟩, fun ⟨_, ha, h⟩ => congrArg _ (Except.ok.inj ha ▸ h)⟩

theorem map_eq_error_iff {x : Except ε α} {f : α → β} {e : ε} :
    f <$> x = .error e ↔ x = .error e := by
  cases x with
  | error e' =>
    exact ⟨fun h => congrArg _ (Except.error.inj h), fun h => congrArg _ (Except.error.inj h)⟩
  | ok a => exact ⟨nofun, nofun⟩

theorem exists_eq_ok_of_isOk {x : Except ε α} (h : x.isOk = true) : ∃ a, x = .ok a := by
  cases x with
  | error e => cases h
  | ok a => exact ⟨a, rfl⟩

theorem mapError_eq_ok_iff {x : Except ε α} {f : ε → ε'} {a : α} :
    x.mapError f = .ok a ↔ x = .ok a := by
  cases x with
  | error e => exact ⟨nofun, nofun⟩
  | ok a' => exact ⟨fun h => congrArg _ (Except.ok.inj h), fun h => congrArg _ (Except.ok.inj h)⟩

theorem mapError_eq_error_iff {x : Except ε α} {f : ε → ε'} {e' : ε'} :
    x.mapError f = .error e' ↔ ∃ e, x = .error e ∧ f e = e' := by
  cases x with
  | error e =>
    exact ⟨fun h => ⟨e, rfl, Except.error.inj h⟩,
      fun ⟨_, he, h⟩ => congrArg _ (Except.error.inj he ▸ h)⟩
  | ok a => exact ⟨nofun, fun ⟨_, h, _⟩ => nomatch h⟩

theorem bind_eq_error_iff {x : Except ε α} {f : α → Except ε β} {e : ε} :
    x >>= f = .error e ↔ x = .error e ∨ ∃ a, x = .ok a ∧ f a = .error e := by
  cases x with
  | error e' => simp [bind, Except.bind]
  | ok a => simp [bind, Except.bind]

end Except

/-- What holds at the start and is kept by each step holds at the end. -/
theorem List.foldlM_eq_ok_induction {f : β → α → Except ε β} {P : β → Prop} {l : List α} {b b' : β}
    (h : l.foldlM f b = .ok b') (hb : P b)
    (step : ∀ a ∈ l, ∀ b b', f b a = .ok b' → P b → P b') : P b' := by
  induction l generalizing b with
  | nil => exact Except.ok.inj h ▸ hb
  | cons a l ih =>
    obtain ⟨b₁, hfirst, hrest⟩ := Except.bind_eq_ok_iff.1 h
    refine ih hrest (step a List.mem_cons_self b b₁ hfirst hb) ?_
    exact fun a' ha' => step a' (List.mem_cons_of_mem a ha')

/-- A list of computations yields the values of all of them. -/
theorem List.mapM_eq_ok_iff {f : α → Except ε β} {l : List α} {bs : List β} :
    l.mapM f = .ok bs ↔ l.map f = bs.map .ok := by
  induction l generalizing bs with
  | nil =>
    rw [List.mapM_nil, List.map_nil, eq_comm (a := []), List.map_eq_nil_iff]
    exact ⟨fun h => (Except.ok.inj h).symm, fun h => congrArg _ h.symm⟩
  | cons a l ih =>
    rw [List.mapM_cons, List.map_cons, Except.bind_eq_ok_iff]
    simp only [Except.bind_eq_ok_iff, ih]
    constructor
    · rintro ⟨b, hb, rest, hrest, h⟩
      obtain rfl := Except.ok.inj h
      rw [hb, hrest, List.map_cons]
    · intro h
      cases bs with
      | nil => cases h
      | cons b rest =>
        obtain ⟨hb, hrest⟩ := List.cons.inj h
        exact ⟨b, hb, rest, hrest, rfl⟩

theorem List.mem_iff_of_mapM_eq_ok {f : α → Except ε β} {l : List α} {bs : List β}
    (h : l.mapM f = .ok bs) {b : β} : b ∈ bs ↔ ∃ a ∈ l, f a = .ok b := by
  have hmem : .ok b ∈ l.map f ↔ .ok b ∈ bs.map (Except.ok (ε := ε)) := by
    rw [List.mapM_eq_ok_iff.1 h]
  simp only [List.mem_map, Except.ok.injEq, exists_eq_right] at hmem
  exact hmem.symm

/-- The error of a list of computations is that of the first one that fails. -/
theorem List.mapM_eq_error_iff {f : α → Except ε β} {l : List α} {e : ε} :
    l.mapM f = .error e ↔ ∃ before a after, l = before ++ a :: after ∧
      (∀ b ∈ before, ∃ y, f b = .ok y) ∧ f a = .error e := by
  induction l with
  | nil =>
    constructor
    · exact nofun
    · rintro ⟨before, a, after, hnil, -⟩
      exact absurd hnil (by simp)
  | cons a l ih =>
    rw [List.mapM_cons, Except.bind_eq_error_iff]
    constructor
    · rintro (hfirst | ⟨y, hfirst, hrest⟩)
      · exact ⟨[], a, l, rfl, by simp, hfirst⟩
      · obtain hrest | ⟨_, _, hpure⟩ := Except.bind_eq_error_iff.1 hrest
        · obtain ⟨before, b, after, rfl, hbefore, hb⟩ := ih.1 hrest
          refine ⟨a :: before, b, after, rfl, ?_, hb⟩
          exact List.forall_mem_cons.2 ⟨⟨y, hfirst⟩, hbefore⟩
        · cases hpure
    · rintro ⟨before, b, after, hsplit, hbefore, hb⟩
      cases before with
      | nil =>
        obtain ⟨rfl, rfl⟩ := List.cons.inj hsplit
        exact .inl hb
      | cons c before =>
        obtain ⟨rfl, rfl⟩ := List.cons.inj hsplit
        obtain ⟨⟨y, hy⟩, hbefore⟩ := List.forall_mem_cons.1 hbefore
        have hrest := ih.2 ⟨before, b, after, rfl, hbefore, hb⟩
        exact .inr ⟨y, hy, Except.bind_eq_error_iff.2 (.inl hrest)⟩

/-- All computations of a list succeed if each one does. -/
theorem List.exists_mapM_eq_ok_iff {f : α → Except ε β} {l : List α} :
    (∃ bs, l.mapM f = .ok bs) ↔ ∀ a ∈ l, ∃ b, f a = .ok b := by
  constructor
  · rintro ⟨bs, h⟩ a ha
    have hmem := List.mem_map_of_mem (f := f) ha
    rw [List.mapM_eq_ok_iff.1 h] at hmem
    obtain ⟨b, -, hb⟩ := List.mem_map.1 hmem
    exact ⟨b, hb.symm⟩
  · intro hall
    cases h : l.mapM f with
    | ok bs => exact ⟨bs, rfl⟩
    | error e =>
      obtain ⟨before, a, after, rfl, -, ha⟩ := List.mapM_eq_error_iff.1 h
      obtain ⟨b, hb⟩ := hall a (List.mem_append_right before List.mem_cons_self)
      exact nomatch ha.symm.trans hb

namespace Except

variable {γ δ : Type} {f : α → β} {g : γ → δ} {x : Except ε α} {y : Except ε β}
  {R : α → β → Prop} {Q : γ → δ → Prop}

/-- Wherever `x` succeeds, `y` does with a related value. -/
def Leads (R : α → β → Prop) (x : Except ε α) (y : Except ε β) : Prop :=
  ∀ a, x = .ok a → ∃ b, y = .ok b ∧ R a b

theorem leads_ok {a : α} {b : β} (h : R a b) : Leads R (.ok a : Except ε α) (.ok b) := by
  rintro _ ⟨⟩
  exact ⟨b, rfl, h⟩

theorem Leads.bind {k : α → Except ε γ} {l : β → Except ε δ} (h : Leads R x y)
    (hk : ∀ a b, R a b → Leads Q (k a) (l b)) : Leads Q (x >>= k) (y >>= l) := by
  intro c hc
  obtain ⟨a, hx, hka⟩ := bind_eq_ok_iff.1 hc
  obtain ⟨b, hy, hab⟩ := h a hx
  obtain ⟨d, hlb, hcd⟩ := hk a b hab c hka
  exact ⟨d, bind_eq_ok_iff.2 ⟨b, hy, hlb⟩, hcd⟩

theorem Leads.map {k : α → γ} {l : β → δ} (h : Leads R x y) (hk : ∀ a b, R a b → Q (k a) (l b)) :
    Leads Q (k <$> x) (l <$> y) := by
  intro c hc
  obtain ⟨a, hx, rfl⟩ := map_eq_ok_iff.1 hc
  obtain ⟨b, hy, hab⟩ := h a hx
  exact ⟨l b, map_eq_ok_iff.2 ⟨b, hy, rfl⟩, hk a b hab⟩

/-- Steps that lead to related values one by one do so one after the other. -/
theorem leads_foldlM {step : α → γ → Except ε α} {step' : β → δ → Except ε β} {l : List γ}
    {l' : List δ} {a : α} {b : β} (hl : List.Forall₂ Q l l')
    (h : ∀ a b c d, R a b → Q c d → Leads R (step a c) (step' b d)) (hab : R a b) :
    Leads R (l.foldlM step a) (l'.foldlM step' b) := by
  induction hl generalizing a b with
  | nil => exact leads_ok hab
  | cons hcd _ ih => exact (h _ _ _ _ hab hcd).bind fun _ _ hab => ih hab

/-- Wherever `x` succeeds, `y` does with the image of its value. -/
def Follows (f : α → β) (x : Except ε α) (y : Except ε β) : Prop :=
  ∀ a, x = .ok a → y = .ok (f a)

theorem follows_iff_leads : Follows f x y ↔ Leads (fun a b => b = f a) x y := by
  simp only [Follows, Leads, exists_eq_right]

theorem follows_ok (f : α → β) (a : α) : Follows f (.ok a : Except ε α) (.ok (f a)) :=
  follows_iff_leads.2 (leads_ok rfl)

theorem Follows.bind {k : α → Except ε γ} {l : β → Except ε δ} (h : Follows f x y)
    (hk : ∀ a, Follows g (k a) (l (f a))) : Follows g (x >>= k) (y >>= l) := by
  refine follows_iff_leads.2 ((follows_iff_leads.1 h).bind ?_)
  rintro a _ rfl
  exact follows_iff_leads.1 (hk a)

theorem Follows.map {k : α → γ} {l : β → δ} (h : Follows f x y) (hk : ∀ a, g (k a) = l (f a)) :
    Follows g (k <$> x) (l <$> y) := by
  refine follows_iff_leads.2 ((follows_iff_leads.1 h).map ?_)
  rintro a _ rfl
  exact (hk a).symm

/-- Steps that follow others one by one do so one after the other. -/
theorem follows_foldlM {step : α → γ → Except ε α} {step' : β → δ → Except ε β}
    (h : ∀ a c, Follows f (step a c) (step' (f a) (g c))) (l : List γ) (a : α) :
    Follows f (l.foldlM step a) ((l.map g).foldlM step' (f a)) := by
  have hl : List.Forall₂ (fun c d => d = g c) l (l.map g) :=
    List.forall₂_map_right_iff.2 (List.forall₂_same.2 fun _ _ => rfl)
  refine follows_iff_leads.2 (leads_foldlM hl ?_ rfl)
  rintro a _ c _ rfl rfl
  exact follows_iff_leads.1 (h a c)

/-! ## Reasons to fail -/

/-- Of the reasons on a list, the first one that there is gives `e`. -/
inductive FirstOf : List (ε → Prop) → ε → Prop
  | here {F : ε → Prop} {Fs : List (ε → Prop)} {e : ε} : F e → FirstOf (F :: Fs) e
  | there {F : ε → Prop} {Fs : List (ε → Prop)} {e : ε} : (∀ e, ¬ F e) → FirstOf Fs e →
      FirstOf (F :: Fs) e

variable {F : ε → Prop} {Fs Gs : List (ε → Prop)} {e : ε}

theorem not_firstOf_nil : ¬ FirstOf [] e :=
  nofun

theorem firstOf_singleton : FirstOf [F] e ↔ F e := by
  constructor
  · rintro (h | ⟨-, h⟩)
    · exact h
    · exact absurd h not_firstOf_nil
  · exact .here

theorem firstOf_append :
    FirstOf (Fs ++ Gs) e ↔ FirstOf Fs e ∨ (∀ e, ¬ FirstOf Fs e) ∧ FirstOf Gs e := by
  induction Fs with
  | nil => exact ⟨fun h => .inr ⟨fun _ => not_firstOf_nil, h⟩, fun h => h.elim nofun And.right⟩
  | cons F Fs ih =>
    constructor
    · rintro (h | ⟨hno, h⟩)
      · exact .inl (.here h)
      · rcases ih.1 h with h | ⟨hnone, h⟩
        · exact .inl (.there hno h)
        · refine .inr ⟨fun e hfirst => ?_, h⟩
          cases hfirst with
          | here h => exact hno e h
          | there _ h => exact hnone e h
    · rintro ((h | ⟨hno, h⟩) | ⟨hnone, h⟩)
      · exact .here h
      · exact .there hno (ih.2 (.inl h))
      · by_cases hF : ∃ e, F e
        · obtain ⟨e, he⟩ := hF
          exact absurd (.here he) (hnone e)
        · have hno : ∀ e, ¬ F e := fun e he => hF ⟨e, he⟩
          exact .there hno (ih.2 (.inr ⟨fun e h => hnone e (.there hno h), h⟩))

/-- `x` fails just if there is one of the reasons `Fs`, with what the first one gives. -/
def FailsBy (Fs : List (ε → Prop)) (x : Except ε α) : Prop :=
  ∀ e, x = .error e ↔ FirstOf Fs e

theorem failsBy_ok (a : α) : FailsBy [] (.ok a : Except ε α) :=
  fun _ => ⟨nofun, nofun⟩

theorem FailsBy.of_iff (h : ∀ e, x = .error e ↔ F e) : FailsBy [F] x :=
  fun e => (h e).trans firstOf_singleton.symm

theorem FailsBy.eq_ok_iff (h : FailsBy Fs x) : (∃ a, x = .ok a) ↔ ∀ e, ¬ FirstOf Fs e := by
  constructor
  · rintro ⟨a, rfl⟩ e he
    cases (h e).2 he
  · intro hno
    cases hx : x with
    | ok a => exact ⟨a, rfl⟩
    | error e => exact absurd ((h e).1 hx) (hno e)

/-- The reasons against the first part come before those against the rest. -/
theorem FailsBy.bind {k : α → Except ε γ} (h : FailsBy Fs x)
    (hk : ∀ a, x = .ok a → FailsBy Gs (k a)) : FailsBy (Fs ++ Gs) (x >>= k) := by
  intro e
  rw [bind_eq_error_iff, firstOf_append, h e, ← h.eq_ok_iff]
  refine or_congr_right ⟨?_, ?_⟩
  · rintro ⟨a, hx, hka⟩
    exact ⟨⟨a, hx⟩, (hk a hx e).1 hka⟩
  · rintro ⟨⟨a, hx⟩, he⟩
    exact ⟨a, hx, (hk a hx e).2 he⟩

/-- The one reason against the first part comes before those against the rest. -/
theorem FailsBy.bind_of_iff {k : α → Except ε γ} (h : ∀ e, x = .error e ↔ F e)
    (hk : ∀ a, x = .ok a → FailsBy Gs (k a)) : FailsBy (F :: Gs) (x >>= k) :=
  (of_iff h).bind hk

/-- What is made of the value gives no reason to fail. -/
theorem FailsBy.bind_ok {k : α → Except ε γ} (h : FailsBy Fs x) (hk : ∀ a, ∃ c, k a = .ok c) :
    FailsBy Fs (x >>= k) := by
  have hnone : ∀ a, x = .ok a → FailsBy [] (k a) := by
    intro a _
    obtain ⟨c, hc⟩ := hk a
    rw [hc]
    exact failsBy_ok c
  have hbind := h.bind hnone
  rwa [List.append_nil] at hbind

end Except
