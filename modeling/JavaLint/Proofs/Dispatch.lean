import JavaLint.CheckSet
import JavaLint.Proofs.Except
import JavaLint.Proofs.Tree.Order
/-!
# Which checks see a node

A set of checks finds the checks for a node in its table. The table is filled
registration by registration, and holds for each token the checks that want it.

## Main definitions

- `Registration.Wants` — a check is handed the nodes with a token
- `Registration.Asks` — the same, said by the tokens of the registration
- `CheckSet.Serves` — a set of checks and its table agree with a list of registrations
- `CheckSet.Tabulates` — the table lists the checks in the order of their registration

## Main statements

- `CheckSet.ofRegistrations_induction` — what one more registration keeps holds of the whole set
- `CheckSet.serves_of_ofRegistrations` — the set of a list of registrations serves it
- `CheckSet.tabulates_of_ofRegistrations` — its table is in order and names its checks only
- `CheckSet.ofRegistrations_eq_error_iff` — the first registration that is refused decides
- `CheckSet.mem_inspect_iff` — an inspection yields what the registered checks say
    of the nodes that they want to see
-/

namespace JavaLint

namespace Registration

variable {r : Registration} {token : Token} {tokens : List Token} {e : CheckSetError}

/-- The first token that a registration is configured for and its check cannot process. -/
def Refuses (r : Registration) (token : Token) : Prop :=
  token ∉ r.check.acceptable ∧ ∃ earlier later, r.configured = earlier ++ token :: later ∧
    ∀ t ∈ earlier, t ∈ r.check.acceptable

/-- The check of a registration is handed the nodes with a token. -/
def Wants (r : Registration) (token : Token) : Prop :=
  ∃ tokens, r.wanted = .ok tokens ∧ token ∈ tokens

/-- A registration asks for a token if the check is configured for it, or needs it. -/
def Asks (r : Registration) (token : Token) : Prop :=
  token ∈ r.configured ∨ token ∈ r.check.required

instance (r : Registration) (token : Token) : Decidable (r.Asks token) :=
  inferInstanceAs (Decidable (_ ∨ _))

theorem mem_foldl_addToken (more : List Token) :
    token ∈ more.foldl addToken tokens ↔ token ∈ tokens ∨ token ∈ more := by
  induction more generalizing tokens with
  | nil => simp
  | cons next more ih =>
    have hadd : token ∈ addToken tokens next ↔ token ∈ tokens ∨ token = next := by
      unfold addToken
      split
      · next hmem => exact ⟨.inl, fun h => h.elim id fun heq => heq ▸ hmem⟩
      · simp
    rw [List.foldl_cons, ih, hadd, List.mem_cons, or_assoc]

theorem wants_iff_mem (h : r.wanted = .ok tokens) : r.Wants token ↔ token ∈ tokens := by
  constructor
  · rintro ⟨tokens', h', hmem⟩
    rw [h] at h'
    exact Except.ok.inj h' ▸ hmem
  · exact fun hmem => ⟨tokens, h, hmem⟩

theorem find?_unacceptable_eq_some_iff :
    r.configured.find? (fun t => decide (t ∉ r.check.acceptable)) = some token ↔
      r.Refuses token := by
  simp [Refuses, List.find?_eq_some_iff_append]

/-- The tokens of a registration are the configured and the required ones, if all
    configured ones are acceptable. -/
theorem wanted_eq_ok_iff :
    r.wanted = .ok tokens ↔ (∀ token ∈ r.configured, token ∈ r.check.acceptable) ∧
      tokens = (r.configured ++ r.check.required).foldl addToken [] := by
  unfold wanted
  split
  · next token hfind =>
    have hmem : token ∈ r.configured := List.mem_of_find?_eq_some hfind
    have hrefused : token ∉ r.check.acceptable := (find?_unacceptable_eq_some_iff.1 hfind).1
    exact ⟨nofun, fun h => absurd (h.1 token hmem) hrefused⟩
  · next hnone =>
    have hall : ∀ token ∈ r.configured, token ∈ r.check.acceptable := by
      simpa using List.find?_eq_none.1 hnone
    exact ⟨fun h => ⟨hall, (Except.ok.inj h).symm⟩, fun h => congrArg _ h.2.symm⟩

/-- The first configured token that is not acceptable is the error. -/
theorem wanted_eq_error_iff :
    r.wanted = .error e ↔
      ∃ token, r.Refuses token ∧ e = .unacceptableToken r.check.name token := by
  simp only [← find?_unacceptable_eq_some_iff]
  unfold wanted
  split
  · next token hfind =>
    simp only [hfind, Except.error.injEq, Option.some.injEq, exists_eq_left']
    exact eq_comm
  · next hnone => simp only [hnone, reduceCtorEq, false_and, exists_false]

theorem nodup_foldl_addToken (more : List Token) (h : tokens.Nodup) :
    (more.foldl addToken tokens).Nodup := by
  induction more generalizing tokens with
  | nil => exact h
  | cons next more ih =>
    refine ih ?_
    unfold addToken
    split
    · exact h
    · next hnew =>
      refine List.nodup_append.2 ⟨h, List.pairwise_singleton _ next, fun a ha b hb heq => hnew ?_⟩
      rwa [← List.mem_singleton.1 hb, ← heq]

theorem nodup_of_wanted (h : r.wanted = .ok tokens) : tokens.Nodup := by
  rw [(wanted_eq_ok_iff.1 h).2]
  exact nodup_foldl_addToken _ List.nodup_nil

theorem mem_iff_asks_of_wanted (h : r.wanted = .ok tokens) : token ∈ tokens ↔ r.Asks token := by
  rw [(wanted_eq_ok_iff.1 h).2, mem_foldl_addToken, List.mem_append]
  simp [Asks]

/-- A check sees the configured tokens and those that it needs. -/
theorem wants_iff_of_wanted (h : r.wanted = .ok tokens) :
    r.Wants token ↔ token ∈ r.configured ∨ token ∈ r.check.required := by
  rw [wants_iff_mem h]
  exact mem_iff_asks_of_wanted h

end Registration

namespace Dispatch

variable {d : Dispatch} {token t : Token} {i index : Nat} {tokens : List Token}

theorem lookup_cons_eq_ite (first : Token) (indices : List Nat) (rest : List (Token × List Nat)) :
    ((first, indices) :: rest).lookup t = if t = first then some indices else rest.lookup t := by
  rw [List.lookup_cons]
  split
  · next h => rw [if_pos (eq_of_beq h)]
  · next h => rw [if_neg (ne_of_beq_false h)]

theorem lookup_addEntry (token : Token) (index : Nat) (entries : List (Token × List Nat)) :
    (addEntry token index entries).lookup t =
      if t = token then some ((entries.lookup token).getD [] ++ [index]) else entries.lookup t := by
  induction entries with
  | nil => exact lookup_cons_eq_ite token [index] []
  | cons entry rest ih =>
    obtain ⟨first, indices⟩ := entry
    unfold addEntry
    split
    -- the entry of the token grows in its place
    · next hfirst =>
      simp only [lookup_cons_eq_ite, hfirst, if_true, Option.getD_some]
      split <;> rfl
    · next hfirst =>
      simp only [lookup_cons_eq_ite, ih, if_neg (Ne.symm hfirst)]
      by_cases ht : t = first
      · rw [if_pos ht, if_pos ht, if_neg fun h => hfirst (ht ▸ h)]
      · rw [if_neg ht, if_neg ht]

/-- A check is entered behind the others, once for each time that a token is listed. -/
theorem get?_add :
    ((d.add index tokens).get? t).getD [] =
      (d.get? t).getD [] ++ List.replicate (tokens.count t) index := by
  unfold add get?
  generalize d.entries = entries
  dsimp only
  induction tokens generalizing entries with
  | nil => simp
  | cons token tokens ih =>
    rw [List.foldl_cons, ih, lookup_addEntry]
    by_cases ht : t = token
    · rw [if_pos ht, ht, Option.getD_some, List.count_cons_self, List.replicate_succ,
        List.append_assoc, List.singleton_append]
    · rw [if_neg ht, List.count_cons_of_ne (Ne.symm ht)]

/-- A check is entered for each of its tokens, and nothing else changes. -/
theorem mem_get?_add :
    i ∈ ((d.add index tokens).get? t).getD [] ↔
      i ∈ (d.get? t).getD [] ∨ i = index ∧ t ∈ tokens := by
  rw [get?_add, List.mem_append, List.mem_replicate, ← Nat.pos_iff_ne_zero, List.count_pos_iff,
    and_comm]

/-- What holds of all indices in a table and of a new one holds when that has been entered. -/
theorem forall_mem_entries_add {P : Nat → Prop} (h : ∀ entry ∈ d.entries, ∀ i ∈ entry.2, P i)
    (hindex : P index) : ∀ entry ∈ (d.add index tokens).entries, ∀ i ∈ entry.2, P i := by
  have haddEntry : ∀ (token : Token) (entries : List (Token × List Nat)),
      (∀ entry ∈ entries, ∀ i ∈ entry.2, P i) →
        ∀ entry ∈ addEntry token index entries, ∀ i ∈ entry.2, P i := by
    intro token entries
    induction entries with
    | nil => simp [addEntry, hindex]
    | cons entry rest ih =>
      obtain ⟨first, indices⟩ := entry
      intro hentries
      obtain ⟨hfirst, hrest⟩ := List.forall_mem_cons.1 hentries
      unfold addEntry
      split
      · refine List.forall_mem_cons.2 ⟨fun i hi => ?_, hrest⟩
        rcases List.mem_append.1 hi with hi | hi
        · exact hfirst i hi
        · exact List.mem_singleton.1 hi ▸ hindex
      · exact List.forall_mem_cons.2 ⟨hfirst, ih hrest⟩
  unfold add
  dsimp only
  generalize d.entries = entries at h
  induction tokens generalizing entries with
  | nil => exact h
  | cons token tokens ih => exact ih _ (haddEntry token entries h)

end Dispatch

namespace CheckSet

variable {rs done : List Registration} {r : Registration} {s s' : CheckSet} {u : SourceUnit}
  {id : NodeId} {v : Violation} {e : CheckSetError}

/-- A set has the checks of a list of registrations, and its table says which
    of them want a token. -/
structure Serves (s : CheckSet) (rs : List Registration) : Prop where
  checks_eq : s.checks.toList = rs.map (·.check)
  exists_wanted {r : Registration} : r ∈ rs → ∃ tokens, r.wanted = .ok tokens
  mem_get?_iff (token : Token) (i : Nat) :
    i ∈ (s.dispatch.get? token).getD [] ↔ ∃ r, rs[i]? = some r ∧ r.Wants token

theorem add_eq_ok_iff :
    s.add r = .ok s' ↔ ∃ tokens, r.wanted = .ok tokens ∧
      s' = ⟨s.checks.push r.check, s.dispatch.add s.checks.size tokens⟩ := by
  unfold CheckSet.add
  cases r.wanted with
  | error e => simp
  | ok tokens => simp [eq_comm]

theorem add_eq_error_iff : s.add r = .error e ↔ r.wanted = .error e := by
  unfold CheckSet.add
  cases r.wanted with
  | error e' => simp
  | ok tokens => simp

theorem serves_empty : Serves {} [] where
  checks_eq := rfl
  exists_wanted h := absurd h List.not_mem_nil
  mem_get?_iff token i := by simp [Dispatch.get?]

theorem Serves.size_eq (hs : s.Serves rs) : s.checks.size = rs.length := by
  rw [← Array.length_toList, hs.checks_eq, List.length_map]

/-- One more check is entered in the table after the others. -/
theorem Serves.add (hs : s.Serves done) (h : s.add r = .ok s') : s'.Serves (done ++ [r]) := by
  obtain ⟨tokens, hwanted, rfl⟩ := add_eq_ok_iff.1 h
  refine ⟨?_, ?_, ?_⟩
  · rw [Array.toList_push, hs.checks_eq, List.map_append]
    rfl
  · intro r' hr'
    rcases List.mem_append.1 hr' with hr' | hr'
    · exact hs.exists_wanted hr'
    · rw [List.mem_singleton.1 hr']
      exact ⟨tokens, hwanted⟩
  · intro token i
    rw [Dispatch.mem_get?_add, hs.mem_get?_iff, hs.size_eq, List.getElem?_append]
    split
    · next hi =>
      -- the index of an old check is not the one of the new check
      simp [Nat.ne_of_lt hi]
    · next hi =>
      rw [List.getElem?_eq_none (Nat.not_lt.1 hi), ← Registration.wants_iff_mem hwanted,
        List.getElem?_singleton]
      by_cases hlast : i = done.length
      · simp [hlast]
      · have hlater : i - done.length ≠ 0 :=
          Nat.sub_ne_zero_of_lt (Nat.lt_of_le_of_ne (Nat.not_lt.1 hi) (Ne.symm hlast))
        simp [hlast, hlater]

/-- What holds of the empty set and is kept by one more registration holds of
    the set of a list of registrations. -/
theorem ofRegistrations_induction {P : CheckSet → List Registration → Prop}
    (h : ofRegistrations rs = .ok s) (empty : P {} [])
    (step : ∀ s s' done r, P s done → s.add r = .ok s' → P s' (done ++ [r])) : P s rs := by
  have hrest : ∀ (rest done : List Registration) (s₀ s : CheckSet), P s₀ done →
      rest.foldlM CheckSet.add s₀ = .ok s → P s (done ++ rest) := by
    -- what has been entered so far is a prefix of the registrations
    intro rest
    induction rest with
    | nil =>
      intro done s₀ s hs h
      rw [← Except.ok.inj h, List.append_nil]
      exact hs
    | cons r rest ih =>
      intro done s₀ s hs h
      obtain ⟨s₁, hadd, hrest⟩ := Except.bind_eq_ok_iff.1 h
      rw [← List.singleton_append, ← List.append_assoc]
      exact ih _ s₁ s (step s₀ s₁ done r hs hadd) hrest
  exact hrest rs [] {} s empty h

/-- The set of a list of registrations serves it. -/
theorem serves_of_ofRegistrations (h : ofRegistrations rs = .ok s) : s.Serves rs :=
  ofRegistrations_induction h serves_empty fun _ _ _ _ hs hadd => hs.add hadd

theorem Serves.getElem?_checks (hs : s.Serves rs) (i : Nat) :
    s.checks[i]? = (rs[i]?).map Registration.check := by
  rw [← Array.getElem?_toList, hs.checks_eq, List.getElem?_map]

/-- At a node, the checks that want its token have their say. -/
theorem Serves.mem_atNode_iff (hs : s.Serves rs) :
    v ∈ s.atNode u id ↔ ∃ node, u.tree.get? id = some node ∧
      ∃ r ∈ rs, r.Wants node.kind.token ∧ r.check.evaluate u id = some v := by
  unfold atNode
  cases u.tree.get? id with
  | none => simp
  | some node =>
    simp only [List.mem_filterMap, hs.mem_get?_iff, hs.getElem?_checks, Option.some.injEq,
      exists_eq_left']
    constructor
    · rintro ⟨i, ⟨r, hr, hwants⟩, heval⟩
      rw [hr] at heval
      exact ⟨r, List.mem_of_getElem? hr, hwants, heval⟩
    · rintro ⟨r, hr, hwants, heval⟩
      obtain ⟨i, hi⟩ := List.mem_iff_getElem?.1 hr
      refine ⟨i, ⟨r, hi, hwants⟩, ?_⟩
      rw [hi]
      exact heval

/-- An inspection yields what the registered checks say of the nodes that they
    want to see. -/
theorem mem_inspect_iff (h : ofRegistrations rs = .ok s) (hu : u.tree.WellFormed) :
    v ∈ s.inspect u ↔ ∃ id node, u.tree.get? id = some node ∧
      ∃ r ∈ rs, r.Wants node.kind.token ∧ r.check.evaluate u id = some v := by
  have hs := serves_of_ofRegistrations h
  unfold inspect
  rw [List.mem_mergeSort, List.mem_flatMap]
  simp only [hs.mem_atNode_iff, hu.mem_preorder]
  constructor
  · rintro ⟨id, -, node, hnode, hsay⟩
    exact ⟨id, node, hnode, hsay⟩
  · rintro ⟨id, node, hnode, hsay⟩
    exact ⟨id, Tree.lt_size_of_get? hnode, node, hnode, hsay⟩

/-! ## The order of the table -/

/-- The table of a set lists for each token the indices of the registrations that
    ask for it, in their order, and has no other indices than those of the checks. -/
structure Tabulates (s : CheckSet) (rs : List Registration) : Prop where
  get?_eq (token : Token) :
    (s.dispatch.get? token).getD [] = (rs.zipIdx.filter fun r => r.1.Asks token).map Prod.snd
  lt_size : ∀ entry ∈ s.dispatch.entries, ∀ i ∈ entry.2, i < s.checks.size

theorem tabulates_empty : Tabulates {} [] where
  get?_eq _ := rfl
  lt_size _ hentry := absurd hentry List.not_mem_nil

theorem Tabulates.add (ht : s.Tabulates done) (hs : s.Serves done) (h : s.add r = .ok s') :
    s'.Tabulates (done ++ [r]) := by
  obtain ⟨tokens, hwanted, rfl⟩ := add_eq_ok_iff.1 h
  refine ⟨fun token => ?_, ?_⟩
  · have hmem : token ∈ tokens ↔ r.Asks token := Registration.mem_iff_asks_of_wanted hwanted
    rw [Dispatch.get?_add, ht.get?_eq, hs.size_eq, (Registration.nodup_of_wanted hwanted).count,
      List.zipIdx_append, List.filter_append, List.map_append, List.zipIdx_singleton, Nat.zero_add]
    by_cases hasks : r.Asks token
    · simp [hasks, hmem.2 hasks]
    · simp [hasks, mt hmem.1 hasks]
  · dsimp only
    rw [Array.size_push]
    refine Dispatch.forall_mem_entries_add (fun entry hentry i hi => ?_) (Nat.lt_succ_self _)
    exact Nat.lt_succ_of_lt (ht.lt_size entry hentry i hi)

/-- The table of the set of a list of registrations is in their order. -/
theorem tabulates_of_ofRegistrations (h : ofRegistrations rs = .ok s) : s.Tabulates rs := by
  have hboth : s.Serves rs ∧ s.Tabulates rs := by
    refine ofRegistrations_induction (P := fun s rs => s.Serves rs ∧ s.Tabulates rs) h
      ⟨serves_empty, tabulates_empty⟩ ?_
    rintro s s' done r ⟨hs, ht⟩ hadd
    exact ⟨hs.add hadd, ht.add hs hadd⟩
  exact hboth.2

/-! ## When there is no set -/

theorem foldlM_add_eq_error_iff :
    rs.foldlM CheckSet.add s = .error e ↔ rs.mapM Registration.wanted = .error e := by
  induction rs generalizing s with
  | nil => exact ⟨nofun, nofun⟩
  | cons r rs ih =>
    rw [List.foldlM_cons, List.mapM_cons, Except.bind_eq_error_iff, Except.bind_eq_error_iff,
      add_eq_error_iff]
    refine or_congr_right ⟨?_, ?_⟩
    · rintro ⟨s₁, hadd, hrest⟩
      obtain ⟨tokens, hwanted, -⟩ := add_eq_ok_iff.1 hadd
      exact ⟨tokens, hwanted, Except.bind_eq_error_iff.2 (.inl (ih.1 hrest))⟩
    · rintro ⟨tokens, hwanted, hrest⟩
      obtain hrest | ⟨_, _, hpure⟩ := Except.bind_eq_error_iff.1 hrest
      · exact ⟨_, add_eq_ok_iff.2 ⟨tokens, hwanted, rfl⟩, ih.2 hrest⟩
      · cases hpure

/-- There is no set if some registration is refused, and the first one decides. -/
theorem ofRegistrations_eq_error_iff :
    ofRegistrations rs = .error e ↔ ∃ before r after, rs = before ++ r :: after ∧
      (∀ r' ∈ before, ∀ token ∈ r'.configured, token ∈ r'.check.acceptable) ∧
        ∃ token, r.Refuses token ∧ e = .unacceptableToken r.check.name token := by
  have haccepted : ∀ r : Registration, (∃ tokens, r.wanted = .ok tokens) ↔
      ∀ token ∈ r.configured, token ∈ r.check.acceptable := by
    simp [Registration.wanted_eq_ok_iff]
  unfold ofRegistrations
  rw [foldlM_add_eq_error_iff, List.mapM_eq_error_iff]
  simp only [haccepted, Registration.wanted_eq_error_iff]

/-- There is a set if the tokens of all registrations are acceptable. -/
theorem exists_ofRegistrations_iff :
    (∃ s, ofRegistrations rs = .ok s) ↔
      ∀ r ∈ rs, ∀ token ∈ r.configured, token ∈ r.check.acceptable := by
  constructor
  · rintro ⟨s, h⟩ r hr
    obtain ⟨tokens, hwanted⟩ := (serves_of_ofRegistrations h).exists_wanted hr
    exact (Registration.wanted_eq_ok_iff.1 hwanted).1
  · intro hall
    cases h : ofRegistrations rs with
    | ok s => exact ⟨s, rfl⟩
    | error e =>
      obtain ⟨before, r, after, rfl, -, token, ⟨hrefused, earlier, later, hsplit, -⟩, -⟩ :=
        ofRegistrations_eq_error_iff.1 h
      refine absurd (hall r (by simp) token ?_) hrefused
      rw [hsplit]
      exact List.mem_append_right _ List.mem_cons_self

end CheckSet

end JavaLint
