import JavaLint.Toml.Document
/-!
# The integers of a document

An integer of a TOML document fits into 64 bits with a sign, wherever it stands: as the
value of a key, in an array or in a table, in braces or not.

## Main definitions

- `Toml.Fits` — all integers of a value are in range
- `Toml.ReadsFit` — what is read within some bound has integers in range

## Main statements

- `Toml.fits_of_value?` — a value that a text starts with has integers in range
- `Toml.fits_of_parse?` — so has the table that a text writes
-/

namespace JavaLint.Toml

variable {v : Toml} {cs rest : List Char} {path : List String} {key : String}
  {pairs : List (List String × Toml)}

/-- All integers of a value are in range. -/
inductive Fits : Toml → Prop
  | string (text : String) : Fits (.string text)
  | integer {n : Int} : inRange n = true → Fits (.integer n)
  | float (value : Binary64) : Fits (.float value)
  | boolean (value : Bool) : Fits (.boolean value)
  | datetime (text : String) : Fits (.datetime text)
  | array {items : List Toml} : (∀ v ∈ items, Fits v) → Fits (.array items)
  | table {entries : TomlTable} : (∀ e ∈ entries, Fits e.2) → Fits (.table entries)

/-- What every step of a fold keeps holds of its result. -/
theorem foldlM_eq_some_induction {α β : Type} {f : β → α → Option β} {P : β → Prop} {l : List α}
    {b b' : β} (h : l.foldlM f b = some b') (hb : P b)
    (hstep : ∀ a ∈ l, ∀ b b', f b a = some b' → P b → P b') : P b' := by
  induction l generalizing b with
  | nil => exact Option.some.inj h ▸ hb
  | cons a l ih =>
    obtain ⟨next, hnext, h⟩ := Option.bind_eq_some_iff.1 h
    exact ih h (hstep a List.mem_cons_self b next hnext hb) fun a ha =>
      hstep a (List.mem_cons_of_mem _ ha)

/-- What holds of all values of a table holds of those that are looked up in it. -/
theorem of_lookup {α : Type} {P : α → Prop} {entries : List (String × α)} {x : α}
    (h : ∀ e ∈ entries, P e.2) (hx : entries.lookup key = some x) : P x := by
  obtain ⟨before, after, heq, -⟩ := List.lookup_eq_some_iff.1 hx
  exact h _ (heq ▸ List.mem_append_right _ List.mem_cons_self)

/-! ## Numbers and dates -/

theorem fits_based? {base : Nat} {isDigit : Char → Bool} (h : based? base isDigit cs = some (v, rest)) :
    v.Fits := by
  obtain ⟨⟨digits, after⟩, -, h⟩ := Option.bind_eq_some_iff.1 h
  obtain ⟨hrange, heq⟩ := Option.ite_none_right_eq_some.1 h
  cases heq
  exact .integer hrange

theorem fits_integer? (h : integer? cs = some (v, rest)) : v.Fits := by
  unfold integer? at h
  split at h
  · exact fits_based? h
  · exact fits_based? h
  · exact fits_based? h
  · generalize sign cs = signed at h
    obtain ⟨⟨digits, after⟩, -, h⟩ := Option.bind_eq_some_iff.1 h
    obtain ⟨hrange, heq⟩ := Option.ite_none_right_eq_some.1 h
    cases heq
    exact .integer hrange

theorem fits_finite? {negative : Bool} {digits : List Char} {exponent : Int}
    (h : finite? negative digits exponent = some v) : v.Fits := by
  unfold finite? at h
  dsimp only at h
  split at h
  · cases h
  · cases h
    exact .float _

theorem fits_float? (h : float? cs = some (v, rest)) : v.Fits := by
  unfold float? at h
  dsimp only at h
  split at h
  · cases h
    exact .float _
  · cases h
    exact .float _
  · obtain ⟨⟨whole, after⟩, -, h⟩ := Option.bind_eq_some_iff.1 h
    dsimp only at h
    split at h
    · obtain ⟨⟨fraction, after'⟩, -, h⟩ := Option.bind_eq_some_iff.1 h
      obtain ⟨value, hvalue, h⟩ := Option.bind_eq_some_iff.1 h
      cases h
      exact fits_finite? hvalue
    · obtain ⟨⟨exponent, after'⟩, -, h⟩ := Option.bind_eq_some_iff.1 h
      obtain ⟨value, hvalue, h⟩ := Option.bind_eq_some_iff.1 h
      cases h
      exact fits_finite? hvalue

theorem fits_datetime? (h : datetime? cs = some (v, rest)) : v.Fits := by
  unfold datetime? at h
  split at h
  · dsimp only at h
    split at h
    · cases h
      exact .datetime _
    · cases h
      exact .datetime _
  · obtain ⟨⟨time, after⟩, -, h⟩ := Option.map_eq_some_iff.1 h
    cases h
    exact .datetime _

theorem fits_scalar? (h : scalar? cs = some (v, rest)) : v.Fits := by
  rcases Option.or_eq_some_iff.1 h with h | ⟨-, h⟩
  · exact fits_datetime? h
  · rcases Option.or_eq_some_iff.1 h with h | ⟨-, h⟩
    · exact fits_float? h
    · exact fits_integer? h

/-! ## Tables in braces -/

/-- All integers of a table under construction are in range. -/
inductive Inline.Fits : Inline → Prop
  | value {v : Toml} : v.Fits → Inline.Fits (.value v)
  | keyed {entries : List (String × Inline)} :
      (∀ e ∈ entries, Inline.Fits e.2) → Inline.Fits (.keyed entries)

namespace Inline

variable {entries entries' : List (String × Inline)} {x : Inline}

/-- What an entry is changed to decides about the integers of the entries. -/
theorem fits_set (hentries : ∀ e ∈ entries, e.2.Fits) (hx : x.Fits) :
    ∀ e ∈ entries.map fun (name, entry) => if name = key then (name, x) else (name, entry),
      e.2.Fits := by
  rw [List.forall_mem_map]
  intro e he
  dsimp only
  split
  · exact hx
  · exact hentries e he

theorem fits_append (hentries : ∀ e ∈ entries, e.2.Fits) (hx : x.Fits) :
    ∀ e ∈ entries ++ [(key, x)], e.2.Fits :=
  List.forall_mem_append.2 ⟨hentries, List.forall_mem_singleton.2 hx⟩

theorem fits_add? (hv : v.Fits) (hentries : ∀ e ∈ entries, e.2.Fits)
    (h : add? v path entries = some entries') : ∀ e ∈ entries', e.2.Fits := by
  fun_induction add? v path entries generalizing entries' with
  | case1 => cases h
  | case2 => cases h
  | case3 =>
    cases h
    exact fits_append hentries (.value hv)
  | case4 k path entries _ hlookup ih =>
    obtain ⟨sub, hsub, rfl⟩ := Option.map_eq_some_iff.1 h
    exact fits_append hentries (.keyed (ih (List.forall_mem_nil _) hsub))
  | case5 k path entries _ sub hlookup ih =>
    obtain ⟨sub', hsub, rfl⟩ := Option.map_eq_some_iff.1 h
    cases of_lookup hentries hlookup with
    | keyed hold => exact fits_set hentries (.keyed (ih hold hsub))
  | case6 => cases h

theorem finishAll_eq_map (entries : List (String × Inline)) :
    finishAll entries = entries.map fun e => (e.1, e.2.finish) := by
  induction entries with
  | nil => rfl
  | cons e entries ih => rw [finishAll, ih, List.map_cons]

theorem Fits.finish (h : x.Fits) : x.finish.Fits := by
  induction h with
  | value hv => exact hv
  | keyed _ ih =>
    refine .table ?_
    rw [finishAll_eq_map, List.forall_mem_map]
    exact ih

end Inline

theorem fits_inlineTable? (hpairs : ∀ p ∈ pairs, p.2.Fits) (h : inlineTable? pairs = some v) :
    v.Fits := by
  obtain ⟨entries, hentries, rfl⟩ := Option.map_eq_some_iff.1 h
  have hfits : ∀ e ∈ entries, e.2.Fits :=
    foldlM_eq_some_induction (P := fun entries => ∀ e ∈ entries, e.2.Fits) hentries
      nofun fun p hp _ _ hadd hold => Inline.fits_add? (hpairs p hp) hold hadd
  exact (Inline.Fits.keyed hfits).finish

/-! ## Values -/

/-- The values, the items of arrays and the values of tables in braces that are read within
    some bound have integers in range. -/
structure ReadsFit (fuel : Nat) : Prop where
  value : ∀ {depth cs v rest}, valueAux fuel depth cs = some (v, rest) → v.Fits
  items : ∀ {depth cs items rest}, itemsAux fuel depth cs = some (items, rest) → ∀ v ∈ items, v.Fits
  pairs : ∀ {depth cs pairs rest}, pairsAux fuel depth cs = some (pairs, rest) →
    ∀ p ∈ pairs, p.2.Fits

namespace ReadsFit

variable {fuel depth : Nat} {items : List Toml}

theorem value_succ (hreads : ReadsFit fuel) (h : valueAux (fuel + 1) depth cs = some (v, rest)) :
    v.Fits := by
  unfold valueAux at h
  split at h
  · obtain ⟨⟨text, after⟩, -, heq⟩ := Option.map_eq_some_iff.1 h
    cases heq
    exact .string _
  · obtain ⟨⟨text, after⟩, -, heq⟩ := Option.map_eq_some_iff.1 h
    cases heq
    exact .string _
  · cases h
    exact .boolean _
  · cases h
    exact .boolean _
  · split at h
    · cases h
    · obtain ⟨⟨items, after⟩, hlist, heq⟩ := Option.map_eq_some_iff.1 h
      cases heq
      exact .array (hreads.items hlist)
  · split at h
    · cases h
    · split at h
      · cases h
        exact .table (List.forall_mem_nil _)
      · obtain ⟨⟨pairs, after⟩, hlist, h⟩ := Option.bind_eq_some_iff.1 h
        obtain ⟨table, htable, heq⟩ := Option.bind_eq_some_iff.1 h
        cases heq
        exact fits_inlineTable? (hreads.pairs hlist) htable
  · exact fits_scalar? h

theorem items_succ (hreads : ReadsFit fuel)
    (h : itemsAux (fuel + 1) depth cs = some (items, rest)) : ∀ v ∈ items, v.Fits := by
  unfold itemsAux at h
  split at h
  · cases h
    exact List.forall_mem_nil _
  · obtain ⟨⟨item, after⟩, hitem, h⟩ := Option.bind_eq_some_iff.1 h
    have hfits := hreads.value hitem
    dsimp only at h
    split at h
    · obtain ⟨⟨items, after'⟩, hlist, heq⟩ := Option.bind_eq_some_iff.1 h
      cases heq
      exact List.forall_mem_cons.2 ⟨hfits, hreads.items hlist⟩
    · cases h
      exact List.forall_mem_singleton.2 hfits
    · cases h

theorem pairs_succ (hreads : ReadsFit fuel)
    (h : pairsAux (fuel + 1) depth cs = some (pairs, rest)) : ∀ p ∈ pairs, p.2.Fits := by
  obtain ⟨⟨path, after⟩, -, h⟩ := Option.bind_eq_some_iff.1 h
  dsimp only at h
  split at h
  · obtain ⟨⟨v, after'⟩, hv, h⟩ := Option.bind_eq_some_iff.1 h
    have hfits := hreads.value hv
    dsimp only at h
    split at h
    · obtain ⟨⟨pairs, after''⟩, hlist, heq⟩ := Option.bind_eq_some_iff.1 h
      cases heq
      exact List.forall_mem_cons.2 ⟨hfits, hreads.pairs hlist⟩
    · cases h
      exact List.forall_mem_singleton.2 hfits
    · cases h
  · cases h

end ReadsFit

theorem readsFit (fuel : Nat) : ReadsFit fuel := by
  induction fuel with
  | zero => exact ⟨nofun, nofun, nofun⟩
  | succ fuel ih => exact ⟨ih.value_succ, ih.items_succ, ih.pairs_succ⟩

theorem fits_of_value? (h : value? cs = some (v, rest)) : v.Fits :=
  (readsFit _).value h

/-! ## Statements -/

/-- The value that a statement gives to a key has integers in range. -/
def Statement.Fits (s : Statement) : Prop :=
  ∀ path v, s = .entry path v → v.Fits

theorem fits_of_statement? {s : Statement} (h : statement? cs = some (s, rest)) : s.Fits := by
  unfold statement? at h
  split at h
  · obtain ⟨⟨path, after⟩, -, h⟩ := Option.bind_eq_some_iff.1 h
    dsimp only at h
    split at h
    · cases h
      exact nofun
    · cases h
  · obtain ⟨⟨path, after⟩, -, h⟩ := Option.bind_eq_some_iff.1 h
    dsimp only at h
    split at h
    · cases h
      exact nofun
    · cases h
  · obtain ⟨⟨path, after⟩, -, h⟩ := Option.bind_eq_some_iff.1 h
    dsimp only at h
    split at h
    · obtain ⟨⟨v, after'⟩, hv, heq⟩ := Option.bind_eq_some_iff.1 h
      cases heq
      rintro _ _ ⟨⟩
      exact fits_of_value? hv
    · cases h

theorem fits_of_statementsAux {fuel : Nat} {statements : List Statement}
    (h : statementsAux fuel cs = some statements) : ∀ s ∈ statements, s.Fits := by
  induction fuel generalizing cs statements with
  | zero => cases h
  | succ fuel ih =>
    unfold statementsAux at h
    split at h
    · cases h
      exact List.forall_mem_nil _
    · obtain ⟨⟨s, after⟩, hs, h⟩ := Option.bind_eq_some_iff.1 h
      obtain ⟨after', -, h⟩ := Option.bind_eq_some_iff.1 h
      obtain ⟨more, hmore, heq⟩ := Option.bind_eq_some_iff.1 h
      cases heq
      exact List.forall_mem_cons.2 ⟨fits_of_statement? hs, ih hmore⟩

/-! ## Documents -/

/-- All integers of an entry under construction are in range. -/
inductive Node.Fits : Node → Prop
  | value {v : Toml} : v.Fits → Node.Fits (.value v)
  | table {origin : Origin} {entries : Nodes} :
      (∀ e ∈ entries, Node.Fits e.2) → Node.Fits (.table origin entries)
  | tables {items : List Nodes} :
      (∀ item ∈ items, ∀ e ∈ item, Node.Fits e.2) → Node.Fits (.tables items)

/-- All integers of the entries of a table under construction are in range. -/
def NodesFit (entries : Nodes) : Prop :=
  ∀ e ∈ entries, e.2.Fits

variable {entries entries' : Nodes} {node : Node} {change : Nodes → Option Nodes}

theorem nodesFit_nil : NodesFit [] :=
  List.forall_mem_nil _

theorem NodesFit.setNode (h : NodesFit entries) (hnode : node.Fits) :
    NodesFit (setNode key node entries) := by
  unfold Toml.setNode
  split
  · refine List.forall_mem_map.2 fun e he => ?_
    dsimp only
    split
    · exact hnode
    · exact h e he
  · exact List.forall_mem_append.2 ⟨h, List.forall_mem_singleton.2 hnode⟩

/-- A change that keeps integers in range does so in the table that a path leads to. -/
theorem NodesFit.within? (hchange : ∀ {entries entries'}, NodesFit entries →
      change entries = some entries' → NodesFit entries')
    (hentries : NodesFit entries) (h : within? change path entries = some entries') :
    NodesFit entries' := by
  fun_induction Toml.within? change path entries generalizing entries' with
  | case1 => exact hchange hentries h
  | case2 k path entries _ ih =>
    obtain ⟨sub, hsub, rfl⟩ := Option.map_eq_some_iff.1 h
    exact hentries.setNode (.table (ih nodesFit_nil hsub))
  | case3 => cases h
  | case4 k path entries origin sub hlookup ih =>
    obtain ⟨sub', hsub, rfl⟩ := Option.map_eq_some_iff.1 h
    cases of_lookup hentries hlookup with
    | table hold => exact hentries.setNode (.table (ih hold hsub))
  | case5 => cases h
  | case6 k path entries last before hlookup ih =>
    obtain ⟨last', hlast, rfl⟩ := Option.map_eq_some_iff.1 h
    cases of_lookup hentries hlookup with
    | tables hold =>
      obtain ⟨hold, hbefore⟩ := List.forall_mem_cons.1 hold
      exact hentries.setNode (.tables (List.forall_mem_cons.2 ⟨ih hold hlast, hbefore⟩))

theorem NodesFit.set? (hv : v.Fits) (hentries : NodesFit entries)
    (h : set? v path entries = some entries') : NodesFit entries' := by
  fun_induction Toml.set? v path entries generalizing entries' with
  | case1 => cases h
  | case2 => cases h
  | case3 =>
    cases h
    exact hentries.setNode (.value hv)
  | case4 k path entries _ _ ih =>
    obtain ⟨sub, hsub, rfl⟩ := Option.map_eq_some_iff.1 h
    exact hentries.setNode (.table (ih nodesFit_nil hsub))
  | case5 k path entries _ sub hlookup ih =>
    obtain ⟨sub', hsub, rfl⟩ := Option.map_eq_some_iff.1 h
    cases of_lookup hentries hlookup with
    | table hold => exact hentries.setNode (.table (ih hold hsub))
  | case6 => cases h
  | case7 k path entries _ sub hlookup _ ih =>
    obtain ⟨sub', hsub, rfl⟩ := Option.map_eq_some_iff.1 h
    cases of_lookup hentries hlookup with
    | table hold => exact hentries.setNode (.table (ih hold hsub))
  | case8 => cases h
  | case9 k path entries _ last before hlookup _ ih =>
    obtain ⟨last', hlast, rfl⟩ := Option.map_eq_some_iff.1 h
    cases of_lookup hentries hlookup with
    | tables hold =>
      obtain ⟨hold, hbefore⟩ := List.forall_mem_cons.1 hold
      exact hentries.setNode (.tables (List.forall_mem_cons.2 ⟨ih hold hlast, hbefore⟩))
  | case10 => cases h
  | case11 => cases h
  | case12 => cases h

theorem NodesFit.setAll? (hpairs : ∀ p ∈ pairs, p.2.Fits) (hentries : NodesFit entries)
    (h : setAll? pairs entries = some entries') : NodesFit entries' :=
  foldlM_eq_some_induction (P := NodesFit) h hentries fun p hp _ _ hset hold =>
    hold.set? (hpairs p hp) hset

theorem NodesFit.define? (hpairs : ∀ p ∈ pairs, p.2.Fits) (hentries : NodesFit entries)
    (h : define? key pairs entries = some entries') : NodesFit entries' := by
  unfold Toml.define? at h
  dsimp only at h
  split at h
  · obtain ⟨new, hnew, rfl⟩ := Option.map_eq_some_iff.1 h
    exact hentries.setNode (.table (nodesFit_nil.setAll? hpairs hnew))
  · next old hlookup =>
    obtain ⟨new, hnew, rfl⟩ := Option.map_eq_some_iff.1 h
    cases of_lookup hentries hlookup with
    | table hold => exact hentries.setNode (.table (NodesFit.setAll? hpairs hold hnew))
  · cases h

theorem NodesFit.append? (hpairs : ∀ p ∈ pairs, p.2.Fits) (hentries : NodesFit entries)
    (h : append? key pairs entries = some entries') : NodesFit entries' := by
  unfold Toml.append? at h
  split at h
  · obtain ⟨item, hitem, rfl⟩ := Option.map_eq_some_iff.1 h
    exact hentries.setNode (.tables (List.forall_mem_singleton.2 (nodesFit_nil.setAll? hpairs hitem)))
  · next items hlookup =>
    obtain ⟨item, hitem, rfl⟩ := Option.map_eq_some_iff.1 h
    cases of_lookup hentries hlookup with
    | tables hold =>
      exact hentries.setNode
        (.tables (List.forall_mem_cons.2 ⟨nodesFit_nil.setAll? hpairs hitem, hold⟩))
  · cases h

theorem fits_leadingEntries {statements : List Statement} (h : ∀ s ∈ statements, s.Fits) :
    (∀ p ∈ (leadingEntries statements).1, p.2.Fits) ∧
      ∀ s ∈ (leadingEntries statements).2, s.Fits := by
  fun_induction leadingEntries statements with
  | case1 path v rest pairs rest' heq ih =>
    obtain ⟨hentry, hrest⟩ := List.forall_mem_cons.1 h
    have hsplit := ih hrest
    rw [heq] at hsplit
    exact ⟨List.forall_mem_cons.2 ⟨hentry path v rfl, hsplit.1⟩, hsplit.2⟩
  | case2 => exact ⟨List.forall_mem_nil _, h⟩

theorem NodesFit.sections? {fuel : Nat} {statements : List Statement}
    (hstatements : ∀ s ∈ statements, s.Fits) (hentries : NodesFit entries)
    (h : sections? fuel statements entries = some entries') : NodesFit entries' := by
  induction fuel generalizing statements entries with
  | zero => cases h
  | succ fuel ih =>
    cases statements with
    | nil => exact Option.some.inj h ▸ hentries
    | cons head rest =>
      obtain ⟨hpairs, hrest⟩ := fits_leadingEntries (List.forall_mem_cons.1 hstatements).2
      obtain ⟨next, hnext, h⟩ := Option.bind_eq_some_iff.1 h
      refine ih hrest ?_ h
      cases head with
      | table path =>
        obtain ⟨key, -, hnext⟩ := Option.bind_eq_some_iff.1 hnext
        exact hentries.within? (fun hold => hold.define? hpairs) hnext
      | item path =>
        obtain ⟨key, -, hnext⟩ := Option.bind_eq_some_iff.1 hnext
        exact hentries.within? (fun hold => hold.append? hpairs) hnext
      | entry => cases hnext

theorem finishAll_eq_map (entries : Nodes) :
    Node.finishAll entries = entries.map fun e => (e.1, e.2.finish) := by
  induction entries with
  | nil => rfl
  | cons e entries ih => rw [Node.finishAll, ih, List.map_cons]

theorem finishItems_eq (items : List Nodes) (done : List Toml) :
    Node.finishItems items done =
      (items.map fun item => Toml.table (Node.finishAll item)).reverse ++ done := by
  induction items generalizing done with
  | nil => rfl
  | cons item items ih =>
    rw [Node.finishItems, ih, List.map_cons, List.reverse_cons, List.append_assoc]
    rfl

theorem Node.Fits.finish (h : node.Fits) : node.finish.Fits := by
  induction h with
  | value hv => exact hv
  | table _ ih =>
    refine .table ?_
    rw [finishAll_eq_map, List.forall_mem_map]
    exact ih
  | tables _ ih =>
    refine .array ?_
    rw [finishItems_eq, List.append_nil]
    intro v hv
    obtain ⟨item, hitem, rfl⟩ := List.mem_map.1 (List.mem_reverse.1 hv)
    refine .table ?_
    rw [finishAll_eq_map, List.forall_mem_map]
    exact ih item hitem

/-- The integers of a document are in range, wherever they stand. -/
theorem fits_of_parse? {text : String} {table : TomlTable} (h : parse? text = some table) :
    ∀ e ∈ table, e.2.Fits := by
  obtain ⟨statements, hstatements, h⟩ := Option.bind_eq_some_iff.1 h
  obtain ⟨root, hroot, h⟩ := Option.bind_eq_some_iff.1 h
  obtain ⟨entries, hentries, heq⟩ := Option.bind_eq_some_iff.1 h
  obtain ⟨hpairs, hrest⟩ := fits_leadingEntries (fits_of_statementsAux hstatements)
  have hfits := (nodesFit_nil.setAll? hpairs hroot).sections? hrest hentries
  rw [← Option.some.inj heq, finishAll_eq_map]
  exact List.forall_mem_map.2 fun e he => (hfits e he).finish

end JavaLint.Toml
