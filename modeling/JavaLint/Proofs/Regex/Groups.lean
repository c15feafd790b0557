import JavaLint.Proofs.Regex.Classes
/-!
# Reading groups and repetitions

The parts of an expression that alternatives are made of, besides escapes and
classes.

## Main statements

- `Read.taking_groupOpening` — flags, the names of groups and what else opens a group
- `Read.taking_counts` — counted repetitions
- `Read.counts_of_endsIn_brace` — a brace at the end of the text is no count
-/

namespace JavaLint.Regex.Read

variable {r r' : Reader} {x : List Char}

/-! ## Words -/

theorem isPrefixOf_append {word cs : List Char} (h : ')' ∉ word) (hx : Closing x) :
    word.isPrefixOf (cs ++ x) = word.isPrefixOf cs := by
  obtain ⟨y, rfl⟩ := hx
  induction word generalizing cs with
  | nil => rfl
  | cons c word ih =>
    obtain ⟨hc, hword⟩ := not_or.1 (mt List.mem_cons.2 h)
    rcases cs with _ | ⟨d, cs⟩
    · simp [List.isPrefixOf, Ne.symm hc]
    · simp only [List.cons_append, List.isPrefixOf, ih hword]

theorem isLookAround_append {cs : List Char} (hx : Closing x) :
    isLookAround (cs ++ x) = isLookAround cs := by
  have hwords : ∀ word ∈ ["?=", "?!", "?<=", "?<!"], ')' ∉ word.toList := by decide
  unfold isLookAround
  rw [Bool.eq_iff_iff, List.any_eq_true, List.any_eq_true]
  refine exists_congr fun word => and_congr_right fun hword => ?_
  rw [isPrefixOf_append (hwords word hword) hx]

theorem accept_eq (word : String) (r : Reader) :
    accept word r = if word.toList.isPrefixOf r.rest
      then .ok (true, { r with rest := r.rest.drop word.length }) else .ok (false, r) := by
  show (if word.toList.isPrefixOf r.rest then _ else _ : Read Bool) r = _
  split <;> rfl

theorem exact_accept {word : String} (h : ')' ∉ word.toList) : Exact (accept word) := by
  refine Exact.of_append_eq ?_ ?_
  · intro r found r' haccept
    rw [accept_eq] at haccept
    split at haccept
    · obtain rfl := (Prod.mk.inj (Except.ok.inj haccept)).2
      exact List.drop_suffix _ r.rest
    · obtain rfl := (Prod.mk.inj (Except.ok.inj haccept)).2
      exact List.suffix_rfl
  · intro r x hx
    rw [accept_eq, accept_eq, Reader.append_rest, isPrefixOf_append h hx]
    split
    · next hprefix =>
      have hle : word.length ≤ r.rest.length := by
        rw [← String.length_toList]
        exact (List.isPrefixOf_iff_prefix.1 hprefix).length_le
      rw [List.drop_append_of_le_length hle]
      rfl
    · rfl

/-! ## Flags -/

theorem local_flagItems (fuel : Nat) (items : List FlagItem) : Local (flagItems fuel items) := by
  induction fuel generalizing items with
  | zero => exact localBut_throw _
  | succ fuel ih =>
    -- a flag and the mark that negates flags are treated alike once they are read
    have hitem : ∀ item : FlagItem, Local (do
        if item ∈ items then throw .flags
        bump
        flagItems fuel (items ++ [item])) := by
      intro item
      refine LocalBut.ite (fun _ => localBut_throw _) fun _ => ?_
      exact local_bump.bind fun _ => ih _
    refine (local_need _).bind fun c => LocalBut.ite (fun _ => ?_) fun _ => ?_
    · exact LocalBut.ite (fun _ => localBut_throw _) fun _ => localBut_pure _
    · refine LocalBut.ite (fun _ => ?_) fun _ => ?_
      · exact Local.bind (localBut_pure _) hitem
      · split
        · exact Local.bind (localBut_pure _) hitem
        · exact localBut_throw _

/-- The bound of a list of flags does not matter if it exceeds the length of the text. -/
theorem flagItems_succ_eq {fuel : Nat} (h : r.rest.length ≤ fuel) (items : List FlagItem) :
    flagItems (fuel + 2) items r = flagItems (fuel + 1) items r := by
  -- one round more than characters is spent on the error at the end of the text
  induction fuel generalizing r items with
  | zero =>
    obtain ⟨rest, verbose, names⟩ := r
    obtain rfl : rest = [] := List.length_eq_zero_iff.1 (Nat.le_zero.1 h)
    rfl
  | succ fuel ih =>
    show (need _ >>= _) r = (need _ >>= _) r
    rw [need_bind_eq, need_bind_eq]
    split
    · next c hc =>
      have hitem : ∀ item : FlagItem,
          (do if item ∈ items then throw .flags
              bump
              flagItems (fuel + 2) (items ++ [item]) : Read (List FlagItem)) r =
          (do if item ∈ items then throw .flags
              bump
              flagItems (fuel + 1) (items ++ [item]) : Read (List FlagItem)) r := by
        intro item
        split
        · rfl
        · refine bind_congr_of_eq_ok fun _ t hbump => ih ?_ _
          have hlt := taking_bump.length_lt (ne_nil_of_head? hc) hbump
          omega
      split
      · rfl
      split
      · exact hitem _
      split
      · exact hitem _
      · rfl
    · rfl

theorem local_flagsUpToEnd : Local flagsUpToEnd := by
  refine Local.sized (fun fuel => local_flagItems (fuel + 1) []) ?_
  intro r items r' fuel hr _
  show flagItems (fuel + 2) [] r = _ ↔ flagItems (fuel + 1) [] r = _
  rw [flagItems_succ_eq hr]

/-! ## Names -/

/-- What a name of a group is, given the names in use. -/
def IsGroupName (names : List String) (name : List Char) : Prop :=
  (∃ first others, name = first :: others ∧ isNamePart true first = true ∧
    others.all (isNamePart false) = true) ∧ String.ofList name ∉ names

theorem groupName_of_cons {first c : Char} {others rest : List Char}
    (htake : r.rest.takeWhile (· != '>') = first :: others)
    (hdrop : r.rest.dropWhile (· != '>') = c :: rest) :
    groupName r = if !isNamePart true first || !others.all (isNamePart false)
      then .error .groupName
      else if String.ofList (first :: others) ∈ r.names then .error .groupName
      else .ok ((), { r with rest, names := String.ofList (first :: others) :: r.names }) := by
  rw [groupName, get_bind_eq, hdrop, htake]
  dsimp only
  split
  · rfl
  · split <;> rfl

theorem groupName_eq_ok_iff :
    groupName r = .ok ((), r') ↔ ∃ name rest, '>' ∉ name ∧ IsGroupName r.names name ∧
      r.rest = name ++ '>' :: rest ∧
      r' = { r with rest, names := String.ofList name :: r.names } := by
  constructor
  · intro h
    rcases hdrop : r.rest.dropWhile (· != '>') with _ | ⟨c, rest⟩
    · rw [groupName, get_bind_eq, hdrop] at h
      exact absurd h throw_ne_ok
    rcases htake : r.rest.takeWhile (· != '>') with _ | ⟨first, others⟩
    · rw [groupName, get_bind_eq, hdrop, htake] at h
      exact absurd h throw_ne_ok
    rw [groupName_of_cons htake hdrop] at h
    split at h
    · exact absurd h nofun
    next hparts =>
    split at h
    · exact absurd h nofun
    next hnew =>
    obtain rfl := (Prod.mk.inj (Except.ok.inj h)).2
    -- the name ends at the first angle bracket, which is dropped with it
    obtain ⟨hmem, hrest⟩ := Text.exists_of_dropWhile_eq_cons hdrop
    rw [htake] at hmem hrest
    refine ⟨first :: others, rest, hmem, ⟨⟨first, others, rfl, ?_⟩, hnew⟩, hrest, rfl⟩
    simpa using hparts
  · rintro ⟨name, rest, hmem, ⟨⟨first, others, rfl, hfirst, hothers⟩, hnew⟩, hrest, rfl⟩
    -- a name without the bracket is cut off just where it ends
    obtain ⟨htake, hdrop⟩ := Text.span_of_notMem hmem rest
    rw [← hrest] at htake hdrop
    rw [groupName_of_cons htake hdrop, if_neg (by simp [hfirst, hothers]), if_neg hnew]

theorem exact_groupName : Exact groupName where
  shrinks := by
    intro r _ r' h
    obtain ⟨name, rest, -, -, hrest, rfl⟩ := groupName_eq_ok_iff.1 h
    rw [hrest]
    exact (List.suffix_cons '>' rest).trans (List.suffix_append name _)
  forth := by
    intro r _ r' h
    obtain ⟨name, rest, hmem, hname, hrest, rfl⟩ := groupName_eq_ok_iff.1 h
    refine .inl fun x _ => groupName_eq_ok_iff.2 ⟨name, rest ++ x, hmem, hname, ?_, rfl⟩
    rw [Reader.append_rest, hrest, List.append_assoc, List.cons_append]
  back := by
    intro r _ r' x _ h
    obtain ⟨name, rest, hmem, hname, hrest, heq⟩ := groupName_eq_ok_iff.1 h
    obtain ⟨rest', verbose, names⟩ := r'
    obtain ⟨rfl, rfl, rfl⟩ := Reader.mk.inj heq
    refine groupName_eq_ok_iff.2 ⟨name, rest', hmem, hname, ?_, rfl⟩
    refine (List.append_left_inj x).1 ?_
    rw [List.append_assoc, List.cons_append]
    exact hrest

/-! ## The opening of a group -/

theorem taking_groupOpening : Taking groupOpening := by
  refine taking_bumpSkip.bind fun _ => ?_
  -- look-around is recognised by words without a parenthesis, so nothing after the text matters
  refine Exact.choose (fun r => isLookAround r.rest) (fun r x hx => isLookAround_append hx)
    (f := fun looks => if looks = true then _ else _) fun looks => ?_
  refine Exact.ite (fun _ => exact_throw _) fun _ => ?_
  refine (exact_accept (by decide)).bind fun named => Exact.ite (fun _ => ?_) fun _ => ?_
  · exact exact_groupName.bind fun _ => exact_pure _
  refine (exact_accept (by decide)).bind fun named => Exact.ite (fun _ => ?_) fun _ => ?_
  · exact exact_groupName.bind fun _ => exact_pure _
  refine (exact_accept (by decide)).bind fun marked => Exact.ite (fun _ => ?_) fun _ => ?_
  · refine Demanding.exact (Demanding.of_local (local_need _) fun _ => ?_)
    refine Demanding.of_local local_flagsUpToEnd fun items => Demanding.need_bind fun c => ?_
    refine taking_bump.bind fun _ => Exact.ite (fun _ => exact_pure _) fun _ => ?_
    exact Exact.ite (fun _ => exact_throw _) fun _ => exact_pure _
  · exact exact_pure _

theorem exact_modifyVerbose (f : Bool → Bool) :
    Exact (modify fun r => { r with verbose := f r.verbose } : Read PUnit) := by
  refine Exact.of_append_eq ?_ fun r x _ => rfl
  intro r _ r' h
  obtain rfl := (Prod.mk.inj (Except.ok.inj h)).2
  exact List.suffix_rfl

theorem exact_setVerbose (items : List FlagItem) : Exact (setVerbose items) :=
  exact_modifyVerbose _

theorem demanding_closeGroup (outer : Bool) : Demanding (closeGroup outer) := by
  refine Demanding.peek_bind rfl fun c => Taking.ite (fun _ => taking_throw _) fun _ => ?_
  exact taking_bump.bind fun _ => exact_modifyVerbose fun _ => outer

/-! ## Repetitions -/

/-- Taking the item off that a repetition applies to reads nothing. -/
theorem repeated_eq (items : List Ast) :
    (∃ e, repeated items = throw e) ∨ ∃ item rest, repeated items = pure (item, rest) := by
  unfold repeated
  split
  · exact .inl ⟨_, rfl⟩
  · exact .inl ⟨_, rfl⟩
  · exact .inl ⟨_, rfl⟩
  · exact .inr ⟨_, _, rfl⟩

theorem taking_repeated_bind {β : Type} (items : List Ast) {f : Ast × List Ast → Read β}
    (hf : ∀ p, Taking (f p)) : Taking (repeated items >>= f) := by
  rcases repeated_eq items with ⟨e, heq⟩ | ⟨item, rest, heq⟩
  · rw [heq]
    exact taking_throw e
  · rw [heq]
    exact hf (item, rest)

theorem exact_lazyMark : Exact lazyMark := by
  refine Exact.peek_bind rfl (exact_pure _) fun c _ => ?_
  by_cases hc : (some c == some '?') = true
  · right
    rw [if_pos hc]
    exact taking_bump
  · left
    rw [if_neg hc]
    exact exact_pure _

theorem exact_dropBlanks :
    Exact (modify fun r => { r with rest := r.rest.dropWhile Text.isBlank } : Read PUnit) := by
  refine Exact.of_append_eq ?_ ?_
  · intro r _ r' h
    obtain rfl := (Prod.mk.inj (Except.ok.inj h)).2
    exact List.dropWhile_suffix _
  · intro r x hx
    have hdrop : (r.rest ++ x).dropWhile Text.isBlank = r.rest.dropWhile Text.isBlank ++ x := by
      obtain ⟨y, rfl⟩ := hx
      rw [List.dropWhile_append]
      split
      · next hempty =>
        rw [List.isEmpty_iff.1 hempty]
        rfl
      · rfl
    show Except.ok ((), { r.append x with rest := (r.rest ++ x).dropWhile Text.isBlank }) = _
    rw [hdrop]
    rfl

theorem local_count? : Local count? := by
  refine Local.bind exact_dropBlanks.localBut fun _ => (local_runAll _).bind fun digits => ?_
  refine Local.bind exact_dropBlanks.localBut fun _ => LocalBut.ite (fun _ => ?_) fun _ => ?_
  · exact localBut_pure _
  · exact LocalBut.ite (fun _ => localBut_throw _) fun _ => localBut_pure _

/-- A count takes its opening brace, and what it does then is demanding. -/
theorem exists_counts_eq :
    ∃ f : Unit → Read (Nat × Option Nat), counts = bumpSkip >>= f ∧ Demanding (f ()) := by
  -- what closes a count is the same for all forms of its bounds
  have hend : ∀ bounds : Nat × Option Nat, Demanding (do
      if (← need .repetitionCount) != '\x7d' then throw .repetitionCount
      bumpSkip
      lazyMark
      if bounds.2.any (· < bounds.1) then throw .repetitionCount
      return bounds) := by
    intro bounds
    refine Demanding.need_bind fun c => Taking.ite (fun _ => taking_throw _) fun _ => ?_
    refine taking_bumpSkip.bind fun _ => exact_lazyMark.bind fun _ => ?_
    exact Exact.ite (fun _ => exact_throw _) fun _ => exact_pure _
  refine ⟨_, rfl, Demanding.of_local (local_need _) fun _ => ?_⟩
  refine Demanding.of_local local_count? fun first => Demanding.need_bind fun c => ?_
  refine Taking.ite (fun _ => ?_) fun _ => ?_
  · refine taking_bumpSkip.bind fun _ => Demanding.exact ?_
    refine Demanding.of_local (local_need _) fun after => ?_
    split
    · exact demanding_throw _
    · refine Demanding.ite (fun _ => hend _) fun _ => ?_
      refine Demanding.of_local local_count? fun most => ?_
      split
      · exact demanding_throw _
      · exact hend _
  · split
    · exact taking_throw _
    · exact (hend _).toTaking

theorem taking_counts : Taking counts := by
  obtain ⟨f, heq, hf⟩ := exists_counts_eq
  rw [heq]
  exact taking_bumpSkip.bind fun _ => hf.exact

/-- A brace at the end of the text starts no count before a closing parenthesis. -/
theorem counts_of_endsIn_brace {bounds : Nat × Option Nat} (hx : Closing x)
    (hend : EndsIn '\x7b' r) (h : counts (r.append x) = .ok (bounds, r')) :
    r'.rest.length < x.length := by
  obtain ⟨f, heq, hf⟩ := exists_counts_eq
  rw [heq, bind_eq_of_eq_ok (bumpSkip_eq _)] at h
  calc r'.rest.length < (afterBump (r.append x)).rest.length := hf.length_lt h
    _ ≤ x.length := length_afterBump_append_le (ne_nil_of_head? hend.1) hend.2 hx

end JavaLint.Regex.Read
