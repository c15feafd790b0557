import JavaLint.Proofs.Regex.Escapes
import JavaLint.Proofs.Text.Split
/-!
# Reading bracketed classes

A class ends at its closing bracket, so reading one is demanding: neither the
end of the text nor a closing parenthesis can end it.

## Main statements

- `Read.asciiClass?_append` — named classes do not depend on what follows the text
- `Read.demanding_classBody` — the rest of a class after its opening
- `Read.classBody_succ_eq` — the bound of a class does not matter
-/

namespace JavaLint.Regex.Read

variable {r r' : Reader} {x : List Char}

/-! ## Items and ranges -/

theorem localBut_classItem : LocalBut LeavesBrace classItem := by
  refine (local_need _).bind fun c => LocalBut.ite (fun _ => localBut_escape) fun _ => ?_
  exact local_bump.bind fun _ => localBut_pure _

theorem classItem_shorter {a : Ast} (h : classItem r = .ok (a, r')) :
    r'.rest <:+ r.rest.tail := by
  rw [classItem, need_bind_eq] at h
  split at h
  · next c hc =>
    split at h
    · exact escape_shorter (ne_nil_of_head? hc) h
    · rw [bind_eq_of_eq_ok (bump_eq r)] at h
      obtain ⟨-, rfl⟩ := pure_eq_ok_iff.1 h
      exact List.suffix_rfl
  · exact absurd h nofun

theorem exact_classSetOf (a : Ast) : Exact (classSetOf a) := by
  unfold classSetOf
  split
  · exact exact_pure _
  · exact exact_pure _
  · exact exact_pure _
  · exact exact_throw _

theorem localBut_rangeTo (lo : Ast) : Local (rangeTo lo) := by
  refine local_bumpSkip.bind fun _ => (local_need _).bind fun _ => ?_
  refine localBut_classItem.bind (fun hi => ?_) ?_
  · split
    · exact LocalBut.ite (fun _ => localBut_throw _) fun _ => localBut_pure _
    · exact localBut_throw _
  · -- a word boundary is no end of a range
    rintro hi t b r'' x - ⟨rfl, -⟩ - h
    simp at h

/-- A range takes its hyphen and the blanks after it. -/
theorem rangeTo_shorter {lo : Ast} {set : ClassSet} (h : rangeTo lo r = .ok (set, r')) :
    (afterBump r).rest ≠ [] ∧ r'.rest <:+ (afterBump r).rest := by
  rw [rangeTo, bind_eq_of_eq_ok (bumpSkip_eq r)] at h
  obtain ⟨c, t, hneed, h⟩ := bind_eq_ok_iff.1 h
  obtain ⟨hc, rfl⟩ := need_eq_ok_iff.1 hneed
  obtain ⟨hi, t, hitem, h⟩ := bind_eq_ok_iff.1 h
  have hrest : r' = t := by
    split at h
    · split at h
      · exact absurd h throw_ne_ok
      · exact (pure_eq_ok_iff.1 h).2.symm
    · exact absurd h throw_ne_ok
  rw [hrest]
  exact ⟨ne_nil_of_head? hc, localBut_classItem.shrinks hitem⟩

/-- A hyphen follows that starts a range. -/
def StartsRange (r : Reader) : Prop :=
  r.rest.head? = some '-' ∧ (afterBump r).rest.head? ≠ some ']' ∧
    (afterBump r).rest.head? ≠ some '-'

theorem classRangeEnd_ne_nil {lo : Ast} {set : ClassSet}
    (h : classRangeEnd lo r = .ok (set, r')) : r.rest ≠ [] := by
  intro hnil
  rw [classRangeEnd, need_bind_eq, hnil] at h
  exact absurd h nofun

theorem classRangeEnd_of_startsRange (lo : Ast) (h : StartsRange r) :
    classRangeEnd lo r = rangeTo lo r := by
  obtain ⟨hhead, hbracket, hhyphen⟩ := h
  rw [classRangeEnd, need_bind_eq, hhead]
  show (peekAfter? >>= _) r = _
  rw [bind_eq_of_eq_ok (peekAfter?_eq r), if_neg]
  simp [hbracket, hhyphen]

theorem classRangeEnd_of_not_startsRange (lo : Ast) (hne : r.rest ≠ []) (h : ¬StartsRange r) :
    classRangeEnd lo r = classSetOf lo r := by
  obtain ⟨c, cs, hr⟩ := List.exists_cons_of_ne_nil hne
  rw [classRangeEnd, need_bind_eq, hr, List.head?_cons]
  show (peekAfter? >>= _) r = _
  rw [bind_eq_of_eq_ok (peekAfter?_eq r), if_pos]
  -- the guard asks for two characters, and for any but a hyphen it does not look at the second
  by_cases hc : c = '-'
  · have hafter : ¬((afterBump r).rest.head? ≠ some ']' ∧ (afterBump r).rest.head? ≠ some '-') :=
      fun hafter => h ⟨by rw [hr, hc, List.head?_cons], hafter⟩
    simpa [hc, or_iff_not_imp_left] using hafter
  · simp [hc]

/-- Unless only a hyphen is left, it is the text that tells whether a range starts. -/
theorem startsRange_append (hne : r.rest ≠ []) (hend : ¬EndsIn '-' r) (hx : Closing x) :
    StartsRange (r.append x) ↔ StartsRange r := by
  unfold StartsRange
  rw [Reader.append_rest, List.head?_append_of_ne_nil _ hne]
  refine and_congr_right fun hhead => ?_
  have hrest : (afterBump r).rest ≠ [] := fun hnil => hend ⟨hhead, hnil⟩
  rw [afterBump_append hne hrest hx, Reader.append_rest, List.head?_append_of_ne_nil _ hrest]

theorem classSetOf_reader {a : Ast} {set : ClassSet} (h : classSetOf a r = .ok (set, r')) :
    r = r' := by
  unfold classSetOf at h
  split at h
  · exact (pure_eq_ok_iff.1 h).2
  · exact (pure_eq_ok_iff.1 h).2
  · exact (pure_eq_ok_iff.1 h).2
  · exact absurd h throw_ne_ok

/-- A hyphen that is left at the end of a text can be an item of a longer one. -/
theorem localBut_classRangeEnd (lo : Ast) :
    LocalBut (fun _ => EndsIn '-') (classRangeEnd lo) := by
  have hset : Local (classSetOf lo) := (exact_classSetOf lo).localBut
  have hrange : Local (rangeTo lo) := localBut_rangeTo lo
  have hshrinks : Shrinks (classRangeEnd lo) := by
    intro r set r' h
    by_cases hstarts : StartsRange r
    · rw [classRangeEnd_of_startsRange lo hstarts] at h
      exact hrange.shrinks h
    · rw [classRangeEnd_of_not_startsRange lo (classRangeEnd_ne_nil h) hstarts] at h
      exact hset.shrinks h
  refine { shrinks := hshrinks, ahead := ?_, back := ?_ }
  · intro r set r' x hx hne h
    have hr := classRangeEnd_ne_nil h
    have hrx : (r.append x).rest ≠ [] := List.append_ne_nil_of_left_ne_nil hr x
    by_cases hstarts : StartsRange r
    · rw [classRangeEnd_of_startsRange lo hstarts] at h
      -- a range reads past its hyphen, so the hyphen was not the last character
      have hend : ¬EndsIn '-' r := fun hend => (rangeTo_shorter h).1 hend.2
      rw [classRangeEnd_of_startsRange lo ((startsRange_append hr hend hx).2 hstarts)]
      exact hrange.ahead hx hne h
    · have hend : ¬EndsIn '-' r :=
        fun hend => hstarts ⟨hend.1, by rw [hend.2]; simp, by rw [hend.2]; simp⟩
      rw [classRangeEnd_of_not_startsRange lo hr hstarts] at h
      rw [classRangeEnd_of_not_startsRange lo hrx (mt (startsRange_append hr hend hx).1 hstarts)]
      exact hset.ahead hx hne h
  · intro r set r' x hx hne h
    have hr : r.rest ≠ [] := by
      intro hnil
      have hle := (hshrinks h).length_le
      have hpos := List.length_pos_iff.2 hne
      simp only [Reader.append_rest, hnil, List.nil_append, List.length_append] at hle
      omega
    have hrx : (r.append x).rest ≠ [] := List.append_ne_nil_of_left_ne_nil hr x
    -- only if a hyphen is all that is left can more text turn it into a range
    by_cases hend : EndsIn '-' r
    · by_cases hstarts : StartsRange (r.append x)
      · -- the range would end in what follows the text
        rw [classRangeEnd_of_startsRange lo hstarts] at h
        have hle := (rangeTo_shorter h).2.length_le.trans
          (length_afterBump_append_le hr hend.2 hx)
        have hpos := List.length_pos_iff.2 hne
        simp only [Reader.append_rest, List.length_append] at hle
        omega
      · rw [classRangeEnd_of_not_startsRange lo hrx hstarts] at h
        exact .inr (Reader.append_injective (classSetOf_reader h) ▸ hend)
    · by_cases hstarts : StartsRange r
      · rw [classRangeEnd_of_startsRange lo ((startsRange_append hr hend hx).2 hstarts)] at h
        rw [classRangeEnd_of_startsRange lo hstarts]
        exact (hrange.back hx hne h).imp_right False.elim
      · rw [classRangeEnd_of_not_startsRange lo hrx
          (mt (startsRange_append hr hend hx).1 hstarts)] at h
        rw [classRangeEnd_of_not_startsRange lo hr hstarts]
        exact (hset.back hx hne h).imp_right False.elim

/-- A word boundary is no item of a class. -/
theorem classRangeEnd_assertion_ne_ok {k : Assertion} {set : ClassSet} :
    classRangeEnd (.assertion k) r ≠ .ok (set, r') := by
  intro h
  have hr := classRangeEnd_ne_nil h
  by_cases hstarts : StartsRange r
  · rw [classRangeEnd_of_startsRange _ hstarts, rangeTo, bind_eq_of_eq_ok (bumpSkip_eq r)] at h
    obtain ⟨c, t, -, h⟩ := bind_eq_ok_iff.1 h
    obtain ⟨hi, t, -, h⟩ := bind_eq_ok_iff.1 h
    exact throw_ne_ok h
  · rw [classRangeEnd_of_not_startsRange _ hr hstarts] at h
    exact throw_ne_ok h

theorem localBut_classRange : LocalBut (fun _ => EndsIn '-') classRange := by
  refine localBut_classItem.bind (fun lo => ?_) ?_
  · exact local_skip.bind fun _ => localBut_classRangeEnd lo
  · rintro lo t set r'' x hx ⟨rfl, -⟩ - h
    obtain ⟨_, t', -, h⟩ := bind_eq_ok_iff.1 h
    exact absurd h classRangeEnd_assertion_ne_ok

theorem classRange_shorter {set : ClassSet} (h : classRange r = .ok (set, r')) :
    r.rest ≠ [] ∧ r'.rest <:+ r.rest.tail := by
  obtain ⟨lo, t, hitem, h⟩ := bind_eq_ok_iff.1 h
  have hend := exact_skip.shrinks.bind fun _ => (localBut_classRangeEnd lo).shrinks
  refine ⟨fun hnil => ?_, (hend h).trans (classItem_shorter hitem)⟩
  rw [classItem, need_bind_eq, hnil] at hitem
  exact absurd hitem nofun

/-! ## Named classes -/

theorem notMem_of_lookup_asciiClasses {name : List Char} {kind : AsciiClass}
    (h : asciiClasses.lookup (String.ofList name) = some kind) :
    ':' ∉ name ∧ '^' ∉ name ∧ ')' ∉ name := by
  have hnames : ∀ p ∈ asciiClasses, ':' ∉ p.1.toList ∧ '^' ∉ p.1.toList ∧ ')' ∉ p.1.toList := by
    decide
  obtain ⟨l₁, l₂, hsplit, -⟩ := List.lookup_eq_some_iff.1 h
  have hmem : (String.ofList name, kind) ∈ asciiClasses := by
    rw [hsplit]
    exact List.mem_append_right _ List.mem_cons_self
  have hname := hnames _ hmem
  rwa [String.toList_ofList] at hname

theorem namedClass?_eq_some_iff {negated negated' : Bool} {cs rest : List Char}
    {kind : AsciiClass} :
    namedClass? negated cs = some (negated', kind, rest) ↔
      negated' = negated ∧ ∃ name, asciiClasses.lookup (String.ofList name) = some kind ∧
        cs = name ++ ':' :: ']' :: rest := by
  unfold namedClass?
  dsimp only
  constructor
  · intro h
    split at h
    · next after kind' hdrop hlookup =>
      obtain ⟨rfl, rfl, rfl⟩ : negated = negated' ∧ kind' = kind ∧ after = rest := by simpa using h
      refine ⟨rfl, _, hlookup, ?_⟩
      rw [← hdrop, List.takeWhile_append_dropWhile]
    · exact absurd h nofun
  -- no name in the table has a colon, so the name ends where it is cut off
  · rintro ⟨rfl, name, hlookup, rfl⟩
    obtain ⟨htake, hdrop⟩ :=
      Text.span_of_notMem (notMem_of_lookup_asciiClasses hlookup).1 (']' :: rest)
    rw [htake, hdrop, hlookup]
    rfl

/-- How the named classes are written. -/
theorem asciiClass?_eq_some_iff {negated : Bool} {cs rest : List Char} {kind : AsciiClass} :
    asciiClass? cs = some (negated, kind, rest) ↔
      ∃ name, asciiClasses.lookup (String.ofList name) = some kind ∧
        cs = '[' :: ':' :: ((if negated then ['^'] else []) ++ name ++ [':', ']']) ++ rest := by
  constructor
  · intro h
    unfold asciiClass? at h
    split at h
    · obtain ⟨rfl, name, hlookup, rfl⟩ := namedClass?_eq_some_iff.1 h
      exact ⟨name, hlookup, by simp⟩
    · obtain ⟨rfl, name, hlookup, rfl⟩ := namedClass?_eq_some_iff.1 h
      exact ⟨name, hlookup, by simp⟩
    · exact absurd h nofun
  · rintro ⟨name, hlookup, rfl⟩
    have hclass : namedClass? negated (name ++ ':' :: ']' :: rest) = some (negated, kind, rest) :=
      namedClass?_eq_some_iff.2 ⟨rfl, name, hlookup, rfl⟩
    cases negated with
    | true => simpa [asciiClass?] using hclass
    | false =>
      rcases name with _ | ⟨c, name⟩
      · simpa [asciiClass?] using hclass
      · have hc : c ≠ '^' := by
          rintro rfl
          exact (notMem_of_lookup_asciiClasses hlookup).2.1 List.mem_cons_self
        simpa [asciiClass?, hc] using hclass

theorem asciiClass?_append {cs rest : List Char} {negated : Bool} {kind : AsciiClass}
    (h : asciiClass? cs = some (negated, kind, rest)) (x : List Char) :
    asciiClass? (cs ++ x) = some (negated, kind, rest ++ x) := by
  obtain ⟨name, hlookup, rfl⟩ := asciiClass?_eq_some_iff.1 h
  exact asciiClass?_eq_some_iff.2 ⟨name, hlookup, List.append_assoc _ _ _⟩

/-- A named class does not extend to a closing parenthesis. -/
theorem asciiClass?_of_append {cs x t : List Char} {negated : Bool} {kind : AsciiClass}
    (hx : Closing x) (h : asciiClass? (cs ++ x) = some (negated, kind, t)) :
    ∃ rest, asciiClass? cs = some (negated, kind, rest) := by
  obtain ⟨y, rfl⟩ := hx
  obtain ⟨name, hlookup, heq⟩ := asciiClass?_eq_some_iff.1 h
  -- the class ends in the text or goes on in what follows
  rcases List.append_eq_append_iff.1 heq with ⟨more, hmore, htail⟩ | ⟨rest, hrest, -⟩
  · rcases more with _ | ⟨c, more⟩
    · refine ⟨[], asciiClass?_eq_some_iff.2 ⟨name, hlookup, ?_⟩⟩
      rw [List.append_nil] at hmore ⊢
      exact hmore.symm
    · obtain ⟨rfl, -⟩ := List.cons.inj htail
      have hmem : ')' ∈ '[' :: ':' :: ((if negated then ['^'] else []) ++ name ++ [':', ']']) := by
        rw [hmore]
        simp
      cases negated <;> simp [(notMem_of_lookup_asciiClasses hlookup).2.2] at hmem
  · exact ⟨rest, asciiClass?_eq_some_iff.2 ⟨name, hlookup, hrest⟩⟩

theorem asciiClass?_shorter {cs rest : List Char} {negated : Bool} {kind : AsciiClass}
    (h : asciiClass? cs = some (negated, kind, rest)) : rest <:+ cs.tail := by
  obtain ⟨name, -, rfl⟩ := asciiClass?_eq_some_iff.1 h
  exact List.suffix_append _ rest

/-! ## Whole classes -/

theorem local_hyphens (fuel : Nat) : Local (hyphens fuel) := by
  induction fuel with
  | zero => exact localBut_pure []
  | succ fuel ih =>
    refine (local_need _).bind fun c => LocalBut.ite (fun _ => ?_) fun _ => localBut_pure []
    exact local_bumpSkip.bind fun _ => ih.bind fun _ => localBut_pure _

theorem settles_hyphens : Settles hyphens := by
  intro r items r' fuel hr hne
  -- without text left the two bounds may disagree: one of them stops before it looks
  induction fuel generalizing r items with
  | zero =>
    have hnil := List.length_eq_zero_iff.1 (Nat.le_zero.1 hr)
    constructor
    · intro h
      rw [hyphens, need_bind_eq, hnil] at h
      exact absurd h nofun
    · intro h
      rw [← (pure_eq_ok_iff.1 h).2] at hne
      exact absurd hnil hne
  | succ fuel ih =>
    show (need _ >>= _) r = _ ↔ (need _ >>= _) r = _
    rw [need_bind_eq, need_bind_eq]
    split
    · next c hc =>
      split
      · rw [bind_eq_of_eq_ok (bumpSkip_eq r), bind_eq_of_eq_ok (bumpSkip_eq r)]
        have hlt := taking_bumpSkip.length_lt (ne_nil_of_head? hc) (bumpSkip_eq r)
        have hle := Nat.le_of_lt_succ (Nat.lt_of_lt_of_le hlt hr)
        simp only [bind_eq_ok_iff, pure_eq_ok_iff]
        refine exists_congr fun first => exists_congr fun t => and_congr_left ?_
        rintro ⟨-, rfl⟩
        exact ih hle
      · exact Iff.rfl
    · exact Iff.rfl

theorem local_leadingHyphens : Local leadingHyphens :=
  Local.sized local_hyphens settles_hyphens

/-- The opening of a class takes its bracket, and what it does then is local. -/
theorem exists_classOpening_eq :
    ∃ f : Unit → Read (Bool × List ClassSet), classOpening = bumpSkip >>= f ∧ Local (f ()) := by
  refine ⟨_, rfl, (local_need _).bind fun c => ?_⟩
  refine LocalBut.ite (fun _ => local_bumpSkip.bind fun _ => ?_) fun _ => ?_
  all_goals
    refine local_leadingHyphens.bind fun first => (local_need _).bind fun d => ?_
    refine LocalBut.ite (fun _ => ?_) fun _ => localBut_pure _
    exact local_bumpSkip.bind fun _ => (local_need _).bind fun _ => localBut_pure _

theorem local_classOpening : Local classOpening := by
  obtain ⟨f, heq, hf⟩ := exists_classOpening_eq
  rw [heq]
  exact local_bumpSkip.bind fun _ => hf

theorem classOpening_length_lt {opening : Bool × List ClassSet} (hne : r.rest ≠ [])
    (h : classOpening r = .ok (opening, r')) : r'.rest.length < r.rest.length := by
  obtain ⟨f, heq, hf⟩ := exists_classOpening_eq
  rw [heq, bind_eq_of_eq_ok (bumpSkip_eq r)] at h
  exact Nat.lt_of_le_of_lt (hf.shrinks h).length_le
    (taking_bumpSkip.length_lt hne (bumpSkip_eq r))

/-- What a class does at an opening bracket: it takes a named class or goes into
    a class within the class. -/
theorem taking_asciiClass {β : Type} {f : Bool → AsciiClass → Read β} {g : Read β}
    (hf : ∀ negated kind, Exact (f negated kind)) (hg : Taking g) :
    Taking (do
      match asciiClass? (← get).rest with
      | some (negated, kind, rest) =>
        modify ({ · with rest })
        f negated kind
      | none => g) := by
  -- the match is named once, as its two branches are all that is used of it
  generalize hm : (do
      match asciiClass? (← get).rest with
      | some (negated, kind, rest) =>
        modify ({ · with rest })
        f negated kind
      | none => g : Read β) = m
  have hsome : ∀ {r : Reader} {negated kind rest},
      asciiClass? r.rest = some (negated, kind, rest) → m r = f negated kind { r with rest } := by
    intro r negated kind rest h
    rw [← hm]
    show (match asciiClass? r.rest with | some (_, _, _) => _ | none => _ : Read β) r = _
    rw [h]
    rfl
  have hnone : ∀ {r : Reader}, asciiClass? r.rest = none → m r = g r := by
    intro r h
    rw [← hm]
    show (match asciiClass? r.rest with | some (_, _, _) => _ | none => _ : Read β) r = _
    rw [h]
  have happend : ∀ {r : Reader} {x}, Closing x → asciiClass? r.rest = none →
      asciiClass? (r.append x).rest = none := by
    intro r x hx h
    refine Option.eq_none_iff_forall_ne_some.2 fun ⟨negated, kind, t⟩ hclass => ?_
    obtain ⟨rest, hrest⟩ := asciiClass?_of_append hx hclass
    rw [h] at hrest
    exact absurd hrest nofun
  refine { shorter := ?_, forth := ?_, back := ?_ }
  · intro r b r' hne h
    rcases hclass : asciiClass? r.rest with _ | ⟨negated, kind, rest⟩
    · exact hg.shorter hne (hnone hclass ▸ h)
    · exact ((hf _ _).shrinks (hsome hclass ▸ h)).trans (asciiClass?_shorter hclass)
  · intro r b r' hne h
    rcases hclass : asciiClass? r.rest with _ | ⟨negated, kind, rest⟩
    · exact (hg.forth hne (hnone hclass ▸ h)).congr fun x hx => hnone (happend hx hclass)
    · have hcarries := (hf negated kind).forth (r := { r with rest }) (hsome hclass ▸ h)
      exact hcarries.congr fun x _ => hsome (r := r.append x) (asciiClass?_append hclass x)
  · intro r b r' x hne hx h
    rcases hclass : asciiClass? r.rest with _ | ⟨negated, kind, rest⟩
    · rw [hnone (happend hx hclass)] at h
      rw [hnone hclass]
      exact hg.back hne hx h
    · rw [hsome (r := r.append x) (asciiClass?_append hclass x)] at h
      rw [hsome hclass]
      exact (hf _ _).back (r := { r with rest }) hx h

theorem classOp?_of_ne {c : Char} (after : Option Char) (h : after ≠ some c) :
    classOp? c after = none :=
  if_pos (bne_iff_ne.2 h)

/-- A closing parenthesis makes no operator. -/
theorem classOp?_append (c : Char) (hne : r.rest ≠ []) (hx : Closing x) :
    classOp? c (r.append x).rest.tail.head? = classOp? c r.rest.tail.head? := by
  obtain ⟨y, rfl⟩ := hx
  rcases hr : r.rest with _ | ⟨d, _ | ⟨e, cs⟩⟩
  · exact absurd hr hne
  · simp only [Reader.append_rest, hr, List.cons_append, List.nil_append, List.tail_cons,
      List.head?_cons, List.head?_nil]
    rw [classOp?_of_ne none nofun]
    by_cases hc : c = ')'
    · subst hc
      rfl
    · exact classOp?_of_ne _ fun h => hc (Option.some.inj h).symm
  · simp [hr]

/-- What a class does at the first character of an item. -/
theorem taking_classOp {β : Type} (c : Char) {f : ClassOp → Read β} {g : Read β}
    (hf : ∀ op, Demanding (f op)) (hg : Taking g) :
    Taking (do
      match classOp? c (← get).rest.tail.head? with
      | some op =>
        bump
        bump
        f op
      | none => g) := by
  refine Taking.choose (fun r => classOp? c r.rest.tail.head?)
    (fun r x hne hx => classOp?_append c hne hx) (f := fun op => match op with
      | some op => do bump; bump; f op
      | none => g) fun op => ?_
  rcases op with _ | op
  · exact hg
  · exact taking_bump.bind fun _ =>
      (Demanding.of_local local_bump fun _ => hf op).exact

theorem classRange_of_hyphen (h : r.rest.head? = some '-') :
    classRange r = classRangeEnd (.literal ⟨'-', false⟩) (afterBump r) := by
  have hitem : classItem r = .ok (.literal ⟨'-', false⟩, { r with rest := r.rest.tail }) := by
    rw [classItem, need_bind_eq, h]
    rfl
  rw [classRange, bind_eq_of_eq_ok hitem]
  exact bind_eq_of_eq_ok (bumpSkip_eq r)

/-- A hyphen at the end of the text is no item before a closing parenthesis. -/
theorem length_lt_of_endsIn_hyphen {fuel : Nat} {pending : Option (ClassOp × ClassSet)}
    {items : List ClassSet} {set : ClassSet}
    (hbody : ∀ n < fuel, ∀ pending items, Demanding (classBody n pending items)) (hx : Closing x)
    (hend : EndsIn '-' r) (h : classBody fuel pending items (r.append x) = .ok (set, r')) :
    r'.rest.length < x.length := by
  rcases fuel with _ | fuel
  · exact absurd h throw_ne_ok
  have hhead := head?_append hend.1 x
  -- the hyphen is no operator, as nothing but blanks stands after it in the text
  have hop : classOp? '-' (r.append x).rest.tail.head? = none := by
    rw [classOp?_append '-' (ne_nil_of_head? hend.1) hx]
    refine classOp?_of_ne _ fun hnext => ?_
    obtain ⟨cs, hcs⟩ := List.head?_eq_some_iff.1 hnext
    have hblanks : afterBlanks ('-' :: cs) = '-' :: cs := by
      rw [afterBlanks_cons, if_neg (by decide), if_neg (by decide)]
    have hnil := hend.2
    unfold afterBump at hnil
    rw [hcs, hblanks] at hnil
    split at hnil
    · exact absurd hnil (List.cons_ne_nil _ _)
    · exact absurd hnil (List.cons_ne_nil _ _)
  rw [classBody, bind_eq_of_eq_ok (skip_of_head? hhead (by decide) (by decide)), need_bind_eq,
    hhead] at h
  have h : (match classOp? '-' (r.append x).rest.tail.head? with
    | some op => _
    | none => classRange >>= fun item => classBody fuel pending (item :: items) : Read ClassSet)
      (r.append x) = .ok (set, r') := h
  rw [hop] at h
  obtain ⟨item, t, hrange, h⟩ := bind_eq_ok_iff.1 h
  rw [classRange_of_hyphen hhead] at hrange
  -- the rest of the class is then read from what follows the text
  calc r'.rest.length < t.rest.length := (hbody fuel (Nat.lt_succ_self fuel) _ _).length_lt h
    _ ≤ (afterBump (r.append x)).rest.length :=
      ((localBut_classRangeEnd _).shrinks hrange).length_le
    _ ≤ x.length := length_afterBump_append_le (ne_nil_of_head? hend.1) hend.2 hx

theorem demanding_classBody (fuel : Nat) (pending : Option (ClassOp × ClassSet))
    (items : List ClassSet) : Demanding (classBody fuel pending items) := by
  -- a hyphen at the end needs the statement for all smaller bounds
  induction fuel using Nat.strong_induction_on generalizing pending items with
  | _ fuel ih =>
    rcases fuel with _ | fuel
    · exact demanding_throw _
    have hbody := ih fuel (Nat.lt_succ_self fuel)
    refine Demanding.of_local local_skip fun _ => Demanding.need_bind fun c => ?_
    refine Taking.ite (fun _ => ?_) fun _ => Taking.ite (fun _ => ?_) fun _ => ?_
    · refine taking_asciiClass (fun negated kind => (hbody _ _).exact) ?_
      refine (Demanding.of_local local_classOpening fun opening => ?_).toTaking
      exact (hbody _ _).bind fun inner => (hbody _ _).exact
    · exact taking_bump.bind fun _ => exact_pure _
    · refine taking_classOp c (fun op => hbody _ _) ?_
      refine (Demanding.of_localBut localBut_classRange (fun item => hbody _ _) ?_).toTaking
      intro item t set t' x hx hend h
      exact length_lt_of_endsIn_hyphen (fun n hn => ih n (Nat.lt_succ_of_lt hn)) hx hend h

/-- The bound of a class does not matter if it is the length of the text or more. -/
theorem classBody_succ_eq {fuel : Nat} (h : r.rest.length ≤ fuel)
    (pending : Option (ClassOp × ClassSet)) (items : List ClassSet) :
    classBody (fuel + 1) pending items r = classBody fuel pending items r := by
  induction fuel generalizing r pending items with
  | zero =>
    obtain ⟨rest, verbose, names⟩ := r
    obtain rfl : rest = [] := List.length_eq_zero_iff.1 (Nat.le_zero.1 h)
    cases verbose <;> rfl
  | succ fuel ih =>
    show (skip >>= _) r = (skip >>= _) r
    refine bind_congr_of_eq_ok fun _ t hskip => ?_
    have ht := (exact_skip.shrinks hskip).length_le.trans h
    rw [need_bind_eq, need_bind_eq]
    split
    · next c hc =>
      have hne := ne_nil_of_head? hc
      split
      · rw [get_bind_eq, get_bind_eq]
        -- a class within the class runs under the same bound as what comes after it
        rcases hclass : asciiClass? t.rest with _ | ⟨negated, kind, rest⟩
        · refine bind_congr_of_eq_ok fun opening u hopening => ?_
          have hu := Nat.le_of_lt_succ
            (Nat.lt_of_lt_of_le (classOpening_length_lt hne hopening) ht)
          show (classBody (fuel + 1) none opening.2 >>= _) u =
            (classBody fuel none opening.2 >>= _) u
          rw [bind_congr_fst (ih hu none opening.2)]
          refine bind_congr_of_eq_ok fun inner v hinner => ih ?_ _ _
          exact (Nat.le_of_lt ((demanding_classBody _ _ _).length_lt hinner)).trans hu
        · have hlt : rest.length < t.rest.length := by
            have hle := (asciiClass?_shorter hclass).length_le
            have hpos := List.length_pos_iff.2 hne
            rw [List.length_tail] at hle
            omega
          exact ih (r := { t with rest }) (Nat.le_of_lt_succ (Nat.lt_of_lt_of_le hlt ht)) _ _
      split
      · rfl
      · rw [get_bind_eq, get_bind_eq]
        rcases classOp? c t.rest.tail.head? with _ | op
        · refine bind_congr_of_eq_ok fun item u hitem => ih ?_ _ _
          have hle := (classRange_shorter hitem).2.length_le
          rw [List.length_tail] at hle
          omega
        · refine bind_congr_of_eq_ok fun _ u hbump => bind_congr_of_eq_ok fun _ v hbump' => ih ?_ _ _
          have hlt := taking_bump.length_lt hne hbump
          have hle := (shrinks_bump hbump').length_le
          omega
    · rfl

end JavaLint.Regex.Read
