import JavaLint.Java.Cst
import JavaLint.Override
import JavaLint.Proofs.Text.Bytes
import JavaLint.Proofs.Text.Gaps
/-!
# Tokens with gaps between them

One sequence of tokens makes many texts, which differ in the blanks and comments
between the tokens. The places of the tokens differ with them, but not their
order. A text from one token to another one holds the gaps between the tokens.

## Main definitions

- `Java.Spacing` — what stands between the tokens of a text
- `Java.Spacing.chars` — the text that a spacing makes of a list of tokens
- `Java.Spacing.start`, `Java.Spacing.stop` — the bytes at which tokens start and end
- `Java.Spacing.written` — the text from one token to another one

## Main statements

- `Java.Spacing.start_le_start_iff` — tokens are in the order of their numbers
- `Java.Spacing.slice?_chars` — the text from one token to another one
- `Java.Spacing.written_mem_overrideNames_iff` — when such a text names an override marker
-/

namespace JavaLint.Java

open Text (byteLength IsTrimmed IsGap startsGap)

/-- What stands before each token of a text, by the number of the token, and
    after the last one. -/
structure Spacing where
  gap : Nat → List Char
  isGap (i : Nat) : IsGap (gap i)

namespace Spacing

variable {S : Spacing} {ts texts : List (List Char)} {i j : Nat}

/-- Tokens with their gaps before them. The first one has the given number. -/
def spell (S : Spacing) : Nat → List (List Char) → List Char
  | _, [] => []
  | i, text :: rest => S.gap i ++ text ++ S.spell (i + 1) rest

/-- Tokens with the gaps between them. The first one has the given number. -/
def written (S : Spacing) (i : Nat) : List (List Char) → List Char
  | [] => []
  | text :: rest => text ++ S.spell (i + 1) rest

/-- The text of a list of tokens. -/
def chars (S : Spacing) (ts : List (List Char)) : List Char :=
  S.spell 0 ts ++ S.gap ts.length

/-- The text of a list of tokens, as a string. -/
def text (S : Spacing) (ts : List (List Char)) : String :=
  String.ofList (S.chars ts)

theorem toList_text (S : Spacing) (ts : List (List Char)) : (S.text ts).toList = S.chars ts :=
  String.toList_ofList

/-- The byte at which a token starts. -/
def start (S : Spacing) (ts : List (List Char)) (i : Nat) : Nat :=
  byteLength (S.spell 0 (ts.take i) ++ S.gap i)

/-- The byte at which the first `i` tokens end. -/
def stop (S : Spacing) (ts : List (List Char)) (i : Nat) : Nat :=
  byteLength (S.spell 0 (ts.take i))

/-! ## Texts of tokens -/

theorem spell_append (S : Spacing) (i : Nat) (texts rest : List (List Char)) :
    S.spell i (texts ++ rest) = S.spell i texts ++ S.spell (i + texts.length) rest := by
  induction texts generalizing i with
  | nil => rfl
  | cons text texts ih =>
    rw [List.cons_append, spell, ih, spell, List.length_cons, Nat.add_assoc i 1, Nat.add_comm 1]
    simp only [List.append_assoc]

theorem spell_eq_gap_append (S : Spacing) (i : Nat) (h : texts ≠ []) :
    S.spell i texts = S.gap i ++ S.written i texts := by
  cases texts with
  | nil => exact absurd rfl h
  | cons text rest => rw [spell, written, List.append_assoc]

/-- The tokens from number `i` on up to number `j`, without that one. -/
def between (ts : List (List Char)) (i j : Nat) : List (List Char) :=
  (ts.drop i).take (j - i)

theorem take_append_between (h : i ≤ j) : ts.take i ++ between ts i j = ts.take j := by
  have htake : (ts.take j).take i = ts.take i := by rw [List.take_take, Nat.min_eq_left h]
  rw [between, ← List.drop_take, ← htake, List.take_append_drop]

theorem between_ne_nil (hij : i < j) (hj : j ≤ ts.length) : between ts i j ≠ [] := by
  refine List.ne_nil_of_length_pos ?_
  rw [between, List.length_take, List.length_drop]
  omega

theorem written_between_succ (S : Spacing) (hi : i < ts.length) :
    S.written i (between ts i (i + 1)) = ts[i] := by
  have hone : between ts i (i + 1) = [ts[i]] := by
    rw [between, List.drop_eq_getElem_cons hi, Nat.add_sub_cancel_left, List.take_succ_cons,
      List.take_zero]
  rw [hone, written, spell, List.append_nil]

theorem mem_of_mem_between {text : List Char} (h : text ∈ between ts i j) : text ∈ ts :=
  List.mem_of_mem_drop (List.mem_of_mem_take h)

/-- The text up to a token, then the text from there on up to another one. -/
theorem spell_take (S : Spacing) (hij : i < j) (hj : j ≤ ts.length) :
    S.spell 0 (ts.take j) =
      S.spell 0 (ts.take i) ++ S.gap i ++ S.written i (between ts i j) := by
  have hlength : (ts.take i).length = i := by rw [List.length_take]; omega
  rw [← take_append_between (Nat.le_of_lt hij), spell_append, hlength, Nat.zero_add,
    spell_eq_gap_append S i (between_ne_nil hij hj), List.append_assoc]

theorem chars_eq (S : Spacing) (hj : j ≤ ts.length) :
    S.chars ts = S.spell 0 (ts.take j) ++ (S.spell j (ts.drop j) ++ S.gap ts.length) := by
  have hlength : (ts.take j).length = j := by rw [List.length_take]; omega
  conv => lhs; rw [chars, ← List.take_append_drop j ts]
  rw [spell_append, hlength, Nat.zero_add, List.append_assoc, List.take_append_drop]

theorem slice?_chars (S : Spacing) (hij : i < j) (hj : j ≤ ts.length) :
    Text.slice? (S.chars ts) (S.start ts i) (S.stop ts j) =
      some (S.written i (between ts i j)) := by
  rw [chars_eq S hj, start, stop, spell_take S hij hj]
  exact Text.slice?_append _ _ _

theorem isValid_start (S : Spacing) (hi : i < ts.length) :
    (String.Pos.Raw.mk (S.start ts i)).IsValid (S.text ts) := by
  refine String.Pos.Raw.isValid_iff_exists_append.2
    ⟨String.ofList (S.spell 0 (ts.take i) ++ S.gap i),
      String.ofList (S.written i (between ts i ts.length) ++ S.gap ts.length), ?_, rfl⟩
  rw [← String.ofList_append, ← List.append_assoc, ← spell_take S hi (Nat.le_refl _),
    List.take_length, text, chars]

/-! ## The order of tokens -/

section

variable (hts : ∀ text ∈ ts, IsTrimmed text)

include hts

theorem isTrimmed_written (S : Spacing) (hij : i < j) (hj : j ≤ ts.length) :
    IsTrimmed (S.written i (between ts i j)) := by
  -- on the tokens that are written: their ends are those of the first and of the last one
  have hwritten : ∀ (texts : List (List Char)) (i : Nat), texts ≠ [] →
      (∀ text ∈ texts, IsTrimmed text) → IsTrimmed (S.written i texts) := by
    intro texts
    induction texts with
    | nil => exact fun i hne => absurd rfl hne
    | cons text rest ih =>
      intro i _ htexts
      obtain ⟨htext, hrest⟩ := List.forall_mem_cons.1 htexts
      by_cases hne : rest = []
      · rw [hne, written, spell, List.append_nil]
        exact htext
      · rw [written, spell_eq_gap_append S (i + 1) hne, ← List.append_assoc]
        exact htext.append (ih (i + 1) hne hrest) _
  exact hwritten _ i (between_ne_nil hij hj) fun text h => hts text (mem_of_mem_between h)

theorem start_lt_stop (S : Spacing) (hij : i < j) (hj : j ≤ ts.length) :
    S.start ts i < S.stop ts j := by
  have hpos : 0 < byteLength (S.written i (between ts i j)) :=
    Text.byteLength_pos (isTrimmed_written hts S hij hj).ne_nil
  have hstop : S.stop ts j = S.start ts i + byteLength (S.written i (between ts i j)) := by
    rw [stop, start, spell_take S hij hj, Text.byteLength_append]
  rw [hstop]
  exact Nat.lt_add_of_pos_right hpos

theorem start_lt_start (S : Spacing) (hij : i < j) (hj : j ≤ ts.length) :
    S.start ts i < S.start ts j := by
  refine Nat.lt_of_lt_of_le (start_lt_stop hts S hij hj) ?_
  rw [start, stop, Text.byteLength_append]
  exact Nat.le_add_right _ _

theorem start_le_start_iff (S : Spacing) (hi : i < ts.length) (hj : j < ts.length) :
    S.start ts i ≤ S.start ts j ↔ i ≤ j := by
  constructor
  · intro h
    refine Nat.not_lt.1 fun hji => ?_
    exact absurd h (Nat.not_le.2 (start_lt_start hts S hji (Nat.le_of_lt hi)))
  · intro h
    rcases Nat.lt_or_eq_of_le h with hij | rfl
    · exact Nat.le_of_lt (start_lt_start hts S hij (Nat.le_of_lt hj))
    · exact Nat.le_refl _

end

/-! ## Override markers -/

/-- Without gaps the text of tokens is what they spell one after the other. -/
theorem spell_eq_flatten (h : ∀ k, i ≤ k → k < i + texts.length → S.gap k = []) :
    S.spell i texts = texts.flatten := by
  induction texts generalizing i with
  | nil => rfl
  | cons text rest ih =>
    have hfirst : S.gap i = [] := h i (Nat.le_refl i) (by simp)
    have hrest : S.spell (i + 1) rest = rest.flatten := by
      refine ih fun k hik hk => h k (Nat.le_of_succ_le hik) ?_
      rw [List.length_cons]
      omega
    rw [spell, hfirst, hrest, List.nil_append, List.flatten_cons]

theorem written_eq_flatten (h : ∀ k, i < k → k < i + texts.length → S.gap k = []) :
    S.written i texts = texts.flatten := by
  cases texts with
  | nil => rfl
  | cons text rest =>
    rw [written, List.flatten_cons, spell_eq_flatten fun k hik hk => h k hik ?_]
    rw [List.length_cons]
    omega

/-- Where no character belongs to a gap there are none. -/
theorem gap_eq_nil_of_spell {k : Nat} (h : ∀ c ∈ S.spell i texts, startsGap c = false) (hik : i ≤ k)
    (hk : k < i + texts.length) : S.gap k = [] := by
  induction texts generalizing i with
  | nil => exact absurd hk (Nat.not_lt.2 hik)
  | cons text rest ih =>
    rw [spell, List.append_assoc] at h
    rcases Nat.lt_or_eq_of_le hik with hlt | rfl
    · refine ih (fun c hc => h c ?_) hlt ?_
      · exact List.mem_append_right _ (List.mem_append_right _ hc)
      · rw [List.length_cons] at hk
        omega
    · by_contra hne
      obtain ⟨c, hc, hstarts⟩ := (S.isGap i).exists_mem hne
      rw [h c (List.mem_append_left _ hc)] at hstarts
      cases hstarts

theorem gap_eq_nil_of_written {k : Nat} (h : ∀ c ∈ S.written i texts, startsGap c = false)
    (hik : i < k) (hk : k < i + texts.length) : S.gap k = [] := by
  cases texts with
  | nil => exact absurd hk (Nat.not_lt.2 (Nat.le_of_lt hik))
  | cons text rest =>
    have hrest : ∀ c ∈ S.spell (i + 1) rest, startsGap c = false :=
      fun c hc => h c (List.mem_append_right _ hc)
    refine gap_eq_nil_of_spell hrest hik ?_
    rw [List.length_cons] at hk
    omega

theorem startsGap_of_mem_overrideNames {name : String} (h : name ∈ overrideNames) :
    ∀ c ∈ name.toList, startsGap c = false := by
  have hall : ∀ name ∈ overrideNames, (name.toList.all fun c => !startsGap c) = true := by decide
  simpa using hall name h

/-- The text from one token to another one is the name of an override marker if
    the tokens spell it and nothing stands between them. -/
theorem written_mem_overrideNames_iff (S : Spacing) (hij : i < j) (hj : j ≤ ts.length) :
    String.ofList (S.written i (between ts i j)) ∈ overrideNames ↔
      String.ofList (between ts i j).flatten ∈ overrideNames ∧
        ∀ k, i < k → k < j → S.gap k = [] := by
  have hlength : i + (between ts i j).length = j := by
    rw [between, List.length_take, List.length_drop]
    omega
  have hgaps : (∀ k, i < k → k < j → S.gap k = []) →
      S.written i (between ts i j) = (between ts i j).flatten := fun h =>
    written_eq_flatten fun k hik hk => h k hik (hlength ▸ hk)
  constructor
  · intro h
    have hchars := startsGap_of_mem_overrideNames h
    rw [String.toList_ofList] at hchars
    -- a gap would put a blank or a slash into the name
    have hnone : ∀ k, i < k → k < j → S.gap k = [] := fun k hik hk =>
      gap_eq_nil_of_written hchars hik (hlength.symm ▸ hk)
    exact ⟨hgaps hnone ▸ h, hnone⟩
  · rintro ⟨h, hnone⟩
    rwa [hgaps hnone]

end Spacing

end JavaLint.Java
