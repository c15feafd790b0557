import JavaLint.Proofs.Text.LineIndex
/-!
# Columns and words

Columns are counted in words, and nothing bounds the tab width that they are counted
with. All values on the way to a column fit in a word exactly when the column itself
does, which is exactly when the word is right. Each tab in a line may take up a whole
tab width, so that two tabs are all that a word has room for at every width.

## Main definitions

- `Text.columnValues` — the values that the arithmetic of a column comes by
- `Text.ArithmeticFits` — all of them fit in a word
- `Text.SafeTabs` — the texts for which they do so at every tab width of 63 bits

## Main statements

- `Text.arithmeticFits_iff` — the last value is the one to look at
- `Text.arithmeticFits_iff_toNat_columnAfter` — nothing overflows exactly when the column is right
- `Text.forall_arithmeticFits_iff_of_counts` — how many tabs and other characters there is room for
- `Text.safeTabs_of_arithmeticFits`, `Text.SafeTabs.arithmeticFits` — the texts that are safe
-/

namespace JavaLint.Text

variable {tabWidth column : Nat} {c : Char} {cs : List Char}

/-! ## Values on the way -/

/-- The values that the step of one character comes by, without bounds. -/
def stepValues (tabWidth column : Nat) (c : Char) : List Nat :=
  if c = '\t' then
    [column / tabWidth, column / tabWidth + 1, (column / tabWidth + 1) * tabWidth]
  else [column + 1]

/-- The values on the way from a column through a text, the 1-based column last. -/
def valuesFrom (tabWidth : Nat) : Nat → List Char → List Nat
  | column, [] => [column + 1]
  | column, c :: cs =>
    stepValues tabWidth column c ++ valuesFrom tabWidth (nextColumn tabWidth column c) cs

/-- The values that the arithmetic for the column after a text comes by. -/
def columnValues (tabWidth : Nat) (cs : List Char) : List Nat :=
  valuesFrom tabWidth 0 cs

/-- No value on the way to the column after a text exceeds a word. -/
def ArithmeticFits (tabWidth : Nat) (cs : List Char) : Prop :=
  ∀ x ∈ columnValues tabWidth cs, x < UInt64.size

theorem le_nextColumn_of_mem_stepValues (ht : 0 < tabWidth) {x : Nat}
    (h : x ∈ stepValues tabWidth column c) : x ≤ nextColumn tabWidth column c := by
  unfold stepValues at h
  unfold nextColumn
  have hmul := Nat.le_mul_of_pos_right (column / tabWidth + 1) ht
  split at h
  · next hc =>
    rw [if_pos hc]
    simp only [List.mem_cons, List.not_mem_nil, or_false] at h
    omega
  · next hc =>
    rw [if_neg hc, List.mem_singleton.1 h]

/-- The last value is the largest one. -/
theorem le_of_mem_valuesFrom (ht : 0 < tabWidth) {x : Nat} (h : x ∈ valuesFrom tabWidth column cs) :
    x ≤ cs.foldl (nextColumn tabWidth) column + 1 := by
  induction cs generalizing column with
  | nil => exact Nat.le_of_eq (List.mem_singleton.1 h)
  | cons c cs ih =>
    rcases List.mem_append.1 h with h | h
    · exact (le_nextColumn_of_mem_stepValues ht h).trans
        ((le_foldl_nextColumn ht cs).trans (Nat.le_succ _))
    · exact ih h

theorem mem_valuesFrom (tabWidth column : Nat) (cs : List Char) :
    cs.foldl (nextColumn tabWidth) column + 1 ∈ valuesFrom tabWidth column cs := by
  induction cs generalizing column with
  | nil => exact List.mem_singleton_self _
  | cons c cs ih => exact List.mem_append_right _ (ih _)

/-- All values fit if the column does. -/
theorem arithmeticFits_iff (ht : 0 < tabWidth) :
    ArithmeticFits tabWidth cs ↔ width tabWidth cs + 1 < UInt64.size :=
  ⟨fun h => h _ (mem_valuesFrom tabWidth 0 cs), fun h _ hx => (le_of_mem_valuesFrom ht hx).trans_lt h⟩

/-- Nothing overflows exactly when the column is right. -/
theorem arithmeticFits_iff_toNat_columnAfter (tabWidth : Nat) (cs : List Char) :
    ArithmeticFits (tabSpan tabWidth) cs ↔
      (columnAfter cs tabWidth.toUInt64).toNat = width (tabSpan tabWidth) cs + 1 := by
  rw [arithmeticFits_iff (tabSpan_pos tabWidth)]
  constructor
  · intro h
    rw [← columnAfter_tabSpan]
    exact toNat_columnAfter (tabSpan_pos tabWidth) h
  · intro h
    rw [← h]
    exact UInt64.toNat_lt_size _

/-! ## Bounds by the number of tabs -/

theorem width_append_singleton (tabWidth : Nat) (cs : List Char) (c : Char) :
    width tabWidth (cs ++ [c]) = nextColumn tabWidth (width tabWidth cs) c := by
  rw [width, List.foldl_append]
  rfl

/-- A tab takes up a tab width at most, and any other character one column. -/
theorem width_le_of_counts (ht : 0 < tabWidth) (cs : List Char) :
    width tabWidth cs ≤ cs.count '\t' * tabWidth + cs.countP (· != '\t') := by
  induction cs using List.reverseRecOn with
  | nil => exact Nat.zero_le _
  | append_singleton cs c ih =>
    rw [width_append_singleton, List.count_append, List.countP_append]
    by_cases hc : c = '\t'
    · have hstep : nextColumn tabWidth (width tabWidth cs) c ≤ width tabWidth cs + tabWidth :=
        nextColumn_le ht c
      simp only [hc, List.count_singleton_self, List.countP_singleton, bne_self_eq_false, Nat.add_mul,
        Nat.one_mul] at hstep ⊢
      omega
    · have htabs : [c].count '\t' = 0 := List.count_eq_zero.2 (by simpa using Ne.symm hc)
      have hothers : [c].countP (· != '\t') = 1 := List.countP_singleton.trans (by simp [hc])
      rw [htabs, Nat.add_zero, hothers, nextColumn, if_neg hc]
      omega

/-- As many tab widths are left behind as there are tabs. -/
theorem count_mul_le_width (ht : 0 < tabWidth) (cs : List Char) :
    cs.count '\t' * tabWidth ≤ width tabWidth cs := by
  induction cs using List.reverseRecOn with
  | nil => simp
  | append_singleton cs c ih =>
    rw [width_append_singleton, List.count_append]
    by_cases hc : c = '\t'
    · rw [hc, List.count_singleton_self, nextColumn, if_pos rfl]
      exact Nat.mul_le_mul_right _ (Nat.succ_le_succ ((Nat.le_div_iff_mul_le ht).2 ih))
    · rw [List.count_singleton, if_neg (by simpa using hc), Nat.add_zero]
      exact ih.trans (Nat.le_of_lt (lt_nextColumn ht c))

theorem width_replicate_tab (ht : 0 < tabWidth) (tabs : Nat) :
    width tabWidth (List.replicate tabs '\t') = tabs * tabWidth := by
  induction tabs with
  | zero => exact (Nat.zero_mul _).symm
  | succ tabs ih =>
    rw [List.replicate_succ', width_append_singleton, ih, nextColumn, if_pos rfl,
      Nat.mul_div_cancel _ ht]

/-- The bound is reached where all tabs come first. -/
theorem width_replicate (ht : 0 < tabWidth) (tabs others : Nat) :
    width tabWidth (List.replicate tabs '\t' ++ List.replicate others ' ') =
      tabs * tabWidth + others := by
  induction others with
  | zero => rw [List.replicate_zero, List.append_nil, Nat.add_zero, width_replicate_tab ht]
  | succ others ih =>
    rw [List.replicate_succ', ← List.append_assoc, width_append_singleton, ih, nextColumn,
      if_neg (by decide), Nat.add_assoc]

/-- The columns of all texts with so many tabs and other characters fit if the bound does. -/
theorem forall_arithmeticFits_iff_of_counts (ht : 0 < tabWidth) (tabs others : Nat) :
    (∀ cs : List Char, cs.count '\t' ≤ tabs → cs.countP (· != '\t') ≤ others →
      ArithmeticFits tabWidth cs) ↔ tabs * tabWidth + others + 1 < UInt64.size := by
  constructor
  · intro h
    have hworst := h (List.replicate tabs '\t' ++ List.replicate others ' ')
      (by simp [List.count_replicate]) (by simp [List.countP_replicate])
    rwa [arithmeticFits_iff ht, width_replicate ht] at hworst
  · intro h cs htabs hothers
    have hwidth := width_le_of_counts ht cs
    have hmul := Nat.mul_le_mul_right tabWidth htabs
    rw [arithmeticFits_iff ht]
    omega

/-! ## Texts that are safe at every tab width -/

/-- The largest tab width that fits in 64 bits with a sign. -/
def widestTab : Nat := Nat.pow 2 63 - 1

/-- A text has at most one tab, or two of which one comes last. -/
def SafeTabs (cs : List Char) : Prop :=
  cs.count '\t' ≤ 1 ∨ cs.count '\t' = 2 ∧ cs.getLast? = some '\t'

instance (cs : List Char) : Decidable (SafeTabs cs) :=
  inferInstanceAs (Decidable (_ ∨ _))

/-- At the largest tab width the columns of no other texts fit. -/
theorem safeTabs_of_arithmeticFits (h : ArithmeticFits widestTab cs) : SafeTabs cs := by
  have ht : 0 < widestTab := by decide
  rw [arithmeticFits_iff ht] at h
  have hsize : UInt64.size = 2 * widestTab + 2 := rfl
  have hwidest : 2 ≤ widestTab := by decide
  have hwidth := count_mul_le_width ht cs
  by_contra hunsafe
  unfold SafeTabs at hunsafe
  have htwo : 2 ≤ cs.count '\t' := by omega
  rcases Nat.lt_or_eq_of_le htwo with hthree | htwo
  · have hmul : 3 * widestTab ≤ cs.count '\t' * widestTab := Nat.mul_le_mul_right _ hthree
    omega
  · -- one more character than two tab widths hold
    cases cs using List.reverseRecOn with
    | nil => simp at htwo
    | append_singleton cs c =>
      have hlast : c ≠ '\t' := fun hc => hunsafe (.inr ⟨htwo.symm, by simp [hc]⟩)
      have hcount : cs.count '\t' = 2 := by
        rw [htwo, List.count_append, List.count_singleton, if_neg (by simpa using hlast), Nat.add_zero]
      have hwidth := count_mul_le_width ht cs
      rw [width_append_singleton, nextColumn, if_neg hlast] at h
      rw [hcount] at hwidth
      omega

/-- The columns of a safe text fit at every tab width of 63 bits, if the text has less
    than 2^62 characters. -/
theorem SafeTabs.arithmeticFits (h : SafeTabs cs) (hlength : cs.length < Nat.pow 2 62)
    (ht : 0 < tabWidth) (hle : tabWidth ≤ widestTab) : ArithmeticFits tabWidth cs := by
  have hsize : UInt64.size = 2 * widestTab + 2 := rfl
  have hwidest : widestTab = 2 * Nat.pow 2 62 - 1 := rfl
  have hothers : ∀ cs : List Char, cs.countP (· != '\t') ≤ cs.length := fun _ => List.countP_le_length
  rw [arithmeticFits_iff ht]
  rcases h with hone | ⟨htwo, hlast⟩
  · have hwidth := width_le_of_counts ht cs
    have hmul := Nat.mul_le_mul_right tabWidth hone
    have hlt := (hothers cs).trans_lt hlength
    omega
  · obtain ⟨cs, rfl⟩ := List.getLast?_eq_some_iff.1 hlast
    rw [List.count_append, List.count_singleton_self] at htwo
    have hcount : cs.count '\t' = 1 := Nat.succ.inj htwo
    have hwidth := width_le_of_counts ht cs
    have hlt := (hothers cs).trans_lt ((List.length_append ▸ Nat.le_add_right _ _).trans_lt hlength)
    rw [hcount, Nat.one_mul] at hwidth
    rw [width_append_singleton, nextColumn, if_pos rfl]
    -- the last tab stop is the second one, or else a tab width is no larger than the text
    rcases Nat.lt_or_ge (width tabWidth cs) (2 * tabWidth) with hsecond | hfar
    · have hstop : width tabWidth cs / tabWidth + 1 ≤ 2 :=
        Nat.succ_le_of_lt ((Nat.div_lt_iff_lt_mul ht).2 hsecond)
      have hmul := Nat.mul_le_mul_right tabWidth hstop
      omega
    · have hmul := Nat.div_mul_le_self (width tabWidth cs) tabWidth
      rw [Nat.succ_mul]
      omega

end JavaLint.Text
