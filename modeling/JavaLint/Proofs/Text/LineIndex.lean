import Mathlib.Data.List.DropRight
import JavaLint.Proofs.Text.LineStarts
/-!
# Where an offset stands

The line and the column of an offset at the end of a character are those of the
text before it.

## Main definitions

- `Text.lastLine` — the part of a text after its last line feed
- `Text.width` — the tab-expanded width of a text, as a number without bounds
- `Text.ColumnsFit` — no column of a text is larger than a word
- `Text.tabSpan` — the tab width that counts

## Main statements

- `Text.toNat_columnAfter` — columns are widths as long as they fit in a word
- `Text.LineIndex.position_ofSource` — the position after a text
- `Text.LineIndex.position_le_iff` — positions are in the order of their offsets
-/

namespace JavaLint.Text

variable {tabWidth start pos column : Nat} {current before after cs : List Char}

/-- The part of a text after its last line feed. -/
def lastLine (cs : List Char) : List Char :=
  cs.rtakeWhile (· != '\n')

theorem lastLine_eq_self (h : '\n' ∉ cs) : lastLine cs = cs := by
  refine List.rtakeWhile_eq_self_iff.2 fun c hc => ?_
  simpa using fun hn : c = '\n' => h (hn ▸ hc)

theorem lastLine_append (before cs : List Char) : lastLine (before ++ '\n' :: cs) = lastLine cs := by
  induction cs using List.reverseRecOn with
  | nil =>
    unfold lastLine
    rw [List.rtakeWhile_concat_neg _ _ _ (by decide), List.rtakeWhile_nil]
  | append_singleton cs c ih =>
    unfold lastLine at ih ⊢
    rw [← List.cons_append, ← List.append_assoc, List.rtakeWhile_concat, List.rtakeWhile_concat, ih]

/-- The column after a character, where both count from zero and have no bounds. -/
def nextColumn (tabWidth column : Nat) (c : Char) : Nat :=
  if c = '\t' then (column / tabWidth + 1) * tabWidth else column + 1

/-- The tab-expanded width of a text that starts a line. -/
def width (tabWidth : Nat) (cs : List Char) : Nat :=
  cs.foldl (nextColumn tabWidth) 0

theorem lt_nextColumn (ht : 0 < tabWidth) (c : Char) : column < nextColumn tabWidth column c := by
  unfold nextColumn
  split
  · exact Nat.lt_mul_of_div_lt (Nat.lt_succ_self _) ht
  · exact Nat.lt_succ_self _

theorem le_foldl_nextColumn (ht : 0 < tabWidth) (cs : List Char) :
    column ≤ cs.foldl (nextColumn tabWidth) column := by
  induction cs generalizing column with
  | nil => exact Nat.le_refl _
  | cons c cs ih => exact (Nat.le_of_lt (lt_nextColumn ht c)).trans ih

theorem nextColumn_le (ht : 0 < tabWidth) (c : Char) :
    nextColumn tabWidth column c ≤ column + tabWidth := by
  unfold nextColumn
  split
  · rw [Nat.succ_mul]
    exact Nat.add_le_add_right (Nat.div_mul_le_self column tabWidth) tabWidth
  · exact Nat.add_le_add_left ht column

theorem width_le (ht : 0 < tabWidth) (cs : List Char) : width tabWidth cs ≤ cs.length * tabWidth := by
  induction cs using List.reverseRecOn with
  | nil => exact Nat.zero_le _
  | append_singleton cs c ih =>
    unfold width at ih ⊢
    rw [List.foldl_append, List.length_append, Nat.add_mul, List.length_singleton, Nat.one_mul]
    exact (nextColumn_le ht c).trans (Nat.add_le_add_right ih tabWidth)

/-- The columns of all places in a text fit in a word. -/
def ColumnsFit (tabWidth : Nat) (cs : List Char) : Prop :=
  ∀ before after, cs = before ++ after → width tabWidth (lastLine before) + 1 < UInt64.size

/-- The columns of a text fit if there is room for as many tabs as it has characters. -/
theorem columnsFit_of_length (ht : 0 < tabWidth) (h : cs.length * tabWidth + 1 < UInt64.size) :
    ColumnsFit tabWidth cs := by
  rintro before after rfl
  have hlast : (lastLine before).length ≤ (before ++ after).length :=
    (List.rtakeWhile_suffix _ _).length_le.trans (List.length_append ▸ Nat.le_add_right _ _)
  have hwidth := (width_le ht (lastLine before)).trans (Nat.mul_le_mul_right tabWidth hlast)
  exact (Nat.succ_le_succ hwidth).trans_lt h

/-- A step of the word arithmetic is exact if its result fits. A tab width that
    does not fit takes no part in it, as a tab would lead past all words. -/
theorem toNat_advance {word : UInt64} {c : Char} (ht : 0 < tabWidth)
    (h : nextColumn tabWidth word.toNat c < UInt64.size) :
    (advance (tabStop tabWidth.toUInt64) word c).toNat = nextColumn tabWidth word.toNat c := by
  unfold nextColumn at h ⊢
  unfold advance
  split
  · next hc =>
    rw [if_pos hc] at h
    -- the next tab stop is at least one tab width away
    have hfit : tabWidth < UInt64.size := (Nat.le_mul_of_pos_left _ (Nat.succ_pos _)).trans_lt h
    have hword : tabWidth.toUInt64.toNat = tabWidth := UInt64.toNat_ofNat_of_lt hfit
    have hne : tabWidth.toUInt64 ≠ 0 := by
      intro hzero
      rw [hzero] at hword
      exact Nat.ne_of_lt ht hword
    have hsucc : word.toNat / tabWidth + 1 < UInt64.size := (Nat.le_mul_of_pos_right _ ht).trans_lt h
    rw [tabStop, if_neg hne, UInt64.toNat_mul, UInt64.toNat_add, UInt64.toNat_div, hword,
      UInt64.toNat_one, Nat.mod_eq_of_lt hsucc, Nat.mod_eq_of_lt h]
  · next hc =>
    rw [if_neg hc] at h
    rw [UInt64.toNat_add, UInt64.toNat_one, Nat.mod_eq_of_lt h]

theorem toNat_foldl_advance {word : UInt64} (ht : 0 < tabWidth)
    (h : cs.foldl (nextColumn tabWidth) word.toNat < UInt64.size) :
    (cs.foldl (advance (tabStop tabWidth.toUInt64)) word).toNat =
      cs.foldl (nextColumn tabWidth) word.toNat := by
  induction cs generalizing word with
  | nil => rfl
  | cons c cs ih =>
    rw [List.foldl_cons] at h ⊢
    have hstep := toNat_advance ht ((le_foldl_nextColumn ht cs).trans_lt h)
    rw [List.foldl_cons, ← hstep]
    exact ih (hstep ▸ h)

/-- The column after a text is its width and one, if that fits in a word. -/
theorem toNat_columnAfter (ht : 0 < tabWidth) (h : width tabWidth cs + 1 < UInt64.size) :
    (columnAfter cs tabWidth.toUInt64).toNat = width tabWidth cs + 1 := by
  have hword : (cs.foldl (advance (tabStop tabWidth.toUInt64)) 0).toNat = width tabWidth cs :=
    toNat_foldl_advance ht (Nat.lt_of_succ_lt h)
  unfold columnAfter
  rw [UInt64.toNat_add, hword, UInt64.toNat_one, Nat.mod_eq_of_lt h]

/-- The first line reaches up to the first line feed. -/
theorem linesFrom_eq_cons (start pos : Nat) (current cs : List Char) :
    ∃ rest, linesFrom start pos current cs =
      ⟨start, current.reverse ++ cs.takeWhile (· != '\n')⟩ :: rest := by
  induction cs generalizing start pos current with
  | nil => exact ⟨[], by rw [linesFrom, List.takeWhile_nil, List.append_nil]⟩
  | cons c cs ih =>
    unfold linesFrom
    split
    · next hc =>
      exact ⟨_, by rw [List.takeWhile_cons_of_neg (by simpa using hc), List.append_nil]⟩
    · next hc =>
      obtain ⟨rest, heq⟩ := ih start (pos + c.utf8Size) (c :: current)
      refine ⟨rest, ?_⟩
      rw [heq, List.takeWhile_cons_of_pos (by simpa using hc), List.reverse_cons, List.append_assoc]
      rfl

/-- The line that an offset stands on has the text between its start and the offset,
    and goes on up to the next line feed. -/
theorem getElem?_linesFrom (start pos : Nat) (current : List Char)
    (hpos : start + byteLength current.reverse = pos) (hcurrent : '\n' ∉ current)
    (before after : List Char) :
    ∃ line, (linesFrom start pos current (before ++ after))[before.count '\n']? = some line ∧
      line.text = lastLine (current.reverse ++ before) ++ after.takeWhile (· != '\n') ∧
      line.start + byteLength (lastLine (current.reverse ++ before)) = pos + byteLength before := by
  induction before generalizing start pos current with
  | nil =>
    obtain ⟨rest, heq⟩ := linesFrom_eq_cons start pos current after
    have hlast : lastLine current.reverse = current.reverse :=
      lastLine_eq_self fun h => hcurrent (List.mem_reverse.1 h)
    exact ⟨_, by rw [List.nil_append, heq]; rfl,
      by rw [List.append_nil, hlast], by rw [List.append_nil, hlast, hpos]; rfl⟩
  | cons c before ih =>
    rw [List.cons_append, linesFrom]
    split
    · next hc =>
      obtain ⟨line, hline, htext, hoffset⟩ := ih (pos + 1) (pos + 1) [] rfl (by simp)
      rw [List.reverse_nil, List.nil_append] at htext hoffset
      refine ⟨line, ?_, ?_, ?_⟩
      · rw [hc, List.count_cons_self, List.getElem?_cons_succ, hline]
      · rw [hc, lastLine_append, htext]
      · rw [hc, lastLine_append, hoffset, byteLength_cons, ← Nat.add_assoc]
        rfl
    · next hc =>
      have hne : '\n' ∉ c :: current := by
        rintro (_ | ⟨_, h⟩)
        · exact hc rfl
        · exact hcurrent h
      have hlen : start + byteLength (c :: current).reverse = pos + c.utf8Size := by
        rw [List.reverse_cons, byteLength_append, ← Nat.add_assoc, hpos, byteLength_cons]
        rfl
      obtain ⟨line, hline, htext, hoffset⟩ := ih _ _ _ hlen hne
      rw [List.reverse_cons, List.append_assoc, List.singleton_append] at htext hoffset
      refine ⟨line, ?_, htext, ?_⟩
      · rw [List.count_cons_of_ne hc, hline]
      · rw [hoffset, byteLength_cons, ← Nat.add_assoc]

/-- The column of an offset takes up what stands after the last line feed in front of it. -/
theorem LineIndex.position_eq_of_line {source : String} {offset : Nat} {tabWidth : UInt64}
    (h : source.toList = before ++ after) (hle : byteLength before ≤ offset)
    (hline : (LineIndex.ofSource source tabWidth).line offset = 1 + before.count '\n') :
    (LineIndex.ofSource source tabWidth).position offset =
      (1 + before.count '\n', columnAfter (((takeBytes? (offset - byteLength before)
        (after.takeWhile (· != '\n'))).map (lastLine before ++ ·)).getD []) tabWidth) := by
  obtain ⟨line, hget, htext, hoffset⟩ := getElem?_linesFrom 0 0 [] rfl (by simp) before after
  rw [List.reverse_nil, List.nil_append] at htext hoffset
  have hlines : (LineIndex.ofSource source tabWidth).lines[before.count '\n']? = some line := by
    unfold LineIndex.ofSource Text.lines
    rw [h, hget]
  have hbytes : offset - line.start = byteLength (lastLine before) + (offset - byteLength before) := by
    omega
  simp only [LineIndex.position, hline, Nat.add_sub_cancel_left, hlines, LineIndex.columnOn, hbytes,
    htext, takeBytes?_append_add]
  rfl

/-- As many lines end in front of an offset as there are line feeds. -/
theorem LineIndex.line_byteLength {source : String} (h : source.toList = before ++ after)
    (tabWidth : UInt64) :
    (LineIndex.ofSource source tabWidth).line (byteLength before) = 1 + before.count '\n' := by
  have hsource : source = String.ofList before ++ String.ofList after := by
    rw [← String.ofList_append, ← h, String.ofList_toList]
  rw [line_ofSource, hsource, byteLength, extract_toUTF8_zero, count_toUTF8, String.toList_ofList]

/-- The line of the end of a text counts its line feeds, and the column takes up
    what stands after the last one. -/
theorem LineIndex.position_ofSource {source : String} (h : source.toList = before ++ after)
    (tabWidth : UInt64) :
    (LineIndex.ofSource source tabWidth).position (byteLength before) =
      (1 + before.count '\n', columnAfter (lastLine before) tabWidth) := by
  rw [position_eq_of_line h (Nat.le_refl _) (line_byteLength h tabWidth), Nat.sub_self,
    takeBytes?_zero, Option.map_some, List.append_nil, Option.getD_some]

/-! ## The order of positions -/

/-- The tab width that counts: zero stands for one. -/
def tabSpan (tabWidth : Nat) : Nat :=
  max tabWidth 1

theorem tabSpan_pos (tabWidth : Nat) : 0 < tabSpan tabWidth :=
  Nat.le_max_right tabWidth 1

theorem columnAfter_tabSpan (cs : List Char) (tabWidth : Nat) :
    columnAfter cs (tabSpan tabWidth).toUInt64 = columnAfter cs tabWidth.toUInt64 := by
  rcases Nat.eq_zero_or_pos tabWidth with rfl | hpos
  · rfl
  · rw [tabSpan, Nat.max_eq_left hpos]

theorem lastLine_append_of_notMem (before : List Char) (h : '\n' ∉ cs) :
    lastLine (before ++ cs) = lastLine before ++ cs := by
  induction cs using List.reverseRecOn with
  | nil => rw [List.append_nil, List.append_nil]
  | append_singleton cs c ih =>
    rw [List.mem_append, not_or, List.mem_singleton] at h
    rw [← List.append_assoc, lastLine, List.rtakeWhile_concat_pos _ _ _ (by simpa using Ne.symm h.2),
      ← lastLine, ih h.1, List.append_assoc]

theorem width_lt_width_append (ht : 0 < tabWidth) (before : List Char) (h : cs ≠ []) :
    width tabWidth before < width tabWidth (before ++ cs) := by
  obtain ⟨c, cs, rfl⟩ := List.exists_cons_of_ne_nil h
  unfold width
  rw [List.foldl_append, List.foldl_cons]
  exact (lt_nextColumn ht c).trans_le (le_foldl_nextColumn ht cs)

/-- What stands further on in a text stands on a later line, or further on in the same line. -/
theorem count_lt_or_width_lt (ht : 0 < tabWidth) (before : List Char) (h : cs ≠ []) :
    before.count '\n' < (before ++ cs).count '\n' ∨
      (before ++ cs).count '\n' = before.count '\n' ∧
        width tabWidth (lastLine before) < width tabWidth (lastLine (before ++ cs)) := by
  rw [List.count_append]
  by_cases hbreak : '\n' ∈ cs
  · exact .inl (Nat.lt_add_of_pos_right (List.count_pos_iff.2 hbreak))
  · refine .inr ⟨by rw [List.count_eq_zero.2 hbreak, Nat.add_zero], ?_⟩
    rw [lastLine_append_of_notMem before hbreak]
    exact width_lt_width_append ht (lastLine before) h

/-- The columns of a text are widths, whatever the tab width is. -/
theorem ColumnsFit.toNat_columnAfter (h : ColumnsFit (tabSpan tabWidth) (before ++ after)) :
    (columnAfter (lastLine before) tabWidth.toUInt64).toNat =
      width (tabSpan tabWidth) (lastLine before) + 1 := by
  rw [← columnAfter_tabSpan]
  exact Text.toNat_columnAfter (tabSpan_pos tabWidth) (h before after rfl)

/-- What ends further on in a text has a larger position. -/
theorem LineIndex.position_lt {source : String} (h : source.toList = before ++ cs ++ after)
    (hcs : cs ≠ []) (hfit : ColumnsFit (tabSpan tabWidth) source.toList) :
    let index := LineIndex.ofSource source tabWidth.toUInt64
    let first := index.position (byteLength before)
    let second := index.position (byteLength (before ++ cs))
    first.1 < second.1 ∨ first.1 = second.1 ∧ first.2.toNat < second.2.toNat := by
  have hbefore : source.toList = before ++ (cs ++ after) := by rw [h, List.append_assoc]
  have hfirst : ColumnsFit (tabSpan tabWidth) (before ++ (cs ++ after)) := hbefore ▸ hfit
  have hsecond : ColumnsFit (tabSpan tabWidth) (before ++ cs ++ after) := h ▸ hfit
  dsimp only
  rw [position_ofSource hbefore, position_ofSource h]
  dsimp only
  rw [hfirst.toNat_columnAfter, hsecond.toNat_columnAfter]
  rcases count_lt_or_width_lt (tabSpan_pos tabWidth) before hcs with hline | ⟨hline, hwidth⟩
  · exact .inl (Nat.add_lt_add_left hline 1)
  · exact .inr ⟨by rw [hline], Nat.succ_lt_succ hwidth⟩

/-- Ends of characters that are further on have larger positions. -/
theorem LineIndex.position_lt_of_isValid {source : String} {i j : Nat}
    (hi : (String.Pos.Raw.mk i).IsValid source) (hj : (String.Pos.Raw.mk j).IsValid source)
    (hfit : ColumnsFit (tabSpan tabWidth) source.toList) (hij : i < j) :
    let index := LineIndex.ofSource source tabWidth.toUInt64
    (index.position i).1 < (index.position j).1 ∨
      (index.position i).1 = (index.position j).1 ∧
        (index.position i).2.toNat < (index.position j).2.toNat := by
  obtain ⟨before, cs, after, hsource, rfl, rfl⟩ := exists_split_of_isValid hij.le hi hj
  refine position_lt hsource ?_ hfit
  rintro rfl
  rw [List.append_nil] at hij
  exact Nat.lt_irrefl _ hij

/-- The ends of characters are in the order of their positions, as long as the
    columns fit. -/
theorem LineIndex.position_le_iff {source : String} {i j : Nat}
    (hi : (String.Pos.Raw.mk i).IsValid source) (hj : (String.Pos.Raw.mk j).IsValid source)
    (hfit : ColumnsFit (tabSpan tabWidth) source.toList) :
    let index := LineIndex.ofSource source tabWidth.toUInt64
    (index.position i).1 < (index.position j).1 ∨
        (index.position i).1 = (index.position j).1 ∧
          (index.position i).2.toNat ≤ (index.position j).2.toNat ↔
      i ≤ j := by
  dsimp only
  constructor
  · intro hle
    by_contra hij
    have hlt := position_lt_of_isValid hj hi hfit (Nat.not_le.1 hij)
    dsimp only at hlt
    omega
  · intro hij
    rcases Nat.lt_or_eq_of_le hij with hij | rfl
    · have hlt := position_lt_of_isValid hi hj hfit hij
      dsimp only at hlt
      omega
    · exact .inr ⟨rfl, Nat.le_refl _⟩

end JavaLint.Text
