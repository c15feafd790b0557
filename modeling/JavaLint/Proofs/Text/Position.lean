import Mathlib.Order.Bounds.Basic
import JavaLint.Proofs.Text.LineIndex
/-!
# Positions of all offsets

An offset lies inside a character, at the end of one, or past the end of the text.
Inside a character the column is one; elsewhere it is one more than the width of what
stands on the line in front of the offset, where an offset past the end counts as the
end. The line is in all three cases that of the line feeds in front.

## Main definitions

- `Text.IsInside` — an offset lies inside a character

## Main statements

- `Text.isLeast_nextColumn_tab` — a tab leads to the next tab stop
- `Text.LineIndex.position_of_isInside` — the column inside a character
- `Text.LineIndex.position_of_size_le` — an offset past the end stands for the end
- `Text.LineIndex.position_exact` — all of it, with the order of positions
-/

namespace JavaLint.Text

variable {source : String} {offset : Nat} {before after : List Char} {c : Char}

/-- The offset lies past the first byte of a character and in front of its end. -/
def IsInside (offset : Nat) (source : String) : Prop :=
  ∃ before c after, source.toList = before ++ c :: after ∧
    byteLength before < offset ∧ offset < byteLength before + c.utf8Size

theorem IsInside.lt_size (h : IsInside offset source) : offset < source.utf8ByteSize := by
  obtain ⟨before, c, after, hsource, -, hhi⟩ := h
  rw [← byteLength_toList, hsource, byteLength_append, byteLength_cons]
  omega

/-- A tab leads to the next multiple of the tab width. -/
theorem isLeast_nextColumn_tab {tabWidth : Nat} (ht : 0 < tabWidth) (column : Nat) :
    IsLeast {stop | column < stop ∧ tabWidth ∣ stop} (nextColumn tabWidth column '\t') := by
  refine ⟨⟨lt_nextColumn ht '\t', Nat.dvd_mul_left ..⟩, ?_⟩
  rintro _ ⟨hlt, k, rfl⟩
  have hdiv : column / tabWidth < k := Nat.div_lt_of_lt_mul hlt
  rw [nextColumn, if_pos rfl, Nat.mul_comm tabWidth k]
  exact Nat.mul_le_mul_right tabWidth hdiv

theorem nextColumn_of_ne_tab (hc : c ≠ '\t') (tabWidth column : Nat) :
    nextColumn tabWidth column c = column + 1 :=
  if_neg hc

/-- An offset that lies inside no character ends a part of the text, or lies past its end. -/
theorem exists_byteLength_eq_min (h : ¬ IsInside offset source) :
    ∃ before after, source.toList = before ++ after ∧
      byteLength before = min offset source.utf8ByteSize := by
  unfold IsInside at h
  rw [← byteLength_toList]
  -- the text is cut behind the last character that ends in front of the offset
  have hcut : ∀ before after, source.toList = before ++ after → byteLength before ≤ offset →
      ∃ before after, source.toList = before ++ after ∧
        byteLength before = min offset (byteLength source.toList) := by
    intro before after hsource hle
    induction after generalizing before with
    | nil => exact ⟨before, [], hsource, by rw [hsource, List.append_nil, Nat.min_eq_right hle]⟩
    | cons c after ih =>
      by_cases hc : byteLength before + c.utf8Size ≤ offset
      · exact ih (before ++ [c]) (by rw [hsource, List.append_assoc]; rfl) (by simpa using hc)
      · have heq : byteLength before = offset := by
          by_contra hne
          exact h ⟨before, c, after, hsource, Nat.lt_of_le_of_ne hle hne, Nat.not_le.1 hc⟩
        refine ⟨before, c :: after, hsource, ?_⟩
        rw [hsource, byteLength_append, heq, Nat.min_eq_left (Nat.le_add_right _ _)]
  exact hcut [] source.toList rfl (Nat.zero_le offset)

namespace LineIndex

theorem position_of_isInside (h : IsInside offset source) (tabWidth : UInt64) :
    ((ofSource source tabWidth).position offset).2 = 1 := by
  obtain ⟨before, c, after, hsource, hlo, hhi⟩ := h
  have hc : c ≠ '\n' := by
    rintro rfl
    have hone : ('\n' : Char).utf8Size = 1 := rfl
    omega
  -- the offset is on the line of the character, between its two ends
  have hfirst := line_byteLength hsource tabWidth
  have hsplit : source.toList = (before ++ [c]) ++ after := by
    rw [hsource, List.append_assoc]
    rfl
  have hlast := line_byteLength hsplit tabWidth
  rw [List.count_append, List.count_singleton, if_neg (by simpa using hc), Nat.add_zero] at hlast
  have hend : byteLength (before ++ [c]) = byteLength before + c.utf8Size := by simp
  have hline : (ofSource source tabWidth).line offset = 1 + before.count '\n' := by
    refine Nat.le_antisymm ?_ ?_
    · exact hlast ▸ line_le_line source tabWidth (hend ▸ hhi.le)
    · exact hfirst ▸ line_le_line source tabWidth hlo.le
  rw [position_eq_of_line hsource hlo.le hline, List.takeWhile_cons_of_pos (by simpa using hc)]
  obtain ⟨k, hk⟩ : ∃ k, offset - byteLength before = k + 1 := ⟨offset - byteLength before - 1, by omega⟩
  rw [hk, takeBytes?, if_pos (by omega)]
  rfl

/-- An offset past the end of the text has the position of its end. -/
theorem position_of_size_le (h : source.utf8ByteSize ≤ offset) (tabWidth : UInt64) :
    (ofSource source tabWidth).position offset =
      (ofSource source tabWidth).position source.utf8ByteSize := by
  have hsource : source.toList = source.toList ++ [] := (List.append_nil _).symm
  have hsize := byteLength_toList source
  have hline : (ofSource source tabWidth).line offset = 1 + source.toList.count '\n' := by
    refine Nat.le_antisymm ?_ ?_
    · have hle := line_le_lineCount source tabWidth offset
      rwa [lineCount_ofSource, count_toUTF8] at hle
    · exact line_byteLength hsource tabWidth ▸ line_le_line source tabWidth (hsize.trans_le h)
  rw [← hsize, position_ofSource hsource, position_eq_of_line hsource (hsize.trans_le h) hline,
    List.takeWhile_nil, takeBytes?_nil, Option.map_some, List.append_nil, Option.getD_some]

/-- An offset that lies inside no character stands behind what is in front of it on its line. -/
theorem exists_position_eq_columnAfter (h : ¬ IsInside offset source) (tabWidth : UInt64) :
    ∃ before after, source.toList = before ++ after ∧
      byteLength before = min offset source.utf8ByteSize ∧
      ((ofSource source tabWidth).position offset).2 = columnAfter (lastLine before) tabWidth := by
  obtain ⟨before, after, hsource, hbytes⟩ := exists_byteLength_eq_min h
  refine ⟨before, after, hsource, hbytes, ?_⟩
  have hposition := position_ofSource hsource tabWidth
  rcases Nat.le_total offset source.utf8ByteSize with hle | hle
  · rw [Nat.min_eq_left hle] at hbytes
    rw [← hbytes, hposition]
  · rw [Nat.min_eq_right hle] at hbytes
    rw [position_of_size_le hle, ← hbytes, hposition]

theorem fst_position (index : LineIndex) (offset : Nat) :
    (index.position offset).1 = index.line offset := by
  unfold position
  dsimp only
  split <;> rfl

/-- Lines count the line feeds in front of an offset, and there is a line with each such
    number. Columns are one inside a character, and else one more than the width of what
    stands in front on the line, with a tab up to the next tab stop and all else of width
    one. Ends of characters that are further on have larger positions. -/
theorem position_exact (source : String) (tabWidth : UInt64) :
    let index := ofSource source tabWidth
    let tab := tabSpan tabWidth.toNat
    (∀ offset,
      index.line offset = 1 + (source.toUTF8.extract 0 offset).data.count 10 ∧
      index.line offset ≤ index.lineCount ∧
      index.line offset - 1 < index.starts.size ∧
      (index.position offset).1 = index.line offset ∧
      (IsInside offset source → (index.position offset).2 = 1) ∧
      (¬ IsInside offset source →
        ∃ before after, source.toList = before ++ after ∧
          byteLength before = min offset source.utf8ByteSize ∧
          (1 + width tab (lastLine before) < UInt64.size →
            (index.position offset).2.toNat = 1 + width tab (lastLine before)))) ∧
    (∀ column, IsLeast {stop | column < stop ∧ tab ∣ stop} (nextColumn tab column '\t') ∧
      ∀ c, c ≠ '\t' → nextColumn tab column c = column + 1) ∧
    (ColumnsFit tab source.toList → ∀ i j, (String.Pos.Raw.mk i).IsValid source →
      (String.Pos.Raw.mk j).IsValid source → i < j →
        (index.position i).1 < (index.position j).1 ∨
          (index.position i).1 = (index.position j).1 ∧
            (index.position i).2.toNat < (index.position j).2.toNat) := by
  intro index tab
  have hword : tabWidth.toNat.toUInt64 = tabWidth := UInt64.ofNat_toNat
  have htab : 0 < tab := tabSpan_pos tabWidth.toNat
  refine ⟨fun offset => ⟨line_ofSource source tabWidth offset, line_le_lineCount source tabWidth offset,
    line_sub_one_lt_size_starts source tabWidth offset, fst_position index offset,
    fun hinside => position_of_isInside hinside tabWidth, ?_⟩,
    fun column => ⟨isLeast_nextColumn_tab htab column, fun c hc => nextColumn_of_ne_tab hc tab column⟩,
    ?_⟩
  · intro hinside
    obtain ⟨before, after, hsource, hbytes, hcolumn⟩ := exists_position_eq_columnAfter hinside tabWidth
    refine ⟨before, after, hsource, hbytes, fun hfit => ?_⟩
    rw [Nat.add_comm] at hfit
    rw [hcolumn, ← hword, ← columnAfter_tabSpan, toNat_columnAfter htab hfit, Nat.add_comm]
  · intro hfit i j hi hj hij
    have hlt := position_lt_of_isValid hi hj hfit hij
    rwa [hword] at hlt

/-- The second line of the text is a tab and a character of two bytes, which offset 4 lies
    inside of. Offset 9 is past the end. -/
theorem position_exact_umlaut :
    let index := ofSource "a\n\tä" 8
    ColumnsFit 8 "a\n\tä".toList ∧
      IsInside 4 "a\n\tä" ∧ (index.position 4).2 = 1 ∧
      ¬ IsInside 9 "a\n\tä" ∧ (index.position 9).2.toNat = 10 ∧
      ((index.position 2).1 < (index.position 5).1 ∨
        (index.position 2).1 = (index.position 5).1 ∧
          (index.position 2).2.toNat < (index.position 5).2.toNat) := by
  have hlist : "a\n\tä".toList = ['a', '\n', '\t', 'ä'] := rfl
  have hfit : ColumnsFit 8 "a\n\tä".toList := columnsFit_of_length (by decide) (by decide)
  have hinside : IsInside 4 "a\n\tä" := ⟨['a', '\n', '\t'], 'ä', [], hlist, by decide, by decide⟩
  have hout : ¬ IsInside 9 "a\n\tä" := fun h => absurd h.lt_size (by decide)
  obtain ⟨hoffsets, -, hlt⟩ := position_exact "a\n\tä" 8
  refine ⟨hfit, hinside, (hoffsets 4).2.2.2.2.1 hinside, hout, ?_,
    hlt hfit 2 5 ?_ ?_ (by decide)⟩
  · obtain ⟨before, after, hsource, hbytes, hcolumn⟩ := (hoffsets 9).2.2.2.2.2 hout
    have hend : after = [] := by
      have hsize : byteLength before + byteLength after = byteLength before := by
        rw [← byteLength_append, ← hsource, hbytes]
        rfl
      cases after with
      | nil => rfl
      | cons c after =>
        have hpos := c.utf8Size_pos
        rw [byteLength_cons] at hsize
        omega
    obtain rfl : before = ['a', '\n', '\t', 'ä'] := by
      rw [← hlist, hsource, hend, List.append_nil]
    exact hcolumn (by decide)
  · exact String.Pos.Raw.isValid_iff_exists_take_toList.2 ⟨2, rfl⟩
  · exact String.Pos.Raw.isValid_iff_exists_take_toList.2 ⟨4, rfl⟩

end LineIndex

end JavaLint.Text
