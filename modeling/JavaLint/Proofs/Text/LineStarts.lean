import JavaLint.Proofs.Text.Bytes
import JavaLint.Proofs.Text.Search
/-!
# Where lines start

Lines start at the first byte of a text and after each byte of a line feed. The line
of an offset therefore counts the bytes of line feeds in front of it, also if the
offset lies inside a character or past the end.

## Main statements

- `Text.map_start_linesFrom` — the places that lines start at, from the bytes of a text
- `Text.LineIndex.line_ofSource` — the line of an offset
- `Text.LineIndex.line_le_lineCount` — there is a line with that number
-/

namespace JavaLint.Text

/-- Among the bytes of a character, only that of a line feed is a line feed. -/
theorem filter_zipIdx_utf8EncodeChar {c : Char} (hc : c ≠ '\n') (pos : Nat) :
    ((String.utf8EncodeChar c).zipIdx pos).filter (·.1 == 10) = [] := by
  have hcount : (String.utf8EncodeChar c).count 10 = 0 := by
    rw [count_utf8EncodeChar, List.count_cons_of_ne hc, List.count_nil]
  refine List.filter_eq_nil_iff.2 fun byte hbyte heq => List.count_eq_zero.1 hcount ?_
  rw [← beq_iff_eq.1 heq]
  exact List.fst_mem_of_mem_zipIdx hbyte

/-- Lines start where the text starts, and after each byte of a line feed. -/
theorem map_start_linesFrom (start pos : Nat) (current cs : List Char) :
    (linesFrom start pos current cs).map (·.start) =
      start :: (((cs.flatMap String.utf8EncodeChar).zipIdx pos).filter (·.1 == 10)).map (·.2 + 1) := by
  induction cs generalizing start pos current with
  | nil => rfl
  | cons c cs ih =>
    rw [linesFrom, List.flatMap_cons]
    split
    · next hc =>
      have hbytes : String.utf8EncodeChar c = [10] := by
        rw [hc]
        rfl
      rw [List.map_cons, ih, hbytes]
      rfl
    · next hc =>
      rw [ih, List.zipIdx_append, List.filter_append, filter_zipIdx_utf8EncodeChar hc,
        List.nil_append, String.length_utf8EncodeChar]

theorem pairwise_map_filter_zipIdx (byte : UInt8) (bytes : List UInt8) (n : Nat) :
    (((bytes.zipIdx n).filter (·.1 == byte)).map (·.2 + 1)).Pairwise (· < ·) := by
  rw [List.pairwise_map]
  refine List.Pairwise.filter _ ?_
  induction bytes generalizing n with
  | nil => exact .nil
  | cons b bytes ih =>
    rw [List.zipIdx_cons]
    refine List.pairwise_cons.2 ⟨fun entry hentry => ?_, ih (n + 1)⟩
    have hle : n + 1 ≤ entry.2 := List.le_snd_of_mem_zipIdx hentry
    exact Nat.succ_lt_succ hle

/-- As many indices of a byte are below a bound as the bytes up to the bound contain it. -/
theorem countP_filter_zipIdx (byte : UInt8) (bytes : List UInt8) (n k : Nat) :
    (((bytes.zipIdx n).filter (·.1 == byte)).map (·.2 + 1)).countP (· ≤ n + k) =
      (bytes.take k).count byte := by
  induction bytes generalizing n k with
  | nil => rw [List.take_nil]; rfl
  | cons b bytes ih =>
    cases k with
    | zero =>
      rw [List.take_zero, List.count_nil]
      refine List.countP_eq_zero.2 fun stop hstop hle => ?_
      obtain ⟨entry, hentry, rfl⟩ := List.mem_map.1 hstop
      have hfar : n ≤ entry.2 := List.le_snd_of_mem_zipIdx (List.mem_filter.1 hentry).1
      exact Nat.not_succ_le_self n (Nat.le_trans (Nat.succ_le_succ hfar) (of_decide_eq_true hle))
    | succ k =>
      have hrest := ih (n + 1) k
      rw [Nat.add_right_comm, Nat.add_assoc] at hrest
      rw [List.zipIdx_cons, List.take_succ_cons, List.filter_cons, List.count_cons]
      split
      · have hle : n + 1 ≤ n + (k + 1) := Nat.add_le_add_left (Nat.le_add_left 1 k) n
        rw [List.map_cons, List.countP_cons, hrest, if_pos (decide_eq_true hle)]
      · rw [hrest, Nat.add_zero]

namespace LineIndex

variable (source : String) (tabWidth : UInt64) (offset : Nat)

/-- The places that lines start at, as the bytes of the text tell. -/
theorem starts_ofSource :
    (ofSource source tabWidth).starts.toList =
      0 :: ((source.toUTF8.data.toList.zipIdx 0).filter (·.1 == 10)).map (·.2 + 1) := by
  rw [toList_data_toUTF8]
  exact map_start_linesFrom 0 0 [] source.toList

theorem pairwise_starts_ofSource : (ofSource source tabWidth).starts.toList.Pairwise (· < ·) := by
  rw [starts_ofSource]
  refine List.pairwise_cons.2 ⟨fun start hstart => ?_, pairwise_map_filter_zipIdx _ _ _⟩
  obtain ⟨entry, -, rfl⟩ := List.mem_map.1 hstart
  exact Nat.succ_pos entry.2

theorem count_extract_toUTF8 :
    (source.toUTF8.extract 0 offset).data.count 10 =
      (source.toUTF8.data.toList.take offset).count 10 := by
  rw [ByteArray.data_extract, ← Array.count_toList, Array.toList_extract, List.extract_eq_take_drop,
    List.drop_zero, Nat.sub_zero]

/-- The line of an offset is one more than the number of line feeds in front of it. -/
theorem line_ofSource :
    (ofSource source tabWidth).line offset = 1 + (source.toUTF8.extract 0 offset).data.count 10 := by
  have hrank := rank_search (pairwise_starts_ofSource source tabWidth) offset
  have hcount := countP_filter_zipIdx 10 source.toUTF8.data.toList 0 offset
  rw [Nat.zero_add] at hcount
  rw [Array.toArray_toList, starts_ofSource, List.countP_cons, hcount,
    if_pos (decide_eq_true (Nat.zero_le offset))] at hrank
  rw [line, hrank, count_extract_toUTF8, Nat.add_comm]

theorem line_le_line {i j : Nat} (h : i ≤ j) :
    (ofSource source tabWidth).line i ≤ (ofSource source tabWidth).line j := by
  rw [line_ofSource, line_ofSource, count_extract_toUTF8, count_extract_toUTF8]
  exact Nat.add_le_add_left (List.Sublist.count_le 10 (List.take_sublist_take_left h)) 1

theorem lineCount_ofSource :
    (ofSource source tabWidth).lineCount = 1 + source.toUTF8.data.count 10 := by
  have hlength := congrArg List.length (starts_ofSource source tabWidth)
  rw [starts, List.length_map, List.length_cons, List.length_map, ← List.countP_eq_length_filter] at hlength
  rw [lineCount, hlength, Nat.add_comm, ← Array.count_toList, List.count]
  have hbytes := List.countP_map (p := (· == (10 : UInt8))) (f := Prod.fst)
    (l := source.toUTF8.data.toList.zipIdx)
  rw [List.zipIdx_map_fst] at hbytes
  rw [hbytes]
  rfl

theorem line_le_lineCount :
    (ofSource source tabWidth).line offset ≤ (ofSource source tabWidth).lineCount := by
  rw [line_ofSource, lineCount_ofSource, count_extract_toUTF8, ← Array.count_toList]
  exact Nat.add_le_add_left (List.Sublist.count_le 10 (List.take_sublist offset _)) 1

theorem line_sub_one_lt_size_starts :
    (ofSource source tabWidth).line offset - 1 < (ofSource source tabWidth).starts.size := by
  have hle := line_le_lineCount source tabWidth offset
  have hsize : (ofSource source tabWidth).starts.size = (ofSource source tabWidth).lineCount := by
    rw [starts, List.size_toArray, List.length_map, lineCount]
  rw [line_ofSource] at hle ⊢
  omega

end LineIndex

end JavaLint.Text
