import JavaLint.Text.LineIndex
/-!
# Texts as bytes

Offsets count the bytes of a text in UTF-8, while texts are lists of characters.
This file relates the two: what is cut out of a text at the ends of characters,
and which bytes end lines.

## Main definitions

- `Text.byteLength` — the number of bytes of a list of characters

## Main statements

- `Text.takeBytes?_append`, `Text.dropBytes?_append`, `Text.slice?_append` — cuts at
  the ends of characters
- `Text.exists_split_of_isValid` — the text between two positions of a string
- `Text.extract_toUTF8` — the bytes of a text between two ends of characters
- `Text.count_toUTF8` — only a line feed has the byte of a line feed
-/

namespace JavaLint.Text

variable {c : Char} {before cs after : List Char}

/-- The number of bytes of a list of characters. -/
def byteLength (cs : List Char) : Nat :=
  (String.ofList cs).utf8ByteSize

@[simp] theorem byteLength_nil : byteLength [] = 0 :=
  rfl

@[simp] theorem byteLength_append : byteLength (cs ++ after) = byteLength cs + byteLength after := by
  unfold byteLength
  rw [String.ofList_append, String.utf8ByteSize_append]

@[simp] theorem byteLength_cons : byteLength (c :: cs) = c.utf8Size + byteLength cs := by
  have hsingle : byteLength [c] = c.utf8Size := String.utf8ByteSize_singleton
  rw [← List.singleton_append, byteLength_append, hsingle]

theorem byteLength_pos (h : cs ≠ []) : 0 < byteLength cs := by
  cases cs with
  | nil => exact absurd rfl h
  | cons c cs =>
    rw [byteLength_cons]
    exact Nat.add_pos_left c.utf8Size_pos _

theorem byteLength_toList (s : String) : byteLength s.toList = s.utf8ByteSize := by
  rw [byteLength, String.ofList_toList]

theorem takeBytes?_nil (k : Nat) : takeBytes? k [] = some [] := by
  cases k <;> rw [takeBytes?]

theorem takeBytes?_zero : takeBytes? 0 cs = some [] := by
  unfold takeBytes?
  rfl

theorem dropBytes?_zero : dropBytes? 0 cs = some cs := by
  unfold dropBytes?
  rfl

theorem takeBytes?_cons (k : Nat) :
    takeBytes? (c.utf8Size + k) (c :: cs) = (takeBytes? k cs).map (c :: ·) := by
  have hpos := c.utf8Size_pos
  obtain ⟨m, hm⟩ : ∃ m, c.utf8Size + k = m + 1 := ⟨c.utf8Size + k - 1, by omega⟩
  have hrest : m + 1 - c.utf8Size = k := by omega
  rw [hm, takeBytes?, if_neg (by omega), hrest]

theorem dropBytes?_cons (k : Nat) : dropBytes? (c.utf8Size + k) (c :: cs) = dropBytes? k cs := by
  have hpos := c.utf8Size_pos
  obtain ⟨m, hm⟩ : ∃ m, c.utf8Size + k = m + 1 := ⟨c.utf8Size + k - 1, by omega⟩
  have hrest : m + 1 - c.utf8Size = k := by omega
  rw [hm, dropBytes?, if_neg (by omega), hrest]

theorem takeBytes?_append_add (before after : List Char) (k : Nat) :
    takeBytes? (byteLength before + k) (before ++ after) = (takeBytes? k after).map (before ++ ·) := by
  induction before with
  | nil => simp
  | cons c before ih =>
    rw [byteLength_cons, Nat.add_assoc, List.cons_append, takeBytes?_cons, ih, Option.map_map]
    rfl

/-- The characters of the first bytes, if these are the bytes of whole characters. -/
theorem takeBytes?_append (before after : List Char) :
    takeBytes? (byteLength before) (before ++ after) = some before := by
  have htake := takeBytes?_append_add before after 0
  rw [Nat.add_zero, takeBytes?_zero, Option.map_some, List.append_nil] at htake
  exact htake

/-- The characters after the first bytes, if these are the bytes of whole characters. -/
theorem dropBytes?_append (before after : List Char) :
    dropBytes? (byteLength before) (before ++ after) = some after := by
  induction before with
  | nil => exact dropBytes?_zero
  | cons c before ih => rw [byteLength_cons, List.cons_append, dropBytes?_cons, ih]

/-- What stands between the ends of two characters. -/
theorem slice?_append (before cs after : List Char) :
    slice? (before ++ cs ++ after) (byteLength before) (byteLength (before ++ cs)) = some cs := by
  unfold slice?
  rw [List.append_assoc, dropBytes?_append, Option.bind_some, byteLength_append,
    Nat.add_sub_cancel_left, takeBytes?_append]

/-- The text between two positions at which characters of a string start or end. -/
theorem exists_split_of_isValid {source : String} {start stop : Nat} (hle : start ≤ stop)
    (hstart : (String.Pos.Raw.mk start).IsValid source)
    (hstop : (String.Pos.Raw.mk stop).IsValid source) :
    ∃ before cs after : List Char, source.toList = before ++ cs ++ after ∧
      byteLength before = start ∧ byteLength (before ++ cs) = stop := by
  obtain ⟨i, hi : start = byteLength (source.toList.take i)⟩ :=
    String.Pos.Raw.isValid_iff_exists_take_toList.1 hstart
  obtain ⟨j, hj : stop = byteLength (source.toList.take j)⟩ :=
    String.Pos.Raw.isValid_iff_exists_take_toList.1 hstop
  rcases Nat.le_total i j with hij | hji
  · have hsplit : source.toList.take i ++ (source.toList.take j).drop i = source.toList.take j := by
      have htake : (source.toList.take j).take i = source.toList.take i := by
        rw [List.take_take, Nat.min_eq_left hij]
      rw [← htake, List.take_append_drop]
    refine ⟨source.toList.take i, (source.toList.take j).drop i, source.toList.drop j, ?_, hi.symm, ?_⟩
    · rw [hsplit, List.take_append_drop]
    · rw [hsplit, hj]
  · -- the text before the end is then no longer than that before the start
    have hsplit : source.toList.take j ++ (source.toList.take i).drop j = source.toList.take i := by
      have htake : (source.toList.take i).take j = source.toList.take j := by
        rw [List.take_take, Nat.min_eq_left hji]
      rw [← htake, List.take_append_drop]
    have hsame : start = stop := by
      rw [← hsplit, byteLength_append, ← hj] at hi
      omega
    refine ⟨source.toList.take i, [], source.toList.drop i, ?_, hi.symm, ?_⟩
    · rw [List.append_nil, List.take_append_drop]
    · rw [List.append_nil, ← hi, hsame]

/-- The bytes of what stands between the ends of two characters. -/
theorem extract_toUTF8 (before s after : String) :
    (before ++ s ++ after).toUTF8.extract before.utf8ByteSize (before.utf8ByteSize + s.utf8ByteSize) =
      s.toUTF8 := by
  unfold String.toUTF8
  rw [String.append_assoc, String.toByteArray_append, String.toByteArray_append,
    ← String.size_toByteArray, ← String.size_toByteArray]
  have hskip := ByteArray.extract_append_size_add (a := before.toByteArray)
    (b := s.toByteArray ++ after.toByteArray) (i := 0) (j := s.toByteArray.size)
  rw [Nat.add_zero] at hskip
  rw [hskip, ByteArray.extract_append_eq_left rfl]

/-- The bytes before the end of a character. -/
theorem extract_toUTF8_zero (before after : String) :
    (before ++ after).toUTF8.extract 0 before.utf8ByteSize = before.toUTF8 := by
  unfold String.toUTF8
  rw [String.toByteArray_append, ByteArray.extract_append_eq_left String.size_toByteArray.symm]

/-- No other character has the byte of a line feed among its bytes: those of a
    character that takes several ones are large. -/
theorem count_utf8EncodeChar (c : Char) :
    (String.utf8EncodeChar c).count 10 = [c].count '\n' := by
  have hbyte : ∀ n : Nat, UInt8.ofNat n = 10 ↔ n % 256 = 10 := by
    intro n
    rw [← UInt8.toNat_inj, UInt8.toNat_ofNat']
    rfl
  have hchar : c = '\n' ↔ c.val.toNat = 10 := by
    rw [Char.ext_iff, ← UInt32.toNat_inj]
    rfl
  simp only [String.utf8EncodeChar]
  split
  · simp only [List.count_cons, List.count_nil, beq_iff_eq, hbyte, hchar]
    split <;> split <;> omega
  · split
    · simp only [List.count_cons, List.count_nil, beq_iff_eq, hbyte, hchar]
      rw [if_neg (by omega), if_neg (by omega), if_neg (by omega)]
    · split
      · simp only [List.count_cons, List.count_nil, beq_iff_eq, hbyte, hchar]
        rw [if_neg (by omega), if_neg (by omega), if_neg (by omega), if_neg (by omega)]
      · simp only [List.count_cons, List.count_nil, beq_iff_eq, hbyte, hchar]
        rw [if_neg (by omega), if_neg (by omega), if_neg (by omega), if_neg (by omega),
          if_neg (by omega)]

/-- The bytes of a text are those of its characters. -/
theorem toList_data_toUTF8 (s : String) :
    s.toUTF8.data.toList = s.toList.flatMap String.utf8EncodeChar := by
  unfold String.toUTF8
  rw [← String.utf8Encode_toList, List.utf8Encode, List.data_toByteArray]

/-- A text has as many bytes of a line feed as it has line feeds. -/
theorem count_toUTF8 (s : String) : s.toUTF8.data.count 10 = s.toList.count '\n' := by
  rw [← Array.count_toList, toList_data_toUTF8]
  induction s.toList with
  | nil => rfl
  | cons c cs ih =>
    rw [List.flatMap_cons, List.count_append, ih, count_utf8EncodeChar, ← List.count_append,
      List.singleton_append]

end JavaLint.Text
