import JavaLint.Text.Split
import Mathlib.Data.List.TakeWhile
/-!
# Splitting and joining

A text is cut at its first mark in one way. So a text that is made by joining pieces
without the mark between them is split at the mark into these pieces again.

## Main statements

- `Text.eq_of_append_mark_eq` — a text is cut at its first mark in one way
- `Text.splitChars_eq_splitOnP` — splitting is that of the library
- `Text.splitChars_join`, `Text.splitCommas_join` — splitting after joining
-/

namespace JavaLint.Text

variable {mark c : Char} {cs front front' rest rest' : List Char} {ps : List (List Char)}
  {names : List String}

/-! ## Up to a mark -/

theorem span_of_notMem (h : mark ∉ front) (rest : List Char) :
    (front ++ mark :: rest).takeWhile (· != mark) = front ∧
      (front ++ mark :: rest).dropWhile (· != mark) = mark :: rest := by
  have hall : ∀ c ∈ front, (c != mark) = true := by
    intro c hc
    exact bne_iff_ne.2 fun heq => h (heq ▸ hc)
  rw [List.takeWhile_append_of_pos hall, List.dropWhile_append_of_pos hall]
  simp

/-- A text is cut at its first mark in one way. -/
theorem eq_of_append_mark_eq (h : mark ∉ front) (h' : mark ∉ front')
    (heq : front ++ mark :: rest = front' ++ mark :: rest') : front = front' ∧ rest = rest' := by
  obtain ⟨htake, hdrop⟩ := span_of_notMem h rest
  obtain ⟨htake', hdrop'⟩ := span_of_notMem h' rest'
  rw [heq] at htake hdrop
  exact ⟨htake.symm.trans htake', (List.cons.inj (hdrop.symm.trans hdrop')).2⟩

theorem exists_of_dropWhile_eq_cons (h : cs.dropWhile (· != mark) = c :: rest) :
    mark ∉ cs.takeWhile (· != mark) ∧ cs = cs.takeWhile (· != mark) ++ mark :: rest := by
  have hc : c = mark := by
    have hne : cs.dropWhile (· != mark) ≠ [] := by
      rw [h]
      exact List.cons_ne_nil c rest
    have hhead := List.head_dropWhile_not (· != mark) hne
    simpa [h] using hhead
  subst hc
  refine ⟨fun hmem => ?_, ?_⟩
  · simpa using List.mem_takeWhile_imp hmem
  · rw [← h, List.takeWhile_append_dropWhile]

/-! ## All pieces -/

theorem splitChars_eq_splitOnP (stop : Char → Bool) (cs : List Char) :
    splitChars stop cs = cs.splitOnP stop := by
  induction cs with
  | nil => rfl
  | cons c cs ih =>
    rw [splitChars, List.splitOnP_cons_eq_if_modifyHead, ih]
    cases h : cs.splitOnP stop with
    | nil => exact absurd h (List.splitOnP_ne_nil stop cs)
    | cons piece rest =>
      dsimp only
      split <;> rfl

theorem splitChars_of_notMem (h : mark ∉ cs) : splitChars (· == mark) cs = [cs] := by
  rw [splitChars_eq_splitOnP]
  refine List.splitOnP_eq_singleton fun c hc => ?_
  have hne : c ≠ mark := fun heq => h (heq ▸ hc)
  simpa using hne

theorem splitChars_append (mark : Char) (cs cs' : List Char) :
    splitChars (· == mark) (cs ++ mark :: cs') =
      splitChars (· == mark) cs ++ splitChars (· == mark) cs' := by
  simp only [splitChars_eq_splitOnP]
  exact List.splitOnP_append_cons cs cs' (beq_self_eq_true mark)

/-- Pieces without the mark are found again in the text that they are joined to. -/
theorem splitChars_join {between : String} (hbetween : between.toList = [mark]) (hne : ps ≠ [])
    (h : ∀ piece ∈ ps, mark ∉ piece) :
    splitChars (· == mark) (join between (ps.map String.ofList)).toList = ps := by
  induction ps with
  | nil => exact absurd rfl hne
  | cons piece rest ih =>
    obtain ⟨hpiece, hrest⟩ := List.forall_mem_cons.1 h
    cases rest with
    | nil => rw [List.map_cons, List.map_nil, join, String.toList_ofList, splitChars_of_notMem hpiece]
    | cons next rest =>
      have hjoin : (join between ((piece :: next :: rest).map String.ofList)).toList =
          piece ++ mark :: (join between ((next :: rest).map String.ofList)).toList := by
        rw [List.map_cons, List.map_cons, join, String.toList_append, String.toList_append,
          String.toList_ofList, hbetween, List.append_assoc, List.singleton_append]
        exact fun h => nomatch h
      rw [hjoin, splitChars_append, ih (List.cons_ne_nil _ _) hrest, splitChars_of_notMem hpiece,
        List.singleton_append]

/-- Names without commas are found again in the text that lists them. -/
theorem splitCommas_join (hne : names ≠ []) (h : ∀ name ∈ names, ',' ∉ name.toList) :
    splitCommas (join "," names) = names := by
  have hnames : (names.map String.toList).map String.ofList = names := by
    simp [List.map_map, Function.comp_def]
  have hcomma : ",".toList = [','] := rfl
  have hjoin := splitChars_join hcomma (mt List.map_eq_nil_iff.1 hne) (List.forall_mem_map.2 h)
  rw [hnames] at hjoin
  rw [splitCommas, hjoin, hnames]

end JavaLint.Text
