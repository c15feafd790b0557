import JavaLint.Text.Blank
import Mathlib.Data.List.Basic
/-!
# Lexemes and what stands between them

## Main definitions

- `Text.IsTrimmed` — texts without blanks at their ends
- `Text.IsGap` — blanks and comments

## Main statements

- `Text.IsGap.exists_mem` — a gap that is not empty has a blank or a slash in it
-/

namespace JavaLint.Text

variable {cs ds : List Char}

/-- A text that is not empty and neither starts nor ends with a blank. -/
structure IsTrimmed (cs : List Char) : Prop where
  ne_nil : cs ≠ []
  head {c : Char} : cs.head? = some c → isBlank c = false
  getLast {c : Char} : cs.getLast? = some c → isBlank c = false

theorem IsTrimmed.stripChars_eq (h : IsTrimmed cs) : stripChars isBlank cs = cs :=
  stripChars_eq_self (fun _ => h.head) fun _ => h.getLast

theorem isTrimmed_of_all (hne : cs ≠ []) (h : (cs.all fun c => !isBlank c) = true) :
    IsTrimmed cs := by
  have hnone : ∀ c ∈ cs, isBlank c = false := by simpa using h
  exact ⟨hne, fun hc => hnone _ (List.mem_of_head? hc), fun hc => hnone _ (List.mem_of_getLast? hc)⟩

/-- What stands between two trimmed texts is not at the ends. -/
theorem IsTrimmed.append (h : IsTrimmed cs) (h' : IsTrimmed ds) (gap : List Char) :
    IsTrimmed (cs ++ gap ++ ds) where
  ne_nil := by simp [h.ne_nil]
  head {c} hc := by
    rw [List.append_assoc, List.head?_append_of_ne_nil _ h.ne_nil] at hc
    exact h.head hc
  getLast {c} hc := by
    rw [List.getLast?_append_of_ne_nil _ h'.ne_nil] at hc
    exact h'.getLast hc

/-- Blanks and comments. A comment after two slashes ends with its line, or with
    the text. -/
inductive IsGap : List Char → Prop
  | nil : IsGap []
  | blank {c : Char} {rest : List Char} : isBlank c = true → IsGap rest → IsGap (c :: rest)
  | lineComment {comment rest : List Char} : '\n' ∉ comment → IsGap rest →
      IsGap ('/' :: '/' :: comment ++ '\n' :: rest)
  | lastComment {comment : List Char} : '\n' ∉ comment → IsGap ('/' :: '/' :: comment)
  | blockComment {comment rest : List Char} : ¬ ['*', '/'] <:+: comment → IsGap rest →
      IsGap ('/' :: '*' :: comment ++ '*' :: '/' :: rest)

/-- A character that a gap has and a name with points has not. -/
def startsGap (c : Char) : Bool :=
  isBlank c || c == '/'

theorem IsGap.exists_mem (h : IsGap cs) (hne : cs ≠ []) : ∃ c ∈ cs, startsGap c = true := by
  cases h with
  | nil => exact absurd rfl hne
  | @blank c _ hc _ => exact ⟨c, List.mem_cons_self, by simp [startsGap, hc]⟩
  | lineComment | lastComment | blockComment => exact ⟨'/', List.mem_cons_self, by decide⟩

end JavaLint.Text
