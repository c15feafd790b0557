import JavaLint.Message
import JavaLint.Proofs.Text.Split
/-!
# Rendering as substitution

A template is read once, and what is written is not looked at again. Rendering
therefore is a substitution of all placeholders at the same time: where the
placeholders of a template are depends on the template and on the number of the
arguments, not on what the arguments say.

## Main definitions

- `Message.Piece` — a part of a template: a character or a placeholder
- `Message.Splits` — the pieces of a template, each brace opening a placeholder where it can
- `Message.Piece.fill` — what is written for a piece, given the arguments

## Main statements

- `Message.exists_splits`, `Message.Splits.unique` — a template has pieces, and only one way
- `Message.renderRest_of_splits` — rendering writes what the pieces stand for
- `Message.renderTemplate_substitutes` — rendering is simultaneous substitution
-/

namespace JavaLint.Message

open Text (span_of_notMem eq_of_append_mark_eq exists_of_dropWhile_eq_cons)

variable {count : Nat}

/-! ## Pieces of a template -/

/-- A part of a template for a number of arguments. -/
inductive Piece (count : Nat) where
  /-- A character that stands for itself. -/
  | literal (c : Char)
  /-- A placeholder for an argument, whose braces enclose `source`. -/
  | argument (index : Fin count) (source : List Char)

/-- The template text that a piece was read from. -/
def Piece.source : Piece count → List Char
  | .literal c => [c]
  | .argument _ source => openBrace :: (source ++ [closeBrace])

/-- What is written for a piece: a character as it is, a placeholder as its argument. -/
def Piece.fill (args : Vector String count) : Piece count → List Char
  | .literal c => [c]
  | .argument index _ => args[index].toList

variable {cs source rest after out : List Char} {c : Char} {arg : String}

/-- The text between a brace and the next closing one asks for an argument. -/
structure AsksFor (source : List Char) (index : Fin count) : Prop where
  closeBrace_notMem : closeBrace ∉ source
  index?_eq : index? source = some index.val

/-- The text starts with a placeholder. -/
def OpensPlaceholder (count : Nat) (cs : List Char) : Prop :=
  ∃ (index : Fin count) (source rest : List Char),
    cs = openBrace :: (source ++ closeBrace :: rest) ∧ AsksFor source index

/-- `Splits cs pieces`: from left to right, the text consists of the pieces, and a
    character stands for itself only where no placeholder starts. -/
inductive Splits : List Char → List (Piece count) → Prop
  | nil : Splits [] []
  | literal {c cs pieces} : ¬ OpensPlaceholder count (c :: cs) → Splits cs pieces →
      Splits (c :: cs) (.literal c :: pieces)
  | argument {index source rest pieces} : AsksFor source index → Splits rest pieces →
      Splits (openBrace :: (source ++ closeBrace :: rest)) (.argument index source :: pieces)

variable {pieces pieces' : List (Piece count)} {index : Fin count}

theorem Splits.flatMap_source (h : Splits cs pieces) : pieces.flatMap Piece.source = cs := by
  induction h with
  | nil => rfl
  | literal _ _ ih => rw [List.flatMap_cons, ih, Piece.source, List.singleton_append]
  | argument _ _ ih => rw [List.flatMap_cons, ih, Piece.source, List.cons_append, List.append_assoc,
      List.singleton_append]

theorem Splits.asksFor (h : Splits cs pieces) (hmem : .argument index source ∈ pieces) :
    AsksFor source index := by
  induction h with
  | nil => cases hmem
  | literal _ _ ih =>
    rcases List.mem_cons.1 hmem with hmem | hmem
    · cases hmem
    · exact ih hmem
  | argument hasks _ ih =>
    rcases List.mem_cons.1 hmem with hmem | hmem
    · cases hmem
      exact hasks
    · exact ih hmem

theorem exists_splits (count : Nat) (cs : List Char) :
    ∃ pieces : List (Piece count), Splits cs pieces := by
  match cs with
  | [] => exact ⟨[], .nil⟩
  | c :: cs =>
    by_cases hopens : OpensPlaceholder count (c :: cs)
    · obtain ⟨index, source, rest, heq, hasks⟩ := hopens
      have hlt : rest.length < (c :: cs).length := by
        rw [heq, List.length_cons, List.length_append, List.length_cons]
        omega
      obtain ⟨pieces, hpieces⟩ := exists_splits count rest
      exact ⟨.argument index source :: pieces, heq ▸ .argument hasks hpieces⟩
    · obtain ⟨pieces, hpieces⟩ := exists_splits count cs
      exact ⟨.literal c :: pieces, .literal hopens hpieces⟩
termination_by cs.length
decreasing_by
  · exact hlt
  · exact Nat.lt_succ_self cs.length

/-- Where a placeholder starts, it is the first piece. -/
theorem Splits.eq_argument_cons (h : Splits cs pieces)
    (heq : cs = openBrace :: (source ++ closeBrace :: rest)) (hasks : AsksFor source index) :
    ∃ pieces', pieces = .argument index source :: pieces' ∧ Splits rest pieces' := by
  cases h with
  | nil => cases heq
  | literal hopens _ => exact absurd ⟨index, source, rest, heq, hasks⟩ hopens
  | @argument index' source' rest' pieces' hasks' hpieces =>
    -- the closing brace is the first one on both sides
    obtain ⟨rfl, rfl⟩ := eq_of_append_mark_eq hasks'.closeBrace_notMem hasks.closeBrace_notMem
      (List.cons.inj heq).2
    have hindex : index' = index :=
      Fin.ext (Option.some.inj (hasks'.index?_eq.symm.trans hasks.index?_eq))
    exact ⟨pieces', by rw [hindex], hpieces⟩

theorem Splits.unique (h : Splits cs pieces) (h' : Splits cs pieces') : pieces' = pieces := by
  induction h generalizing pieces' with
  | nil =>
    cases h'
    rfl
  | literal hopens _ ih =>
    generalize heq : _ :: _ = cs at h'
    cases h' with
    | nil => cases heq
    | literal _ hpieces =>
      obtain ⟨rfl, rfl⟩ := List.cons.inj heq
      rw [ih hpieces]
    | argument hasks _ => exact absurd ⟨_, _, _, heq, hasks⟩ hopens
  | argument hasks _ ih =>
    obtain ⟨pieces', rfl, hpieces⟩ := h'.eq_argument_cons rfl hasks
    rw [ih hpieces]

/-! ## Reading a template -/

variable {args : List String}

/-- An argument is put in place of a text up to the first closing brace that is its index. -/
theorem substitution?_eq_some_iff : substitution? args after = some (arg, rest) ↔
    ∃ source i, after = source ++ closeBrace :: rest ∧ closeBrace ∉ source ∧
      index? source = some i ∧ args[i]? = some arg := by
  unfold substitution?
  constructor
  · intro h
    split at h
    · cases h
    · next hdrop =>
      obtain ⟨arg', harg, heq⟩ := Option.map_eq_some_iff.1 h
      obtain ⟨rfl, rfl⟩ := Prod.mk.inj heq
      obtain ⟨i, hi, harg⟩ := Option.bind_eq_some_iff.1 harg
      obtain ⟨hnot, hafter⟩ := exists_of_dropWhile_eq_cons hdrop
      exact ⟨_, i, hafter, hnot, hi, harg⟩
  · rintro ⟨source, i, rfl, hnot, hi, harg⟩
    obtain ⟨htake, hdrop⟩ := span_of_notMem hnot rest
    rw [hdrop, htake]
    simp [hi, harg]

/-- Rendering goes on behind the next opening brace or the placeholder that it opens. -/
theorem renderRest_eq (args : List String) (out rest : List Char) :
    renderRest args out rest =
      match rest.dropWhile (· != openBrace) with
      | [] => out ++ rest
      | _ :: after =>
        match substitution? args after with
        | some (arg, behind) =>
          renderRest args (out ++ rest.takeWhile (· != openBrace) ++ arg.toList) behind
        | none => renderRest args (out ++ rest.takeWhile (· != openBrace) ++ [openBrace]) after := by
  rw [renderRest]
  split
  · next h => rw [h]
  · next h =>
    rw [h]
    dsimp only
    split
    · next hsubst => rw [hsubst]
    · next hsubst => rw [hsubst]

theorem renderRest_nil (args : List String) (out : List Char) : renderRest args out [] = out := by
  rw [renderRest_eq]
  exact List.append_nil out

theorem renderRest_literal (hc : c ≠ openBrace) (args : List String) (out cs : List Char) :
    renderRest args out (c :: cs) = renderRest args (out ++ [c]) cs := by
  have hpos : (c != openBrace) = true := bne_iff_ne.2 hc
  have hdrop : (c :: cs).dropWhile (· != openBrace) = cs.dropWhile (· != openBrace) :=
    List.dropWhile_cons_of_pos hpos
  have htake : (c :: cs).takeWhile (· != openBrace) = c :: cs.takeWhile (· != openBrace) :=
    List.takeWhile_cons_of_pos hpos
  rw [renderRest_eq, renderRest_eq args (out ++ [c]), hdrop, htake]
  simp only [List.append_assoc, List.cons_append, List.nil_append]

theorem renderRest_brace (args : List String) (out after : List Char) :
    renderRest args out (openBrace :: after) =
      match substitution? args after with
      | some (arg, behind) => renderRest args (out ++ arg.toList) behind
      | none => renderRest args (out ++ [openBrace]) after := by
  obtain ⟨htake, hdrop⟩ := span_of_notMem (List.not_mem_nil (a := openBrace)) after
  rw [List.nil_append] at htake hdrop
  rw [renderRest_eq, hdrop, htake, List.append_nil]

/-- Rendering writes what the pieces of a template stand for. -/
theorem renderRest_of_splits (h : Splits cs pieces) (args : Vector String count)
    (out : List Char) :
    renderRest args.toList out cs = out ++ pieces.flatMap (Piece.fill args) := by
  induction h generalizing out with
  | nil => rw [renderRest_nil, List.flatMap_nil, List.append_nil]
  | @literal c cs pieces hopens _ ih =>
    have hstep : renderRest args.toList out (c :: cs) = renderRest args.toList (out ++ [c]) cs := by
      by_cases hc : c = openBrace
      · subst hc
        have hnone : substitution? args.toList cs = none := by
          refine Option.eq_none_iff_forall_ne_some.2 ?_
          rintro ⟨arg, rest⟩ hsome
          -- an argument would be one of `count` many
          obtain ⟨source, i, rfl, hnot, hi, harg⟩ := substitution?_eq_some_iff.1 hsome
          have hlt : i < count := by
            have hlength := (List.getElem?_eq_some_iff.1 harg).1
            rwa [Vector.length_toList] at hlength
          exact hopens ⟨⟨i, hlt⟩, source, rest, rfl, hnot, hi⟩
        rw [renderRest_brace, hnone]
      · exact renderRest_literal hc args.toList out cs
    rw [hstep, ih, List.append_assoc]
    rfl
  | @argument index source rest pieces hasks _ ih =>
    have hsome : substitution? args.toList (source ++ closeBrace :: rest) =
        some (args[index], rest) :=
      substitution?_eq_some_iff.2 ⟨source, index, rfl, hasks.closeBrace_notMem, hasks.index?_eq,
        by simp⟩
    rw [renderRest_brace, hsome]
    dsimp only
    rw [ih, List.append_assoc]
    rfl

/-- Rendering is simultaneous substitution. For a number of arguments, a template
    has one division into characters and placeholders; whatever the arguments
    are, the characters are written as they are and each placeholder as its argument. -/
theorem renderTemplate_substitutes (template : String) (count : Nat) :
    ∃ pieces : List (Piece count), Splits template.toList pieces ∧
      (∀ pieces', Splits template.toList pieces' → pieces' = pieces) ∧
      pieces.flatMap Piece.source = template.toList ∧
      (∀ index source, .argument index source ∈ pieces → AsksFor source index) ∧
      ∀ args : Vector String count,
        renderTemplate template args.toList = String.ofList (pieces.flatMap (Piece.fill args)) ∧
          ∀ key, template? key = some template →
            render key args.toList = String.ofList (pieces.flatMap (Piece.fill args)) := by
  obtain ⟨pieces, hpieces⟩ := exists_splits count template.toList
  have hrender : ∀ args : Vector String count, renderTemplate template args.toList =
      String.ofList (pieces.flatMap (Piece.fill args)) := by
    intro args
    rw [renderTemplate, renderRest_of_splits hpieces, List.nil_append]
  refine ⟨pieces, hpieces, fun _ => hpieces.unique, hpieces.flatMap_source,
    fun _ _ => hpieces.asksFor, fun args => ⟨hrender args, fun key hkey => ?_⟩⟩
  rw [render, hkey]
  exact hrender args

end JavaLint.Message
