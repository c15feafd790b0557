import Mathlib
import JavaLint.Naming.Pattern
import JavaLint.Proofs.Regex.Semantics
import JavaLint.Proofs.Regex.Wrapping
/-!
# Name patterns and the language of their source

A name pattern is made from the text of its source, which is put between `^(?:`
and `)$`. This file says for which sources the pattern accepts exactly the
names in the language of the source.

## Main definitions

- `NamePattern.IsFaithful` — a pattern stands for the language of its source
- `NamePattern.HasRoom` — the wrapper fits into the limits on expressions
- `NamePattern.BreaksOut` — a source that ends the group of the wrapper

## Main statements

- `NamePattern.isFaithful_iff` — the sources whose patterns are faithful
- `NamePattern.not_isFaithful_loneParenthesis` — a source that is no expression
  but makes a pattern
-/

namespace JavaLint

namespace Regex

variable {text : String} {r : Regex}

theorem compile_eq_ok_iff :
    compile text = .ok r ↔ ∃ ast flags, Ast.Reads text ast ∧ ast.depth ≤ nestLimit ∧
      ofAst {} ast = .ok (r, flags) ∧ r.compiledSize ≤ sizeLimit := by
  unfold compile
  constructor
  · intro h
    rcases hparse : Ast.parse text with e | ast
    · rw [hparse] at h
      cases h
    rcases hmeaning : ofAst {} ast with e | ⟨r', flags⟩
    · rw [hparse] at h
      simp only [bind, Except.bind, hmeaning] at h
      cases h
    rw [hparse] at h
    simp only [bind, Except.bind, hmeaning] at h
    split at h
    · cases h
    · next hsize =>
      obtain rfl : r' = r := Except.ok.inj h
      obtain ⟨hreads, hdepth⟩ := Ast.parse_eq_ok_iff.1 hparse
      exact ⟨ast, flags, hreads, hdepth, hmeaning, Nat.not_lt.1 hsize⟩
  · rintro ⟨ast, flags, hreads, hdepth, hmeaning, hsize⟩
    rw [Ast.parse_eq_ok_iff.2 ⟨hreads, hdepth⟩]
    simp only [bind, Except.bind, hmeaning, if_neg (Nat.not_lt.2 hsize)]
    rfl

/-- The expression between the ends of the text. -/
def anchored (r : Regex) : Regex :=
  .concat (.look .textStart) (.concat r (.look .textEnd))

theorem anchored_compiledSize (r : Regex) : r.anchored.compiledSize = r.compiledSize + 64 := by
  simp only [anchored, compiledSize]
  omega

theorem Ast.anchored_depth (ast : Ast) : ast.anchored.depth = ast.depth + 2 := by
  simp [Ast.anchored, Ast.depth, Ast.depths]

theorem ofAst_anchored_eq_ok_iff {ast : Ast} {flags : Flags} :
    ofAst {} ast.anchored = .ok (r, flags) ↔
      flags = {} ∧ ∃ inner after, ofAst {} ast = .ok (inner, after) ∧ r = inner.anchored := by
  have hmeaning : ofAst {} ast.anchored =
      (ofAst {} ast).map fun meaning => (meaning.1.anchored, {}) := by
    simp only [Ast.anchored, ofAst, ofAsts, bind, Except.bind, pure, Except.pure]
    rw [show Flags.update {} [] = {} from rfl]
    rcases ofAst {} ast with e | ⟨inner, after⟩ <;> rfl
  rw [hmeaning]
  rcases ofAst {} ast with e | ⟨inner, after⟩
  · constructor
    · intro h
      cases h
    · rintro ⟨-, _, _, h, -⟩
      cases h
  · constructor
    · intro h
      obtain ⟨rfl, rfl⟩ := Prod.mk.inj (Except.ok.inj h)
      exact ⟨rfl, inner, after, rfl, rfl⟩
    · rintro ⟨rfl, _, _, h, rfl⟩
      obtain ⟨rfl, rfl⟩ := Prod.mk.inj (Except.ok.inj h)
      rfl

end Regex

namespace NamePattern

variable {source : String}

/-- A pattern can be made of the source if and only if the source is a regular
    expression, and the pattern then accepts the names that match it as a whole. -/
def IsFaithful (source : String) : Prop :=
  ((∃ p, ofSource source = .ok p) ↔ ∃ r, Regex.compile source = .ok r) ∧
    ∀ p r, ofSource source = .ok p → Regex.compile source = .ok r →
      ∀ name, p.accepts name = true ↔ r.MatchesWhole name

/-- The group and the ends of the text fit into the limits on expressions. -/
def HasRoom (source : String) : Prop :=
  (∀ ast, Regex.Ast.parse source = .ok ast → ast.depth + 2 ≤ Regex.nestLimit) ∧
    ∀ r, Regex.compile source = .ok r → r.compiledSize + 64 ≤ Regex.sizeLimit

/-- A pattern can be made of the source although a parenthesis in it ends the
    group of the wrapper. -/
def BreaksOut (source : String) : Prop :=
  Regex.HasLoneParenthesis source ∧ ∃ p, ofSource source = .ok p

theorem ofSource_eq_ok_iff {p : NamePattern} :
    ofSource source = .ok p ↔
      ∃ r, Regex.compile (Regex.wrapped source) = .ok r ∧ p = ⟨source, r⟩ := by
  have hwrapped : anchored source = Regex.wrapped source := rfl
  unfold ofSource
  rw [hwrapped]
  rcases Regex.compile (Regex.wrapped source) with e | r
  · constructor
    · intro h
      cases h
    · rintro ⟨_, h, -⟩
      cases h
  · constructor
    · intro h
      exact ⟨r, rfl, (Except.ok.inj h).symm⟩
    · rintro ⟨_, h, rfl⟩
      rw [Except.ok.inj h]

/-- Of an expression, a pattern can be made if it does not end in a comment and
    has room for the wrapper. -/
theorem ofSource_iff_of_compile {r : Regex} {p : NamePattern}
    (h : Regex.compile source = .ok r) :
    ofSource source = .ok p ↔
      (¬Regex.EndsInComment source ∧ HasRoom source) ∧ p = ⟨source, r.anchored⟩ := by
  obtain ⟨ast, flags, hreads, hdepth, hmeaning, hsize⟩ := Regex.compile_eq_ok_iff.1 h
  rw [ofSource_eq_ok_iff]
  simp only [Regex.compile_eq_ok_iff, Regex.reads_wrapped_iff_of_reads hreads]
  constructor
  · rintro ⟨r', ⟨_, flags', ⟨hcomment, rfl⟩, hdepth', hmeaning', hsize'⟩, rfl⟩
    obtain ⟨rfl, inner, after, hinner, rfl⟩ := Regex.ofAst_anchored_eq_ok_iff.1 hmeaning'
    obtain ⟨rfl, rfl⟩ := Prod.mk.inj (Except.ok.inj (hmeaning.symm.trans hinner))
    rw [Regex.Ast.anchored_depth] at hdepth'
    rw [Regex.anchored_compiledSize] at hsize'
    refine ⟨⟨hcomment, fun other hother => ?_, fun other hother => ?_⟩, rfl⟩
    · rwa [(Regex.Ast.parse_eq_ok_iff.1 hother).1.unique hreads]
    · rwa [Except.ok.inj (hother.symm.trans h)]
  · rintro ⟨⟨hcomment, hroom, hroom'⟩, rfl⟩
    refine ⟨_, ⟨ast.anchored, {}, ⟨hcomment, rfl⟩, ?_, ?_, ?_⟩, rfl⟩
    · rw [Regex.Ast.anchored_depth]
      exact hroom ast (Regex.Ast.parse_eq_ok_iff.2 ⟨hreads, hdepth⟩)
    · exact Regex.ofAst_anchored_eq_ok_iff.2 ⟨rfl, r, flags, hmeaning, rfl⟩
    · rw [Regex.anchored_compiledSize]
      exact hroom' r h

/-- A source that makes a pattern is an expression, or has a parenthesis that
    ends the group of the wrapper. -/
theorem compile_or_hasLoneParenthesis {p : NamePattern} (h : ofSource source = .ok p) :
    (∃ r, Regex.compile source = .ok r) ∨ Regex.HasLoneParenthesis source := by
  obtain ⟨r, hr, -⟩ := ofSource_eq_ok_iff.1 h
  obtain ⟨ast, flags, hwrapped, hdepth, hmeaning, hsize⟩ := Regex.compile_eq_ok_iff.1 hr
  by_cases halone : ∃ inner, Regex.Ast.Reads source inner
  · obtain ⟨inner, hinner⟩ := halone
    obtain ⟨-, rfl⟩ := (Regex.reads_wrapped_iff_of_reads hinner).1 hwrapped
    obtain ⟨rfl, r', after, hmeaning', rfl⟩ := Regex.ofAst_anchored_eq_ok_iff.1 hmeaning
    rw [Regex.Ast.anchored_depth] at hdepth
    rw [Regex.anchored_compiledSize] at hsize
    refine .inl ⟨r', Regex.compile_eq_ok_iff.2 ⟨inner, after, hinner, ?_, hmeaning', ?_⟩⟩
    · exact (Nat.le_add_right _ 2).trans hdepth
    · exact (Nat.le_add_right _ 64).trans hsize
  · exact .inr (Regex.hasLoneParenthesis_of_reads_wrapped hwrapped
      fun inner hinner => halone ⟨inner, hinner⟩)

theorem accepts_anchored_iff (r : Regex) (name : String) :
    accepts ⟨source, r.anchored⟩ name = true ↔ r.MatchesWhole name :=
  r.isMatch_anchored_iff name

/-- A pattern is faithful to its source unless the source breaks out of the
    wrapper, or is an expression that ends in a comment or has no room for it. -/
theorem isFaithful_iff (source : String) :
    IsFaithful source ↔ ¬BreaksOut source ∧
      ((∃ r, Regex.compile source = .ok r) → ¬Regex.EndsInComment source ∧ HasRoom source) := by
  constructor
  · rintro ⟨hmake, -⟩
    refine ⟨fun ⟨hlone, hmade⟩ => ?_, fun ⟨r, hr⟩ => ?_⟩
    · obtain ⟨r, hr⟩ := hmake.1 hmade
      obtain ⟨ast, -, hreads, -⟩ := Regex.compile_eq_ok_iff.1 hr
      exact Regex.not_reads_of_hasLoneParenthesis hlone hreads
    · obtain ⟨p, hp⟩ := hmake.2 ⟨r, hr⟩
      exact ((ofSource_iff_of_compile hr).1 hp).1
  · rintro ⟨hkept, hroom⟩
    refine ⟨⟨fun ⟨p, hp⟩ => ?_, fun ⟨r, hr⟩ => ?_⟩, fun p r hp hr name => ?_⟩
    · rcases compile_or_hasLoneParenthesis hp with hr | hlone
      · exact hr
      · exact absurd ⟨hlone, p, hp⟩ hkept
    · exact ⟨_, (ofSource_iff_of_compile hr).2 ⟨hroom ⟨r, hr⟩, rfl⟩⟩
    · obtain ⟨-, rfl⟩ := (ofSource_iff_of_compile hr).1 hp
      exact accepts_anchored_iff r name

/-- The first alternative ends the group, so that a prefix of a name is enough. -/
theorem not_isFaithful_loneParenthesis : ¬IsFaithful "a)|(?:b" := by
  rintro ⟨hmake, -⟩
  have hsource : Regex.compile "a)|(?:b" = .error .groupUnopened := by cbv
  have hwrapped : ∃ r, Regex.compile (Regex.wrapped "a)|(?:b") = .ok r := ⟨_, by cbv⟩
  obtain ⟨r, hr⟩ := hwrapped
  obtain ⟨r', hr'⟩ := hmake.1 ⟨_, ofSource_eq_ok_iff.2 ⟨r, hr, rfl⟩⟩
  rw [hsource] at hr'
  cases hr'

end NamePattern

end JavaLint
