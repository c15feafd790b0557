import JavaLint.Java.Extraction
import JavaLint.Proofs.Java.Cst
import JavaLint.Proofs.StableSort
import JavaLint.Proofs.Text.LineIndex
/-!
# Places in a text

A place has an offset, and a position with a line and a column. Among the places
of characters these go together: what is further on has a larger position.

## Main definitions

- `Java.positionOf` — the position of a byte
- `Java.Cst.StartsAtCharacters` — what is assumed of the concrete syntax tree of a text
- `Violation.IsPlaced` — a violation has the position of its offset

## Main statements

- `Java.positionOf_eq_iff` — places with one position have one offset
- `Violation.IsPlaced.comparePosition_isLE_iff` — violations are in the order of their offsets
-/

namespace JavaLint

namespace Java

variable {source : String} {tabWidth i j : Nat}

/-- Every node of a concrete syntax tree starts at a character of the text. -/
def Cst.StartsAtCharacters (program : Cst) (source : String) : Prop :=
  ∀ c : Cst, c.Within program → (String.Pos.Raw.mk c.start).IsValid source

/-- The position of a byte, with columns for a tab width. -/
def positionOf (source : String) (tabWidth offset : Nat) : Position :=
  (Source.ofText source tabWidth.toUInt64).position offset

/-- Lines do not depend on the tab width. -/
theorem line_positionOf (source : String) (tabWidth tabWidth' offset : Nat) :
    (positionOf source tabWidth offset).line = (positionOf source tabWidth' offset).line := by
  have hline : ∀ tabWidth : Nat, (positionOf source tabWidth offset).line =
      1 + (source.toUTF8.extract 0 offset).data.count 10 := by
    intro tabWidth
    rw [← Text.LineIndex.line_ofSource source tabWidth.toUInt64]
    unfold positionOf Source.position Text.LineIndex.position
    dsimp only
    split <;> rfl
  rw [hline, hline]

/-- A text starts in the first column of the first line. -/
theorem positionOf_zero (source : String) (tabWidth : Nat) : positionOf source tabWidth 0 = ⟨1, 1⟩ := by
  have hstart := Text.LineIndex.position_ofSource (List.nil_append source.toList).symm
    tabWidth.toUInt64
  unfold positionOf Source.position Source.ofText
  rw [Text.byteLength_nil] at hstart
  rw [hstart]
  rfl

/-- Positions are in the order of the offsets. -/
theorem positionOf_le_iff (hi : (String.Pos.Raw.mk i).IsValid source)
    (hj : (String.Pos.Raw.mk j).IsValid source)
    (hfit : Text.ColumnsFit (Text.tabSpan tabWidth) source.toList) :
    (positionOf source tabWidth i).line < (positionOf source tabWidth j).line ∨
        (positionOf source tabWidth i).line = (positionOf source tabWidth j).line ∧
          (positionOf source tabWidth i).column ≤ (positionOf source tabWidth j).column ↔
      i ≤ j :=
  Text.LineIndex.position_le_iff hi hj hfit

/-- Places with one position have one offset. -/
theorem positionOf_eq_iff (hi : (String.Pos.Raw.mk i).IsValid source)
    (hj : (String.Pos.Raw.mk j).IsValid source)
    (hfit : Text.ColumnsFit (Text.tabSpan tabWidth) source.toList) :
    positionOf source tabWidth i = positionOf source tabWidth j ↔ i = j := by
  refine ⟨fun h => ?_, congrArg _⟩
  refine Nat.le_antisymm ((positionOf_le_iff hi hj hfit).1 ?_) ((positionOf_le_iff hj hi hfit).1 ?_)
  · exact .inr ⟨by rw [h], by rw [h]⟩
  · exact .inr ⟨by rw [h], by rw [h]⟩

end Java

namespace Violation

variable {source : String} {tabWidth : Nat} {v w : Violation}

/-- A violation has the position of its offset, which is the start of a character. -/
structure IsPlaced (v : Violation) (source : String) (tabWidth : Nat) : Prop where
  isValid : (String.Pos.Raw.mk v.location.offset).IsValid source
  position_eq : v.position = Java.positionOf source tabWidth v.location.offset

/-- Violations are in the order of their offsets. -/
theorem IsPlaced.comparePosition_isLE_iff (hv : v.IsPlaced source tabWidth)
    (hw : w.IsPlaced source tabWidth)
    (hfit : Text.ColumnsFit (Text.tabSpan tabWidth) source.toList) :
    (v.comparePosition w).isLE = true ↔ v.location.offset ≤ w.location.offset := by
  obtain ⟨hvline, hvcolumn⟩ := Position.mk.inj hv.position_eq
  obtain ⟨hwline, hwcolumn⟩ := Position.mk.inj hw.position_eq
  rw [Violation.comparePosition_isLE_iff, hvline, hvcolumn, hwline, hwcolumn]
  exact Java.positionOf_le_iff hv.isValid hw.isValid hfit

end Violation

end JavaLint
