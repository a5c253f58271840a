import RegisterFile.Proofs.Arithmetic.Layout

/-!
Validation on machine numbers. The checks go through whatever a document declares, and none waits
for the verdict of another one, so the widths of fields and the reset values of registers are also
calculated for bit ranges that lie outside of every register. Two of these calculations can leave
their bounds: the width of the range of all bit numbers, and the place of a reset value whose field
starts behind the end of a word. Everything else stays within them.
-/

namespace RegisterFile

namespace Checked

/-- A calculation that a condition stops, and that has a result without it. -/
def stopIf {α : Type} (stops : Bool) (fault : Fault) (result : α) : Checked α :=
  if stops then throw fault else pure result

variable {α β : Type} {fault : Fault} {stops : α → Bool}

end Checked

open Checked

/-! ### Where a calculation can stop -/

/-- The range is that of all bit numbers. -/
def BitRange.isEverything (range : BitRange) : Bool :=
  range.width == bitLimit

namespace BitRange

variable {range : BitRange}

theorem width_le (range : BitRange) : range.width ≤ bitLimit := by
  have hhigh := range.high_lt
  simp only [width]
  omega

theorem widthM_eq_stopIf (range : BitRange) :
    range.widthM = stopIf range.isEverything .overflow range.width := by
  have hle := range.width_le
  have heverything : range.isEverything = true ↔ range.width = bitLimit := beq_iff_eq
  rw [widthM, sub_eq range.low_le_high, pure_bind, add, stopIf, width]
  rw [width] at hle heverything
  by_cases hwidth : range.high - range.low + 1 = bitLimit
  · rw [if_neg (by omega), if_pos (heverything.mpr hwidth)]
  · rw [if_pos (by omega), if_neg (mt heverything.mp hwidth)]

theorem widthM_eq_pure (hrange : range.isEverything = false) : range.widthM = pure range.width := by
  rw [widthM_eq_stopIf, hrange]
  rfl

theorem maskM_eq_pure (hrange : range.isEverything = false) : range.maskM = pure range.mask := by
  unfold maskM mask
  split
  · next hlow => rw [Word.placeAt, if_pos hlow]
  · next hlow =>
    rw [widthM_eq_pure hrange, pure_bind, Word.lowMaskM_eq, pure_bind,
      shiftLeft_eq (Nat.lt_of_not_le hlow)]

end BitRange

/-! ### The layout of what was declared -/

namespace Register

variable {register : Register} {field : Field}

end Register

namespace Layout

variable {config : Config} {register : Register}

end Layout

/-! ### The checks -/

namespace Validate

variable {config : Config}

end Validate

end RegisterFile
