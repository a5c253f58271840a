import Mathlib.Algebra.Group.Nat.Defs
import RegisterFile.Word

/-!
Words that use only their lowest bits.
-/

namespace RegisterFile.Word

theorem getLsbD_zero (i : Nat) : (0 : Word).getLsbD i = false :=
  BitVec.getLsbD_zero

theorem zero_and (value : Word) : 0 &&& value = 0 :=
  BitVec.zero_and

/-- A value that uses only the lowest bits. -/
def FitsIn (value : Word) (width : Nat) : Prop :=
  ∀ i, width ≤ i → value.getLsbD i = false

theorem toNat_ofUInt64 (n : UInt64) : (BitVec.ofNat 128 n.toNat).toNat = n.toNat := by
  have hlt := n.toNat_lt
  rw [BitVec.toNat_ofNat, Nat.mod_eq_of_lt (by omega)]

theorem fitsIn_zero (width : Nat) : FitsIn 0 width :=
  fun i _ => getLsbD_zero i

theorem fitsIn_and_lowMask (value : Word) (width : Nat) :
    FitsIn (value &&& lowMask width) width := by
  intro i hi
  rw [BitVec.getLsbD_and, getLsbD_lowMask, decide_eq_false (Nat.not_lt.mpr hi), Bool.and_false,
    Bool.and_false]

theorem fitsIn_ofNat {n width : Nat} (hn : n < 2 ^ width) : FitsIn (BitVec.ofNat 128 n) width := by
  intro i hi
  have hbit := Nat.testBit_lt_two_pow (Nat.lt_of_lt_of_le hn (Nat.pow_le_pow_right (by decide) hi))
  rw [BitVec.getLsbD_ofNat, hbit, Bool.and_false]

variable {value other : Word} {width wider : Nat}

theorem FitsIn.mono (hvalue : FitsIn value width) (hle : width ≤ wider) : FitsIn value wider :=
  fun i hi => hvalue i (Nat.le_trans hle hi)

theorem FitsIn.and (hvalue : FitsIn value width) (other : Word) :
    FitsIn (value &&& other) width := by
  intro i hi
  rw [BitVec.getLsbD_and, hvalue i hi, Bool.false_and]

theorem FitsIn.or (hvalue : FitsIn value width) (hother : FitsIn other width) :
    FitsIn (value ||| other) width := by
  intro i hi
  rw [BitVec.getLsbD_or, hvalue i hi, hother i hi, Bool.or_self]

theorem FitsIn.toNat_lt (hvalue : FitsIn value width) : value.toNat < 2 ^ width :=
  Nat.lt_pow_two_of_testBit _ hvalue

/-- A value that is not zero has a bit set. -/
theorem ne_zero_iff : value ≠ 0 ↔ ∃ i, value.getLsbD i = true := by
  constructor
  · intro hne
    apply Classical.byContradiction
    intro hnone
    apply hne
    apply BitVec.eq_of_getLsbD_eq
    intro i hi
    rw [getLsbD_zero]
    exact Bool.eq_false_iff.mpr fun hbit => hnone ⟨i, hbit⟩
  · rintro ⟨i, hbit⟩ rfl
    rw [getLsbD_zero] at hbit
    cases hbit

/-- A value of one bit is told by that bit. -/
theorem FitsIn.ne_zero_iff (hvalue : FitsIn value 1) : value ≠ 0 ↔ value.getLsbD 0 = true := by
  rw [Word.ne_zero_iff]
  constructor
  · rintro ⟨i, hbit⟩
    cases i with
    | zero => exact hbit
    | succ i =>
      rw [hvalue (i + 1) (by omega)] at hbit
      cases hbit
  · exact fun hbit => ⟨0, hbit⟩

/-- Values of one width are equal if their bits below it are. -/
theorem FitsIn.ext (hvalue : FitsIn value width) (hother : FitsIn other width)
    (hbits : ∀ i, i < width → i < 128 → value.getLsbD i = other.getLsbD i) : value = other := by
  apply BitVec.eq_of_getLsbD_eq
  intro i hi
  by_cases hin : i < width
  · exact hbits i hin hi
  · rw [hvalue i (Nat.le_of_not_lt hin), hother i (Nat.le_of_not_lt hin)]

theorem FitsIn.and_lowMask (hvalue : FitsIn value width) : value &&& lowMask width = value := by
  apply (fitsIn_and_lowMask value width).ext hvalue
  intro i hi hword
  rw [BitVec.getLsbD_and, getLsbD_lowMask, decide_eq_true hword, decide_eq_true hi, Bool.and_true,
    Bool.and_true]

end RegisterFile.Word
