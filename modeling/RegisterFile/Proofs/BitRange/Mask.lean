import Mathlib
import RegisterFile.Proofs.Arithmetic.Validation

/-!
Bit ranges and their masks. Validation compares the ends of ranges, the model and the generators
work with masks, and the two agree on every range that ends inside a word: ranges meet where their
masks do, and a range lies within a width if its mask has no bit outside. A range that goes on
behind the word has the mask of its bits that are inside.
-/

namespace RegisterFile

/-- The number of bits that are set, counted one by one. -/
theorem Word.toNat_cpop (value : Word) :
    value.cpop.toNat = ((Finset.range 128).filter fun i => value.getLsbD i = true).card := by
  have hcount (n : Nat) : value.cpopNatRec n 0 =
      ((Finset.range n).filter fun i => value.getLsbD i = true).card := by
    induction n with
    | zero => rfl
    | succ n ih =>
      rw [BitVec.cpopNatRec_succ, BitVec.cpopNatRec_add, ih, Finset.range_add_one,
        Finset.filter_insert]
      have hnotMem : n ∉ (Finset.range n).filter fun i => value.getLsbD i = true := by simp
      cases hbit : value.getLsbD n with
      | true => rw [if_pos rfl, Finset.card_insert_of_notMem hnotMem, Bool.toNat_true]
      | false => rw [if_neg Bool.false_ne_true, Bool.toNat_false, Nat.add_zero]
  rw [BitVec.toNat_cpop, hcount]

namespace BitRange

open Checked

variable {a b range : BitRange} {width : Nat}

/-- As many bits of a mask are set as the range has. -/
theorem toNat_cpop_mask (hhigh : range.high < 128) : range.mask.cpop.toNat = range.width := by
  have hbits : ((Finset.range 128).filter fun i => range.mask.getLsbD i = true) =
      Finset.Icc range.low range.high := by
    ext i
    rw [Finset.mem_filter, Finset.mem_range, Finset.mem_Icc]
    refine ⟨fun ⟨hi, hbit⟩ => (getLsbD_mask_iff hi).mp hbit, fun hmem => ?_⟩
    have hi : i < 128 := by omega
    exact ⟨hi, (getLsbD_mask_iff hi).mpr hmem⟩
  have hle := range.low_le_high
  rw [Word.toNat_cpop, hbits, Nat.card_Icc, width]
  omega

/-- Ranges share a bit exactly if their masks do, as long as one of them ends inside a word. -/
theorem overlaps_iff_mask (ha : a.high < 128) :
    a.overlaps b = true ↔ a.mask &&& b.mask ≠ 0 := by
  rw [Validate.overlaps_iff, Word.ne_zero_iff]
  refine exists_congr fun i => ?_
  rw [BitVec.getLsbD_and, Bool.and_eq_true]
  constructor
  · rintro ⟨hia, hib⟩
    have hi : i < 128 := by
      have hle := (mem_iff.mp hia).2
      omega
    exact ⟨(getLsbD_mask_iff hi).mpr hia, (getLsbD_mask_iff hi).mpr hib⟩
  · rintro ⟨hia, hib⟩
    have hi : i < 128 := BitVec.lt_of_getLsbD hia
    exact ⟨(getLsbD_mask_iff hi).mp hia, (getLsbD_mask_iff hi).mp hib⟩

/-- A range lies within a width exactly if its mask does. -/
theorem fitsIn_iff_mask (hhigh : range.high < 128) :
    range.fitsIn width = true ↔ range.mask &&& ~~~ Word.lowMask width = 0 := by
  rw [Validate.fitsIn_iff, ← not_iff_not, ← ne_eq, Word.ne_zero_iff, not_forall]
  refine exists_congr fun i => ?_
  rw [BitVec.getLsbD_and, BitVec.getLsbD_not, Word.getLsbD_lowMask]
  constructor
  · intro houtside
    obtain ⟨hmem, hwidth⟩ := Classical.not_imp.mp houtside
    have hi : i < 128 := by
      have hle := (mem_iff.mp hmem).2
      omega
    simp [(getLsbD_mask_iff hi).mpr hmem, hi, hwidth]
  · intro hbits
    simp only [Bool.and_eq_true, decide_eq_true_eq, Bool.not_eq_true', Bool.and_eq_false_iff,
      decide_eq_false_iff_not] at hbits
    obtain ⟨hbit, hi, hwidth⟩ := hbits
    exact Classical.not_imp.mpr ⟨(getLsbD_mask_iff hi).mp hbit, by omega⟩

/-- On machine numbers the mask is calculated from the width, which for the range of all bit numbers
    has more than 32 bits. -/
theorem maskM_eq_stopIf (range : BitRange) :
    range.maskM = stopIf range.isEverything .overflow range.mask := by
  cases heverything : range.isEverything with
  | true =>
    have hwidth : range.width = bitLimit := beq_iff_eq.mp heverything
    have hlow : range.low = 0 := by
      have hsum := range.low_add_width
      have hhigh := range.high_lt
      omega
    rw [maskM, hlow, if_neg (by omega), widthM_eq_stopIf, heverything]
    rfl
  | false =>
    rw [maskM_eq_pure heverything]
    rfl

theorem maskM_eq_pure_iff : range.maskM = pure range.mask ↔ range.width < bitLimit := by
  have hle := range.width_le
  have heverything : range.isEverything = true ↔ range.width = bitLimit := beq_iff_eq
  rw [maskM_eq_stopIf]
  constructor
  · intro hmask
    by_contra hnot
    rw [heverything.mpr (by omega)] at hmask
    cases hmask
  · intro hlt
    rw [Bool.eq_false_iff.mpr (mt heverything.mp (by omega))]
    rfl

/-- What ranges say by their ends, masks say by their bits. For a range that ends inside a word the
    mask has the bits from its low to its high end, as many as its width; the range lies within a
    width if no bit of the mask lies outside, and it meets another one if the masks have a bit in
    common. For any range the mask has the bits that are inside a word, and it is calculated without
    an overflow if the width is a number of 32 bits. -/
theorem mask_coincides (a b : BitRange) :
    (a.high < 128 →
      (∀ i, a.mask.getLsbD i = true ↔ a.low ≤ i ∧ i ≤ a.high) ∧
        a.mask.cpop.toNat = a.width ∧
        (a.overlaps b = true ↔ a.mask &&& b.mask ≠ 0) ∧
        ∀ width, a.fitsIn width = true ↔ a.mask &&& ~~~ Word.lowMask width = 0) ∧
      (∀ i, a.mask.getLsbD i = true ↔ i < 128 ∧ i ∈ a) ∧
      (a.maskM = pure a.mask ↔ a.width < bitLimit) := by
  have hmask : ∀ i, a.mask.getLsbD i = true ↔ i < 128 ∧ i ∈ a := by
    intro i
    rw [getLsbD_mask, mem_iff, Bool.and_eq_true, Bool.and_eq_true, decide_eq_true_eq,
      decide_eq_true_eq, decide_eq_true_eq, and_assoc]
  refine ⟨fun hhigh => ⟨fun i => ?_, toNat_cpop_mask hhigh, overlaps_iff_mask hhigh, fun width =>
    fitsIn_iff_mask hhigh⟩, hmask, maskM_eq_pure_iff⟩
  rw [hmask, mem_iff]
  omega

/-- Bits in the upper part of a word. -/
def upper : BitRange :=
  ⟨120, 100, by decide, by decide⟩

/-- A range that goes on behind the end of a word. -/
def acrossEnd : BitRange :=
  ⟨300, 119, by decide, by decide⟩

theorem mask_coincides_upper :
    upper.high < 128 ∧ upper.mask.cpop.toNat = 21 ∧ upper.mask &&& acrossEnd.mask ≠ 0 ∧
      upper.mask &&& ~~~ Word.lowMask 120 ≠ 0 := by
  have hhigh : upper.high < 128 := by decide
  obtain ⟨-, hcount, hoverlaps, hfits⟩ := (mask_coincides upper acrossEnd).1 hhigh
  exact ⟨hhigh, hcount, hoverlaps.mp (by decide), (hfits 120).not.mp (by decide)⟩

end BitRange

end RegisterFile
