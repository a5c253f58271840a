import Mathlib
import RegisterFile.Proofs.Layout

/-!
Reset values. A register folds the reset values of its fields into its own, one after the other,
and a field without one takes the bits of its register. As fields share no bit, each field finds
its reset value in that of the register.
-/

namespace RegisterFile

namespace Register

variable {fields : List Field} {field : Field} {value : Word} {i : Nat}

/-- The reset value of a field goes to the bits of the field alone. -/
theorem getLsbD_foldReset_of_notMem (hkept : field.resetValue.isSome = true → i ∉ field.bits) :
    (foldReset value field).getLsbD i = value.getLsbD i := by
  unfold foldReset
  split
  · next reset hreset =>
    have hout := hkept (by rw [hreset, Option.isSome_some])
    have hmask : field.bits.mask.getLsbD i = false := by
      by_cases hi : i < 128
      · exact Bool.eq_false_iff.mpr (mt (BitRange.getLsbD_mask_iff hi).mp hout)
      · exact BitVec.getLsbD_of_ge _ i (Nat.le_of_not_lt hi)
    rw [Word.getLsbD_overlay, hmask, if_neg Bool.false_ne_true]
  · rfl

/-- On its own bits a field has its reset value, or leaves them as they are. -/
theorem getLsbD_foldReset_of_mem (hhigh : field.bits.high < 128) (hi : i ∈ field.bits) :
    (foldReset value field).getLsbD i =
      match field.resetValue with
      | some reset => reset.getLsbD (i - field.bits.low)
      | none => value.getLsbD i := by
  rw [foldReset]
  cases field.resetValue with
  | some reset =>
    obtain ⟨hlow, hle⟩ := BitRange.mem_iff.mp hi
    have hword : i < 128 := by omega
    rw [Word.getLsbD_overlay, (BitRange.getLsbD_mask_iff hword).mpr hi, if_pos rfl,
      Word.getLsbD_placeAt, decide_eq_true hword, decide_eq_true hlow, Bool.true_and, Bool.true_and]
  | none => rfl

theorem getLsbD_foldl_of_forall
    (hkept : ∀ field ∈ fields, field.resetValue.isSome = true → i ∉ field.bits) :
    (fields.foldl foldReset value).getLsbD i = value.getLsbD i := by
  induction fields generalizing value with
  | nil => rfl
  | cons field rest ih =>
    obtain ⟨hfield, hrest⟩ := List.forall_mem_cons.mp hkept
    rw [List.foldl_cons, ih hrest, getLsbD_foldReset_of_notMem hfield]

/-- No other field reaches a bit of a field, in front of it or behind. -/
theorem getLsbD_foldl_of_mem (hapart : fields.Pairwise fun a b => a.bits.Apart b.bits)
    (hfield : field ∈ fields) (hhigh : field.bits.high < 128) (hi : i ∈ field.bits) :
    (fields.foldl foldReset value).getLsbD i =
      match field.resetValue with
      | some reset => reset.getLsbD (i - field.bits.low)
      | none => value.getLsbD i := by
  obtain ⟨front, back, rfl⟩ := List.append_of_mem hfield
  obtain ⟨-, hback, hfront⟩ := List.pairwise_append.mp hapart
  have hbefore : ∀ other ∈ front, other.resetValue.isSome = true → i ∉ other.bits :=
    fun other hother _ hmem => hfront other hother field List.mem_cons_self i ⟨hmem, hi⟩
  have hbehind : ∀ other ∈ back, other.resetValue.isSome = true → i ∉ other.bits :=
    fun other hother _ hmem => (List.pairwise_cons.mp hback).1 other hother i ⟨hi, hmem⟩
  rw [List.foldl_append, List.foldl_cons, getLsbD_foldl_of_forall hbehind,
    getLsbD_foldReset_of_mem hhigh hi, getLsbD_foldl_of_forall hbefore]

end Register

namespace Field

variable {field : Field} {register : Register} {i : Nat}

theorem getLsbD_resetIn (hhigh : field.bits.high < 128) :
    (field.resetIn register).getLsbD i =
      (decide (i < field.bits.width) &&
        match field.resetValue with
        | some reset => reset.getLsbD i
        | none => register.resetValue.getLsbD (field.bits.low + i)) := by
  have hend := field.bits.low_add_width
  rw [resetIn]
  cases field.resetValue with
  | some reset =>
    rw [BitVec.getLsbD_and, Word.getLsbD_lowMask, Bool.and_comm]
    by_cases hi : i < field.bits.width
    · rw [decide_eq_true hi, decide_eq_true (show i < 128 by omega), Bool.true_and]
    · rw [decide_eq_false hi, Bool.and_false]
  | none =>
    rw [Word.getLsbD_takeFrom, BitVec.getLsbD_and, BitRange.getLsbD_mask, Bool.and_comm]
    congr 1
    rw [Bool.eq_iff_iff]
    simp only [Bool.and_eq_true, decide_eq_true_eq]
    omega

end Field

/-- The bits of a field in the reset value of its register are the reset value of the field. A bit
    that no field sets a reset value for is the register's own, and there is none past its width. -/
theorem resetAt_agrees (register : Register) (width : Nat) (hwidth : width ≤ 128)
    (hinside : ∀ field ∈ register.fields, field.bits.Inside width)
    (hapart : register.fields.Pairwise fun a b => a.bits.Apart b.bits) :
    (∀ field ∈ register.fields,
      (register.resetAt width).takeFrom field.bits.low &&& Word.lowMask field.bits.width =
        field.resetIn register) ∧
      ∀ i, (∀ field ∈ register.fields, field.resetValue.isSome = true → i ∉ field.bits) →
        (register.resetAt width).getLsbD i =
          (decide (i < width) && register.resetValue.getLsbD i) := by
  have hbit : ∀ i, (register.resetAt width).getLsbD i =
      (decide (i < width) &&
        (register.fields.foldl Register.foldReset register.resetValue).getLsbD i) := by
    intro i
    rw [Register.resetAt, BitVec.getLsbD_and, Word.getLsbD_lowMask, Bool.and_comm]
    by_cases hi : i < width
    · rw [decide_eq_true hi, decide_eq_true (show i < 128 by omega), Bool.true_and]
    · rw [decide_eq_false hi, Bool.and_false]
  refine ⟨fun field hfield => ?_, fun i hkept => ?_⟩
  · have hhigh := (hinside field hfield).high_lt
    have hend := field.bits.low_add_width
    apply BitVec.eq_of_getLsbD_eq
    intro i hword
    rw [BitVec.getLsbD_and, Word.getLsbD_takeFrom, Word.getLsbD_lowMask, decide_eq_true hword,
      Bool.true_and, Field.getLsbD_resetIn (by omega), Bool.and_comm]
    by_cases hi : i < field.bits.width
    · have hmem : field.bits.low + i ∈ field.bits := BitRange.mem_iff.mpr ⟨by omega, by omega⟩
      rw [hbit, decide_eq_true (show field.bits.low + i < width by omega), Bool.true_and,
        Register.getLsbD_foldl_of_mem hapart hfield (by omega) hmem, Nat.add_sub_cancel_left]
    · rw [decide_eq_false hi, Bool.false_and, Bool.false_and]
  · rw [hbit, Register.getLsbD_foldl_of_forall hkept]

/-- A register with a field whose reset value has more bits than it, and a field that has none. -/
def Register.oversized : Register where
  name := "MODE"
  resetValue := 0xFFABCD
  fields := [
    { name := "SPEED", bits := ⟨5, 2, by decide, by decide⟩, resetValue := some 0x12 },
    { name := "DELAY", bits := ⟨19, 8, by decide, by decide⟩ }]

/-- The oversized value is cut to its field, and the other field keeps the bits of the register. -/
theorem resetAt_agrees_oversized :
    (∀ field ∈ Register.oversized.fields, field.bits.Inside 20) ∧
      (Register.oversized.fields.Pairwise fun a b => a.bits.Apart b.bits) ∧
      Register.oversized.resetAt 20 = 0xFABC9 ∧
      (Register.oversized.fields.map fun field => field.resetIn .oversized) = [0x2, 0xFAB] ∧
      (∀ field ∈ Register.oversized.fields,
        (Register.oversized.resetAt 20).takeFrom field.bits.low &&&
          Word.lowMask field.bits.width = field.resetIn .oversized) := by
  have hinside : ∀ field ∈ Register.oversized.fields, field.bits.Inside 20 := by
    simp only [Register.oversized, List.forall_mem_cons, BitRange.Inside, BitRange.mem_iff]
    refine ⟨fun i hi => by omega, fun i hi => by omega, by simp⟩
  have hapart : Register.oversized.fields.Pairwise fun a b => a.bits.Apart b.bits := by
    simp only [Register.oversized, List.pairwise_cons, BitRange.Apart, BitRange.mem_iff,
      List.forall_mem_cons]
    refine ⟨⟨fun i hi => by omega, by simp⟩, by simp, List.Pairwise.nil⟩
  exact ⟨hinside, hapart, by decide, by decide,
    (resetAt_agrees .oversized 20 (by decide) hinside hapart).1⟩

end RegisterFile
