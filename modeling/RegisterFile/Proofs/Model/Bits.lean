import RegisterFile.Model
import RegisterFile.Proofs.Layout

/-!
Writes and reads bit by bit. A row of the catalogue is a function of two bits; the word operations
of the model apply it at every bit of their mask and leave the other bits alone.
-/

namespace RegisterFile

namespace WriteEffect

/-- A stored bit after an honoured write of the bit `data`. -/
def bit (effect : WriteEffect) (current data : Bool) : Bool :=
  match effect with
  | ignore => current
  | store => data
  | clearOnOne => current && !data
  | clearOnZero => current && data
  | setOnOne => current || data
  | setOnZero => current || !data
  | pulse _ => false

/-- The pulse of a bit at an honoured write of the bit `data`. -/
def pulseBit (effect : WriteEffect) (data : Bool) : Bool :=
  match effect with
  | pulse .high => data
  | pulse .low => !data
  | _ => false

theorem getLsbD_next (effect : WriteEffect) (current data mask : Word) (i : Nat) :
    (effect.next current data mask).getLsbD i =
      (effect.bit (current.getLsbD i) (data.getLsbD i) && mask.getLsbD i) := by
  by_cases hi : i < 128
  · cases effect <;> simp [next, bit, hi]
  · rw [BitVec.getLsbD_of_ge _ i (Nat.le_of_not_lt hi),
      BitVec.getLsbD_of_ge mask i (Nat.le_of_not_lt hi), Bool.and_false]

theorem getLsbD_pulsed (effect : WriteEffect) (data mask : Word) (i : Nat) :
    (effect.pulsed data mask).getLsbD i =
      (effect.pulseBit (data.getLsbD i) && mask.getLsbD i) := by
  by_cases hi : i < 128
  · cases effect with
    | pulse level => cases level <;> simp [pulsed, pulseBit, hi]
    | _ => simp [pulsed, pulseBit]
  · rw [BitVec.getLsbD_of_ge _ i (Nat.le_of_not_lt hi),
      BitVec.getLsbD_of_ge mask i (Nat.le_of_not_lt hi), Bool.and_false]

end WriteEffect

namespace RegisterLayout

theorem getLsbD_fullMask (register : RegisterLayout) (i : Nat) :
    register.fullMask.getLsbD i = (decide (i < 128) && decide (i < register.width.toNat)) :=
  Word.getLsbD_lowMask _ _

theorem fitsIn_fullMask (register : RegisterLayout) :
    register.fullMask.FitsIn register.width.toNat := by
  intro i hi
  rw [getLsbD_fullMask, decide_eq_false (Nat.not_lt.mpr hi), Bool.and_false]

end RegisterLayout

namespace Model

theorem getLsbD_foldl_or {α : Type} (items : List α) (word : α → Word) (start : Word) (i : Nat) :
    (items.foldl (fun mask item => mask ||| word item) start).getLsbD i =
      (start.getLsbD i || items.any fun item => (word item).getLsbD i) := by
  induction items generalizing start with
  | nil => simp
  | cons item rest ih =>
    rw [List.foldl_cons, ih, BitVec.getLsbD_or, List.any_cons, Bool.or_assoc]

/-- A strobe enables a bit of the data bus by its lane's bit. -/
theorem getLsbD_laneMask (model : Model) (strobe : Word) {i : Nat}
    (hbus : i < model.dataWidth.toNat) (hword : i < 128) :
    (model.laneMask strobe).getLsbD i = (!model.byteEnable || strobe.getLsbD (i / 8)) := by
  unfold laneMask
  cases hbyte : model.byteEnable with
  | false =>
    rw [if_neg Bool.false_ne_true, BitVec.getLsbD_allOnes, decide_eq_true hword, Bool.not_false,
      Bool.true_or]
  | true =>
    rw [if_pos rfl, getLsbD_foldl_or, Word.getLsbD_zero, Bool.false_or, Bool.not_true,
      Bool.false_or, Bool.eq_iff_iff, List.any_eq_true]
    constructor
    · rintro ⟨lane, hlane, hbit⟩
      simp only [Word.getLsbD_placeAt, Word.getLsbD_lowMask, Bool.and_eq_true,
        decide_eq_true_eq] at hbit
      obtain rfl : i / 8 = lane := by omega
      exact (List.mem_filter.mp hlane).2
    · intro hstrobe
      refine ⟨i / 8, List.mem_filter.mpr ⟨List.mem_range.mpr ?_, hstrobe⟩, ?_⟩
      · omega
      · simp only [Word.getLsbD_placeAt, Word.getLsbD_lowMask, Bool.and_eq_true,
          decide_eq_true_eq]
        omega

/-! ### One segment -/

theorem getLsbD_through_value (progress : Progress) (segment : Segment) (data mask : Word)
    (i : Nat) :
    (progress.through segment data mask).value.getLsbD i =
      if mask.getLsbD i then
        segment.writeEffect.bit (progress.value.getLsbD i) (data.getLsbD i)
      else progress.value.getLsbD i := by
  by_cases hi : i < 128
  · simp only [Progress.through, BitVec.getLsbD_or, BitVec.getLsbD_and, BitVec.getLsbD_not, hi,
      WriteEffect.getLsbD_next, Segment.writeEffect]
    cases mask.getLsbD i <;> simp
  · rw [BitVec.getLsbD_of_ge _ i (Nat.le_of_not_lt hi),
      BitVec.getLsbD_of_ge mask i (Nat.le_of_not_lt hi),
      BitVec.getLsbD_of_ge progress.value i (Nat.le_of_not_lt hi)]
    rfl

theorem getLsbD_through_pulse (progress : Progress) (segment : Segment) (data mask : Word)
    (i : Nat) :
    (progress.through segment data mask).pulse.getLsbD i =
      (progress.pulse.getLsbD i ||
        segment.writeEffect.pulseBit (data.getLsbD i) && mask.getLsbD i) := by
  rw [Progress.through, BitVec.getLsbD_or, WriteEffect.getLsbD_pulsed]

/-- A read clears or sets the bits of the segments that have such an effect. -/
theorem getLsbD_afterRead (register : RegisterLayout) (value : Word) (segment : Segment) {i : Nat}
    (hi : i < register.width.toNat) (hword : i < 128) :
    (afterRead register value segment).getLsbD i =
      if segment.bits.mask.getLsbD i then
        match segment.readEffect with
        | some .clear => false
        | some .set => true
        | none => value.getLsbD i
      else value.getLsbD i := by
  unfold afterRead
  cases heffect : segment.readEffect with
  | none => simp only [ite_self]
  | some effect =>
    cases effect <;> cases hmask : segment.bits.mask.getLsbD i <;>
      simp only [BitVec.getLsbD_or, BitVec.getLsbD_and, BitVec.getLsbD_not,
        RegisterLayout.getLsbD_fullMask, hmask, hi, hword, decide_true, Bool.and_true,
        Bool.not_true, Bool.not_false, Bool.and_false, Bool.or_false, Bool.or_true, if_true,
        Bool.false_eq_true, if_false]

section Reads

variable {register : RegisterLayout} {segment : Segment} {i : Nat}
  (hi : i < register.width.toNat) (hword : i < 128)

include hi hword

/-- A read leaves zeros or ones in a segment with an effect. -/
theorem getLsbD_afterRead_of_mem (hin : i ∈ segment.bits) {effect : ReadEffect}
    (heffect : segment.readEffect = some effect) (value : Word) :
    (afterRead register value segment).getLsbD i = decide (effect = .set) := by
  rw [getLsbD_afterRead register value segment hi hword, (BitRange.getLsbD_mask_iff hword).mpr hin,
    if_pos rfl, heffect]
  cases effect <;> rfl

theorem getLsbD_afterRead_of_kept (hkept : i ∈ segment.bits → segment.readEffect = none)
    (value : Word) : (afterRead register value segment).getLsbD i = value.getLsbD i := by
  rw [getLsbD_afterRead register value segment hi hword]
  split
  · next hmask => rw [hkept ((BitRange.getLsbD_mask_iff hword).mp hmask)]
  · rfl

/-- Segments without an effect on a bit leave it alone, one after another. -/
theorem getLsbD_foldl_afterRead_of_kept {segments : List Segment}
    (hkept : ∀ segment ∈ segments, i ∈ segment.bits → segment.readEffect = none) (value : Word) :
    (segments.foldl (afterRead register) value).getLsbD i = value.getLsbD i := by
  induction segments generalizing value with
  | nil => rfl
  | cons first rest ih =>
    obtain ⟨hfirst, hrest⟩ := List.forall_mem_cons.mp hkept
    rw [List.foldl_cons, ih hrest, getLsbD_afterRead_of_kept hi hword hfirst]

/-- The one segment that has a bit decides about it. -/
theorem getLsbD_foldl_afterRead_of_mem {segments : List Segment} (hsegment : segment ∈ segments)
    (hunique : ∀ other ∈ segments, i ∈ other.bits → other = segment) (hin : i ∈ segment.bits)
    {effect : ReadEffect} (heffect : segment.readEffect = some effect) (value : Word) :
    (segments.foldl (afterRead register) value).getLsbD i = decide (effect = .set) := by
  induction segments generalizing value with
  | nil => cases hsegment
  | cons first rest ih =>
    obtain ⟨-, hrest⟩ := List.forall_mem_cons.mp hunique
    rw [List.foldl_cons]
    by_cases hlater : segment ∈ rest
    · exact ih hlater hrest _
    · obtain rfl : segment = first := (List.mem_cons.mp hsegment).resolve_right hlater
      rw [getLsbD_foldl_afterRead_of_kept hi hword,
        getLsbD_afterRead_of_mem hi hword hin heffect]
      intro other hother hotherIn
      exact absurd (hrest other hother hotherIn ▸ hother) hlater

end Reads

/-! ### All segments -/

/-- The bits of a segment that a write enables. -/
def writeMask (register : RegisterLayout) (lanes : Word) (segment : Segment) : Word :=
  segment.bits.mask &&& lanes &&& register.fullMask

theorem writeSegment_of_open {model : Model} {state : State} {register : RegisterLayout}
    {data lanes : Word} {progress : Progress} {entry : Segment × Bool}
    (hopen : model.isOpen state entry.1 entry.2 = true) :
    model.writeSegment state register data lanes progress entry =
      progress.through entry.1 data (writeMask register lanes entry.1) :=
  if_pos hopen

theorem writeSegment_of_not_open {model : Model} {state : State} {register : RegisterLayout}
    {data lanes : Word} {progress : Progress} {entry : Segment × Bool}
    (hopen : model.isOpen state entry.1 entry.2 = false) :
    model.writeSegment state register data lanes progress entry = progress := by
  rw [writeSegment, hopen, if_neg Bool.false_ne_true]

/-- A bit that no open segment enables stays, and does not pulse. -/
theorem foldl_writeSegment_miss {model : Model} {state : State} {register : RegisterLayout}
    {lanes : Word} {i : Nat} (data : Word) (entries : List (Segment × Bool)) (progress : Progress)
    (hmiss : ∀ entry ∈ entries, model.isOpen state entry.1 entry.2 = true →
      (writeMask register lanes entry.1).getLsbD i = false) :
    let after := entries.foldl (model.writeSegment state register data lanes) progress
    after.value.getLsbD i = progress.value.getLsbD i ∧
      after.pulse.getLsbD i = progress.pulse.getLsbD i := by
  induction entries generalizing progress with
  | nil => exact ⟨rfl, rfl⟩
  | cons entry rest ih =>
    obtain ⟨hhere, hrest⟩ := List.forall_mem_cons.mp hmiss
    obtain ⟨hvalue, hpulse⟩ :=
      ih (model.writeSegment state register data lanes progress entry) hrest
    simp only [List.foldl_cons, hvalue, hpulse]
    cases hopen : model.isOpen state entry.1 entry.2 with
    | false =>
      rw [writeSegment_of_not_open hopen]
      exact ⟨rfl, rfl⟩
    | true =>
      rw [writeSegment_of_open hopen, getLsbD_through_value, getLsbD_through_pulse, hhere hopen]
      simp

/-- A bit that an open segment enables takes the bit function of that segment: by disjointness
    none of the others has touched what the function reads. -/
theorem foldl_writeSegment_hit {model : Model} {state : State} {register : RegisterLayout}
    {lanes : Word} {i : Nat} {entries : List (Segment × Bool)} {hit : Segment × Bool} (data : Word)
    (progress : Progress) (hapart : entries.Pairwise fun a b => a.1.bits.Apart b.1.bits)
    (hmem : hit ∈ entries) (hopen : model.isOpen state hit.1 hit.2 = true)
    (hmask : (writeMask register lanes hit.1).getLsbD i = true) :
    let after := entries.foldl (model.writeSegment state register data lanes) progress
    after.value.getLsbD i =
        hit.1.writeEffect.bit (progress.value.getLsbD i) (data.getLsbD i) ∧
      after.pulse.getLsbD i =
        (progress.pulse.getLsbD i || hit.1.writeEffect.pulseBit (data.getLsbD i)) := by
  have hin {segment : Segment} (hset : (writeMask register lanes segment).getLsbD i = true) :
      i ∈ segment.bits := by
    simp only [writeMask, BitVec.getLsbD_and, Bool.and_eq_true] at hset
    exact (BitRange.getLsbD_mask_iff (BitVec.lt_of_getLsbD hset.1.1)).mp hset.1.1
  induction entries generalizing progress with
  | nil => cases hmem
  | cons entry rest ih =>
    obtain ⟨hfirst, hrest⟩ := List.pairwise_cons.mp hapart
    -- Later segments keep what the hit has written; earlier ones have kept what it reads.
    rcases List.mem_cons.mp hmem with rfl | hlater
    · have hmiss : ∀ other ∈ rest, model.isOpen state other.1 other.2 = true →
          (writeMask register lanes other.1).getLsbD i = false := by
        intro other hother _
        by_contra hset
        exact hfirst other hother i ⟨hin hmask, hin (Bool.eq_true_of_not_eq_false hset)⟩
      obtain ⟨hvalue, hpulse⟩ := foldl_writeSegment_miss data rest
        (model.writeSegment state register data lanes progress hit) hmiss
      simp only [List.foldl_cons, hvalue, hpulse]
      rw [writeSegment_of_open hopen, getLsbD_through_value, getLsbD_through_pulse, hmask]
      simp
    · have hbefore : (writeMask register lanes entry.1).getLsbD i = false := by
        by_contra hset
        exact hfirst hit hlater i ⟨hin (Bool.eq_true_of_not_eq_false hset), hin hmask⟩
      obtain ⟨hvalue, hpulse⟩ := foldl_writeSegment_miss data [entry] progress
        (by simpa using fun _ => hbefore)
      simp only [List.foldl_cons, List.foldl_nil] at hvalue hpulse
      obtain ⟨hafter, hpulsed⟩ :=
        ih (model.writeSegment state register data lanes progress entry) hrest hlater
      rw [hvalue] at hafter
      rw [hpulse] at hpulsed
      exact ⟨hafter, hpulsed⟩

end Model

end RegisterFile
