import RegisterFile.Proofs.Model.Cycle
import RegisterFile.Proofs.Reorder.Declarations

/-!
Registers that are cut into segments in different ways and still have the same policy at every bit:
type, access, locks and gates. Reads do not tell them apart, and a register file that matches a
regular one register by register is as regular.
-/

namespace RegisterFile

/-- Segments with the same policy for their bits. -/
structure Segment.Matches (segment other : Segment) : Prop where
  type : segment.type = other.type
  swRead : segment.swRead = other.swRead
  swWrite : segment.swWrite = other.swWrite
  locks : ∀ tap, tap ∈ segment.locks ↔ tap ∈ other.locks
  gates : ∀ gate, gate ∈ segment.gates ↔ gate ∈ other.gates

/-- Every bit in a segment of the register is in one of the other register with the same policy. -/
def RegisterLayout.Covers (other register : RegisterLayout) : Prop :=
  ∀ segment ∈ register.segments, ∀ i ∈ segment.bits,
    ∃ otherSegment ∈ other.segments, i ∈ otherSegment.bits ∧ segment.Matches otherSegment

/-- Registers with the same policy at every bit, however they are cut into segments. -/
structure RegisterLayout.Matches (register other : RegisterLayout) : Prop where
  ident : register.ident = other.ident
  address : register.address = other.address
  width : register.width = other.width
  reset : register.reset = other.reset
  hwFields : ∀ hw, hw ∈ register.hwFields ↔ hw ∈ other.hwFields
  covers : other.Covers register
  covered : register.Covers other

namespace Segment.Matches

variable {segment other : Segment} (hsegment : segment.Matches other)

theorem refl (segment : Segment) : segment.Matches segment :=
  ⟨rfl, rfl, rfl, fun _ => Iff.rfl, fun _ => Iff.rfl⟩

include hsegment

theorem symm : other.Matches segment where
  type := hsegment.type.symm
  swRead := hsegment.swRead.symm
  swWrite := hsegment.swWrite.symm
  locks := fun tap => (hsegment.locks tap).symm
  gates := fun gate => (hsegment.gates gate).symm

theorem writeEffect : segment.writeEffect = other.writeEffect := by
  rw [Segment.writeEffect, Segment.writeEffect, hsegment.type]

theorem readEffect : segment.readEffect = other.readEffect := by
  rw [Segment.readEffect, Segment.readEffect, hsegment.type, hsegment.swRead]

end Segment.Matches

namespace RegisterLayout

variable {register other : RegisterLayout} {i : Nat}

theorem Matches.refl (register : RegisterLayout) : register.Matches register where
  ident := rfl
  address := rfl
  width := rfl
  reset := rfl
  hwFields := fun _ => Iff.rfl
  covers := fun segment hsegment _ hin => ⟨segment, hsegment, hin, .refl segment⟩
  covered := fun segment hsegment _ hin => ⟨segment, hsegment, hin, .refl segment⟩

theorem Matches.symm (hregister : register.Matches other) : other.Matches register where
  ident := hregister.ident.symm
  address := hregister.address.symm
  width := hregister.width.symm
  reset := hregister.reset.symm
  hwFields := fun hw => (hregister.hwFields hw).symm
  covers := hregister.covered
  covered := hregister.covers

theorem Covers.exists_segment (hcovers : other.Covers register) {segment : Segment}
    (hsegment : segment ∈ register.segments) :
    ∃ otherSegment ∈ other.segments, segment.Matches otherSegment := by
  obtain ⟨otherSegment, hother, -, hmatches⟩ :=
    hcovers segment hsegment segment.bits.low segment.bits.low_mem
  exact ⟨otherSegment, hother, hmatches⟩

/-! ### Reads -/

theorem getLsbD_readMask_iff (hi : i < 128) :
    register.readMask.getLsbD i = true ↔ ∃ segment ∈ register.segments,
      (segment.swRead = true ∧ segment.writeEffect.isPulse = false) ∧ i ∈ segment.bits := by
  simp only [readMask, Model.getLsbD_foldl_or, Word.getLsbD_zero, Bool.false_or, List.any_eq_true,
    List.mem_filter, Bool.and_eq_true, Bool.not_eq_true', BitRange.getLsbD_mask_iff hi, and_assoc]

theorem Covers.getLsbD_readMask (hcovers : other.Covers register) (hi : i < 128)
    (hset : register.readMask.getLsbD i = true) : other.readMask.getLsbD i = true := by
  obtain ⟨segment, hmem, ⟨hread, hpulse⟩, hin⟩ := (getLsbD_readMask_iff hi).mp hset
  obtain ⟨otherSegment, hotherMem, hotherIn, hsegment⟩ := hcovers segment hmem i hin
  exact (getLsbD_readMask_iff hi).mpr ⟨otherSegment, hotherMem,
    ⟨hsegment.swRead ▸ hread, hsegment.writeEffect ▸ hpulse⟩, hotherIn⟩

theorem Matches.readMask (hregister : register.Matches other) :
    register.readMask = other.readMask :=
  BitVec.eq_of_getLsbD_eq fun _ hi => Bool.eq_iff_iff.mpr
    ⟨hregister.covers.getLsbD_readMask hi, hregister.covered.getLsbD_readMask hi⟩

end RegisterLayout

/-! ### Regular register files -/

section

variable {layout other : Layout}
  (hregisters : Rearranged RegisterLayout.Matches layout.registers other.registers)

include hregisters

theorem LockTap.Resolves.of_matches {tap : LockTap} (htap : tap.Resolves layout) :
    tap.Resolves other := by
  obtain ⟨locker, hlocker, hident, hinside⟩ := htap
  obtain ⟨found, hfound, hmatches⟩ := hregisters.exists_of_mem hlocker
  exact ⟨found, hfound, hmatches.ident ▸ hident, hmatches.width ▸ hinside⟩

theorem MagicGate.Resolves.of_matches {gate : MagicGate} (hgate : gate.Resolves layout) :
    gate.Resolves other := by
  obtain ⟨source, hsource, hident, hwidth, hvalue⟩ := hgate
  obtain ⟨found, hfound, hmatches⟩ := hregisters.exists_of_mem hsource
  exact ⟨found, hfound, hmatches.ident ▸ hident, hmatches.width ▸ hwidth, hvalue⟩

theorem Layout.Regular.of_matches (hregular : layout.Regular)
    (hothers : ∀ register ∈ other.registers, register.Regular) : other.Regular where
  registers := hothers
  identsDistinct := (hregisters.map_perm fun _ _ _ _ hmatches => hmatches.ident).nodup_iff.mp
    hregular.identsDistinct
  addressesDistinct := (hregisters.map_perm fun _ _ _ _ hmatches => hmatches.address).nodup_iff.mp
    hregular.addressesDistinct
  taps := by
    intro otherRegister hother otherSegment hotherSegment tap htap
    obtain ⟨register, hmem, hregister⟩ := hregisters.exists_of_mem_others hother
    obtain ⟨segment, hsegment, hmatches⟩ := hregister.covered.exists_segment hotherSegment
    exact (hregular.taps register hmem segment hsegment tap
      ((hmatches.locks tap).mp htap)).of_matches hregisters
  gates := by
    intro otherRegister hother otherSegment hotherSegment gate hgate
    obtain ⟨register, hmem, hregister⟩ := hregisters.exists_of_mem_others hother
    obtain ⟨segment, hsegment, hmatches⟩ := hregister.covered.exists_segment hotherSegment
    exact (hregular.gates register hmem segment hsegment gate
      ((hmatches.gates gate).mp hgate)).of_matches hregisters

end

namespace Model

/-- The side effects of a read are those of the policy of each bit. -/
theorem foldl_afterRead_of_matches {register otherRegister : RegisterLayout}
    {cell otherCell : Cell} (hregular : register.Regular) (hotherRegular : otherRegister.Regular)
    (hregister : register.Matches otherRegister) (hfits : cell.Fits register)
    (hotherFits : otherCell.Fits otherRegister) (hvalue : cell.value = otherCell.value) :
    register.segments.foldl (afterRead register) cell.value =
      otherRegister.segments.foldl (afterRead otherRegister) otherCell.value := by
  refine (hfits.afterRead register.segments).value.ext
    (hregister.width ▸ (hotherFits.afterRead otherRegister.segments).value) fun i hi hi128 => ?_
  have hotherWidth : i < otherRegister.width.toNat := hregister.width ▸ hi
  by_cases heffect : ∃ segment ∈ register.segments, i ∈ segment.bits ∧ segment.readEffect.isSome
  · obtain ⟨segment, hmem, hin, hsome⟩ := heffect
    obtain ⟨effect, heffect⟩ := Option.isSome_iff_exists.mp hsome
    obtain ⟨otherSegment, hotherMem, hotherIn, hsegment⟩ := hregister.covers segment hmem i hin
    rw [getLsbD_foldl_afterRead_of_mem hi hi128 hmem
        (fun _ hother hin' => hregular.segment_eq hother hmem hin' hin) hin heffect,
      getLsbD_foldl_afterRead_of_mem hotherWidth hi128 hotherMem
        (fun _ hother hin' => hotherRegular.segment_eq hother hotherMem hin' hotherIn) hotherIn
        (hsegment.readEffect ▸ heffect)]
  · have hkept : ∀ segment ∈ register.segments, i ∈ segment.bits → segment.readEffect = none := by
      intro segment hmem hin
      rw [← Option.not_isSome_iff_eq_none]
      exact fun hsome => heffect ⟨segment, hmem, hin, hsome⟩
    have hotherKept : ∀ otherSegment ∈ otherRegister.segments, i ∈ otherSegment.bits →
        otherSegment.readEffect = none := by
      intro otherSegment hotherMem hotherIn
      obtain ⟨segment, hmem, hin, hsegment⟩ :=
        hregister.covered otherSegment hotherMem i hotherIn
      exact hsegment.readEffect ▸ hkept segment hmem hin
    rw [getLsbD_foldl_afterRead_of_kept hi hi128 hkept,
      getLsbD_foldl_afterRead_of_kept hotherWidth hi128 hotherKept, hvalue]

/-- Models of matching registers. -/
structure Matches (model other : Model) : Prop where
  registers : Rearranged RegisterLayout.Matches model.layout.registers other.layout.registers
  rest : { model with layout := other.layout } = other

namespace Matches

variable {model other : Model} (hmatches : model.Matches other)

include hmatches

theorem symm : other.Matches model where
  registers := hmatches.registers.flip.mono fun _ _ _ _ hregister => hregister.symm
  rest := by rw [← hmatches.rest]

/-- Registers of one identifier match. -/
theorem of_ident (hother : other.Regular) {register otherRegister : RegisterLayout}
    (hmem : register ∈ model.layout.registers) (hotherMem : otherRegister ∈ other.layout.registers)
    (hident : register.ident = otherRegister.ident) : register.Matches otherRegister := by
  obtain ⟨found, hfound, hregister⟩ := hmatches.registers.exists_of_mem hmem
  have hsame : found = otherRegister := List.inj_on_of_nodup_map
    hother.layout.identsDistinct hfound hotherMem (hregister.ident.symm.trans hident)
  exact hsame ▸ hregister

/-- A model that matches a regular one is regular if its registers are. -/
theorem regular (hmodel : model.Regular)
    (hothers : ∀ register ∈ other.layout.registers, register.Regular) : other.Regular where
  layout := hmodel.layout.of_matches hmatches.registers hothers
  onBus := by
    intro otherRegister hotherMem
    obtain ⟨register, hmem, hregister⟩ := hmatches.registers.exists_of_mem_others hotherMem
    rw [← hregister.width, ← hmatches.rest]
    exact hmodel.onBus register hmem

theorem stemsDistinct (hother : other.Regular) (hstems : model.StemsDistinct) :
    other.StemsDistinct := by
  intro first hfirst second hsecond hw hhw otherHw hotherHw hinput hotherInput hstem
  obtain ⟨register, hmem, hregister⟩ := hmatches.registers.exists_of_mem_others hfirst
  obtain ⟨otherRegister, hotherMem, hotherRegister⟩ :=
    hmatches.registers.exists_of_mem_others hsecond
  obtain ⟨rfl, rfl⟩ := hstems register hmem otherRegister hotherMem hw
    ((hregister.hwFields hw).mpr hhw) otherHw ((hotherRegister.hwFields otherHw).mpr hotherHw)
    hinput hotherInput hstem
  exact ⟨List.inj_on_of_nodup_map hother.layout.identsDistinct hfirst hsecond
    (hregister.ident.symm.trans hotherRegister.ident), rfl⟩

end Matches

end Model

end RegisterFile
