import RegisterFile.Proofs.Arithmetic.Layout
import RegisterFile.Proofs.Model.Operations

/-!
Whatever is done with the model of an accepted register file, in any order and from any state, it
is calculated without a stop: lanes and fields are placed inside a word, and the masks of segments,
hardware fields and locks are those of ranges that end below bit 128.
-/

namespace RegisterFile.Model

open Checked

/-! ### Bus writes -/

/-- Adds a byte lane that bit `lane` of a strobe enables. -/
def addLaneM (strobe mask : Word) (lane : Nat) : Checked Word := do
  if (← shiftRight strobe lane) &&& 1 = 1 then
    return mask ||| (← shiftLeft 0xFF (← mul 8 lane))
  else return mask

def laneMaskM (model : Model) (strobe : Word) : Checked Word :=
  if model.byteEnable then
    (List.range (min 16 ((model.dataWidth.toNat + 7) / 8))).foldlM (addLaneM strobe) 0
  else pure (BitVec.allOnes 128)

def isLockedM (model : Model) (state : State) (segment : Segment) : Checked Bool :=
  segment.locks.anyM fun tap =>
    match model.cellOf? state tap.register with
    | some cell => do return cell.value &&& (← tap.bits.maskM) != 0
    | none => pure false

def isOpenM (model : Model) (state : State) (segment : Segment) (written : Bool) :
    Checked Bool := do
  return segment.swWrite && !(← model.isLockedM state segment) &&
    model.isUngated state segment && !written

def writeSegmentM (model : Model) (state : State) (register : RegisterLayout)
    (data lanes : Word) (progress : Progress) (entry : Segment × Bool) : Checked Progress := do
  if ← model.isOpenM state entry.1 entry.2 then
    return progress.through entry.1 data
      ((← entry.1.bits.maskM) &&& lanes &&& (← register.fullMaskM))
  else return progress

def writeCellM (model : Model) (state : State) (register : RegisterLayout) (data lanes : Word)
    (cell : Cell) : Checked Cell := do
  let segments := register.segments.zip cell.written
  let progress ← segments.foldlM (model.writeSegmentM state register data lanes) ⟨cell.value, 0⟩
  let written ← segments.mapM fun (segment, written) => do
    return written || (segment.writtenFlag.isSome && (← model.isOpenM state segment written))
  return { value := progress.value, written, pulse := progress.pulse }

def hitsLockM (model : Model) (state : State) (register : RegisterLayout) : Checked Bool :=
  register.segments.anyM fun segment => do
    return segment.swWrite && (← model.isLockedM state segment)

def writeM (model : Model) (state : State) (address : UInt64) (data strobe : Word) :
    Checked (State × Response) :=
  let state := tick state
  match model.indexAt? address with
  | none => pure (state, model.errorAnswer)
  | some index =>
    match model.layout.registers[index]? with
    | none => pure (state, model.errorAnswer)
    | some register => do
      let lanes ← model.laneMaskM strobe
      let hit ← model.hitsLockM state register
      return (← modifyM state index (model.writeCellM state register data lanes),
        if hit && model.lockError then model.errorAnswer else .okay)

/-! ### Reads and hardware writes -/

def afterReadM (register : RegisterLayout) (value : Word) (segment : Segment) : Checked Word :=
  match segment.readEffect with
  | some .clear => do return value &&& ~~~(← segment.bits.maskM)
  | some .set => do return value ||| ((← segment.bits.maskM) &&& (← register.fullMaskM))
  | none => pure value

def readM (model : Model) (state : State) (address : UInt64) :
    Checked (State × Word × Response) :=
  let state := tick state
  match model.indexAt? address with
  | none => pure (state, 0, model.errorAnswer)
  | some index =>
    match model.layout.registers[index]?, state[index]? with
    | some register, some cell => do
      let data := cell.value &&& (← register.readMaskM)
      let value ← register.segments.foldlM (afterReadM register) cell.value
      return (state.set index { cell with value }, data, .okay)
    | _, _ => pure (state, 0, model.errorAnswer)

/-- A value written to a hardware field of a cell. -/
def hwCellM (hw : HwField) (data : Word) (cell : Cell) : Checked Cell := do
  return { cell with
    value := Word.overlay (← hw.bits.maskM) cell.value (← shiftLeft data hw.bits.low) }

def hwWriteM (model : Model) (state : State) (stem : String) (data : Word) :
    Checked (Option State) :=
  match model.layout.registers.findIdx? fun register => (hwInput? register stem).isSome with
  | none => pure none
  | some index =>
    match model.layout.registers[index]? with
    | none => pure none
    | some register =>
      match hwInput? register stem with
      | none => pure none
      | some hw => do return some (← modifyM state index (hwCellM hw data))

/-! ### Runs -/

def performM (model : Model) (state : State) : Operation → Checked State
  | .reset => pure model.reset
  | .tick => pure (tick state)
  | .write address data strobe => do return (← model.writeM state address data strobe).1
  | .read address => do return (← model.readM state address).1
  | .hwWrite stem data => do return (← model.hwWriteM state stem data).getD state

/-- The model of a configuration, with a layout that is calculated first. -/
def ofConfigM (config : Config) : Checked Model := do
  return { layout := ← Layout.ofConfigM config
           byteEnable := config.byteEnable
           dataWidth := config.dataWidth
           errorResponse := config.options.errorResponse
           lockError := config.options.lockError }

def runM (config : Config) (operations : List Operation) : Checked State := do
  let model ← ofConfigM config
  operations.foldlM model.performM model.reset

variable {model : Model} {state : State} {register : RegisterLayout} {segment : Segment}

theorem shiftRight_and_one {strobe : Word} {lane : Nat} :
    strobe >>> lane &&& 1 = 1 ↔ strobe.getLsbD lane = true := by
  have hbit (i : Nat) : (strobe >>> lane &&& 1).getLsbD i =
      (strobe.getLsbD (lane + i) && decide (i = 0)) := by
    rw [BitVec.getLsbD_and, BitVec.getLsbD_ushiftRight, show (1 : Word) = 1#128 from rfl,
      BitVec.getLsbD_one]
    simp
  constructor
  · intro hone
    have hlowest := hbit 0
    rw [hone] at hlowest
    simpa using hlowest.symm
  · intro hset
    apply BitVec.eq_of_getLsbD_eq
    intro i _
    rw [hbit, show (1 : Word) = 1#128 from rfl, BitVec.getLsbD_one]
    by_cases hi : i = 0 <;> simp [hi, hset]

theorem addLaneM_eq {strobe mask : Word} {lane : Nat} (hlane : lane < 16) :
    addLaneM strobe mask lane =
      pure (if strobe.getLsbD lane then mask ||| (Word.lowMask 8).placeAt (8 * lane)
        else mask) := by
  have hword : lane < 128 := by omega
  have hplace : 8 * lane < 128 := by omega
  have hproduct : 8 * lane < bitLimit := by
    simp only [bitLimit, UInt32.size]
    omega
  rw [addLaneM, shiftRight, if_pos hword, pure_bind]
  by_cases hset : strobe.getLsbD lane = true
  · rw [if_pos (shiftRight_and_one.mpr hset), if_pos hset, mul_eq hproduct, pure_bind,
      shiftLeft_eq hplace, pure_bind]
    rfl
  · rw [if_neg (mt shiftRight_and_one.mp hset), if_neg hset]

theorem laneMaskM_eq (model : Model) (strobe : Word) :
    model.laneMaskM strobe = pure (model.laneMask strobe) := by
  unfold laneMaskM laneMask
  split
  · rw [List.foldl_filter]
    refine foldlM_eq_pure (fun lane hlane mask => addLaneM_eq ?_) 0
    exact Nat.lt_of_lt_of_le (List.mem_range.mp hlane) (Nat.min_le_left _ _)
  · rfl

variable (hlayout : model.layout.Regular)

include hlayout

/-- The bits of a lock belong to a register of the layout. -/
theorem tap_high_lt {tap : LockTap} (hmem : register ∈ model.layout.registers)
    (hsegment : segment ∈ register.segments) (htap : tap ∈ segment.locks) :
    tap.bits.high < 128 := by
  obtain ⟨locker, hlocker, -, hinside⟩ := hlayout.taps register hmem segment hsegment tap htap
  exact Nat.lt_of_lt_of_le hinside.high_lt (hlayout.registers locker hlocker).width_le

theorem isLockedM_eq (hmem : register ∈ model.layout.registers)
    (hsegment : segment ∈ register.segments) :
    model.isLockedM state segment = pure (model.isLocked state segment) := by
  refine anyM_eq_pure fun tap htap => ?_
  have hhigh := tap_high_lt hlayout hmem hsegment htap
  cases model.cellOf? state tap.register with
  | none => rfl
  | some cell =>
    simp only [BitRange.maskM_eq hhigh, pure_bind]
    rfl

theorem isOpenM_eq (hmem : register ∈ model.layout.registers)
    (hsegment : segment ∈ register.segments) (written : Bool) :
    model.isOpenM state segment written = pure (model.isOpen state segment written) := by
  rw [isOpenM, isLockedM_eq hlayout hmem hsegment, pure_bind, isOpen]

theorem writeCellM_eq (hmem : register ∈ model.layout.registers) (data lanes : Word)
    (cell : Cell) :
    model.writeCellM state register data lanes cell =
      pure (model.writeCell state register data lanes cell) := by
  have hregister := hlayout.registers register hmem
  have hprogress : ∀ entry ∈ register.segments.zip cell.written, ∀ progress,
      model.writeSegmentM state register data lanes progress entry =
        pure (model.writeSegment state register data lanes progress entry) := by
    rintro ⟨segment, written⟩ hentry progress
    have hsegment := (List.of_mem_zip hentry).1
    rw [writeSegmentM, isOpenM_eq hlayout hmem hsegment, pure_bind, writeSegment]
    split
    · rw [BitRange.maskM_eq (hregister.segment_high_lt hsegment), pure_bind,
        RegisterLayout.fullMaskM_eq, pure_bind]
    · rfl
  have hwritten : ∀ entry ∈ register.segments.zip cell.written,
      (do return entry.2 || (entry.1.writtenFlag.isSome &&
        (← model.isOpenM state entry.1 entry.2)) : Checked Bool) =
      pure (entry.2 || (entry.1.writtenFlag.isSome && model.isOpen state entry.1 entry.2)) := by
    intro entry hentry
    rw [isOpenM_eq hlayout hmem (List.of_mem_zip hentry).1, pure_bind]
  rw [writeCellM, foldlM_eq_pure hprogress, pure_bind, mapM_eq_pure hwritten, pure_bind, writeCell]

theorem hitsLockM_eq (hmem : register ∈ model.layout.registers) :
    model.hitsLockM state register = pure (model.hitsLock state register) := by
  refine anyM_eq_pure fun segment hsegment => ?_
  rw [isLockedM_eq hlayout hmem hsegment, pure_bind]

theorem writeM_eq (address : UInt64) (data strobe : Word) :
    model.writeM state address data strobe = pure (model.write state address data strobe) := by
  unfold writeM write
  cases model.indexAt? address with
  | none => rfl
  | some index =>
    cases hregister : model.layout.registers[index]? with
    | none => simp only [hregister]
    | some register =>
      have hmem := List.mem_of_getElem? hregister
      simp only [hregister, laneMaskM_eq, hitsLockM_eq hlayout hmem,
        modifyM_eq fun cell _ => writeCellM_eq hlayout hmem data _ cell, pure_bind]

theorem readM_eq (address : UInt64) :
    model.readM state address = pure (model.read state address) := by
  unfold readM read
  cases model.indexAt? address with
  | none => rfl
  | some index =>
    cases hregister : model.layout.registers[index]? with
    | none => simp only [hregister]
    | some register =>
      have hregular := hlayout.registers register (List.mem_of_getElem? hregister)
      have heffect : ∀ segment ∈ register.segments, ∀ value,
          afterReadM register value segment = pure (afterRead register value segment) := by
        intro segment hsegment value
        have hmask := BitRange.maskM_eq (hregular.segment_high_lt hsegment)
        unfold afterReadM afterRead
        cases segment.readEffect with
        | none => rfl
        | some effect =>
          cases effect <;>
            simp only [hmask, RegisterLayout.fullMaskM_eq, pure_bind]
      cases hcell : (tick state)[index]? with
      | none => simp only [hregister, hcell]
      | some cell =>
        simp only [hregister, hcell, RegisterLayout.readMaskM_eq hregular,
          foldlM_eq_pure heffect, pure_bind]

theorem hwWriteM_eq (stem : String) (data : Word) :
    model.hwWriteM state stem data = pure (model.hwWrite? state stem data) := by
  unfold hwWriteM hwWrite?
  cases model.layout.registers.findIdx? fun register => (hwInput? register stem).isSome with
  | none => rfl
  | some index =>
    cases hregister : model.layout.registers[index]? with
    | none => simp [hregister]
    | some register =>
      cases hinput : hwInput? register stem with
      | none => simp [hregister, hinput]
      | some hw =>
        have hregular := hlayout.registers register (List.mem_of_getElem? hregister)
        have hhigh := hregular.hw_high_lt (List.mem_of_find?_eq_some hinput)
        have hcell : ∀ cell ∈ state, hwCellM hw data cell =
            pure { cell with
              value := Word.overlay hw.bits.mask cell.value (data.placeAt hw.bits.low) } := by
          intro cell _
          rw [hwCellM, BitRange.maskM_eq hhigh, pure_bind, shiftLeft_eq (BitRange.low_lt hhigh),
            pure_bind]
        simp [hregister, hinput, modifyM_eq hcell]

/-- An operation on a model with a regular layout is calculated without a stop. -/
theorem performM_eq (operation : Operation) :
    model.performM state operation = pure (model.perform state operation) := by
  cases operation with
  | reset => rfl
  | tick => rfl
  | write address data strobe => rw [performM, writeM_eq hlayout, pure_bind, perform]
  | read address => rw [performM, readM_eq hlayout, pure_bind, perform]
  | hwWrite stem data => rw [performM, hwWriteM_eq hlayout, pure_bind, perform]

omit hlayout

/-- So are all operations on the model of a well-formed register file, one after the other. -/
theorem runM_eq {config : Config} (hwf : config.WellFormed) (operations : List Operation) :
    runM config operations = pure ((ofConfig config).run operations) := by
  have hmodel : ofConfigM config = pure (ofConfig config) := by
    rw [ofConfigM, hwf.layoutM_eq, pure_bind, ofConfig]
  have hlayout : (ofConfig config).layout.Regular := hwf.regular
  rw [runM, hmodel, pure_bind,
    foldlM_eq_pure fun operation _ state => performM_eq hlayout operation, run]

end RegisterFile.Model
