import RegisterFile.Proofs.Model.Reachable

/-!
What a bus write does, bit by bit. Locks, magic gates and written flags are judged on the state
before the write, and a bit changes exactly if its segment admits the write and its byte lane is
enabled.
-/

namespace RegisterFile

namespace Model

/-- The register of an identifier holds a value. -/
def HasValue (model : Model) (state : State) (ident : String) (value : Word) : Prop :=
  ∃ register cell, model.Holds state register cell ∧ register.ident = ident ∧ cell.value = value

/-- A lock of the segment has a bit set. -/
def Locked (model : Model) (state : State) (segment : Segment) : Prop :=
  ∃ tap ∈ segment.locks, ∃ value, model.HasValue state tap.register value ∧
    ∃ i ∈ tap.bits, value.getLsbD i = true

/-- A segment lets a bus write through. -/
structure Admits (model : Model) (state : State) (segment : Segment) (written : Bool) :
    Prop where
  writable : segment.swWrite = true
  unlocked : ¬ model.Locked state segment
  ungated : ∀ gate ∈ segment.gates, model.HasValue state gate.register gate.value
  fresh : written = false

/-- The byte lane of a bit takes part in a write. -/
def Enables (model : Model) (strobe : Word) (i : Nat) : Prop :=
  model.byteEnable = true → strobe.getLsbD (i / 8) = true

/-- A write gets at a bit of a register through one of its segments. -/
def Reaches (model : Model) (state : State) (register : RegisterLayout) (cell : Cell)
    (strobe : Word) (segment : Segment) (i : Nat) : Prop :=
  ∃ written, (segment, written) ∈ register.segments.zip cell.written ∧
    model.Admits state segment written ∧ i ∈ segment.bits ∧ model.Enables strobe i

/-- What the addressed register holds after a write. -/
structure CellWritten (model : Model) (state : State) (register : RegisterLayout) (before : Cell)
    (data strobe : Word) (after : Cell) : Prop where
  /-- Bits that the write gets at take the bit function of their type. -/
  reached : ∀ segment i, model.Reaches state register before strobe segment i →
    after.value.getLsbD i = segment.type.behavior.writeEffect.bit (before.value.getLsbD i)
      (data.getLsbD i) ∧
    after.pulse.getLsbD i = segment.type.behavior.writeEffect.pulseBit (data.getLsbD i)
  /-- The other bits keep their value and do not pulse. -/
  kept : ∀ i, (∀ segment, ¬ model.Reaches state register before strobe segment i) →
    after.value.getLsbD i = before.value.getLsbD i ∧ after.pulse.getLsbD i = false
  shape : after.written.length = before.written.length
  /-- Segments of the types that take one write are marked by it. -/
  flags : ∀ (j : Nat) (segment : Segment) (was now : Bool), register.segments[j]? = some segment →
    before.written[j]? = some was → after.written[j]? = some now →
    (now = true ↔
      was = true ∨ segment.type.behavior.writeOnce = true ∧ model.Admits state segment was)

/-- What a register file holds after a write, and how the write is answered. -/
structure Written (model : Model) (state : State) (address : UInt64) (data strobe : Word)
    (after : State) (response : Response) : Prop where
  length : state.length = model.layout.registers.length ∧
    after.length = model.layout.registers.length
  /-- Registers at other addresses keep all but their pulses. -/
  elsewhere : ∀ (i : Nat) (register : RegisterLayout) (cell : Cell),
    model.layout.registers[i]? = some register → state[i]? = some cell →
    register.address ≠ address → after[i]? = some { cell with pulse := 0 }
  here : ∀ (i : Nat) (register : RegisterLayout) (cell : Cell),
    model.layout.registers[i]? = some register → state[i]? = some cell →
    register.address = address →
    ∃ cell', after[i]? = some cell' ∧ model.CellWritten state register cell data strobe cell'
  /-- Only a missing register or a lock that is reported makes an error. -/
  answer : response = .slaveError ↔
    model.errorResponse = .slverr ∧
      ((∀ register ∈ model.layout.registers, register.address ≠ address) ∨
        model.lockError = true ∧ ∃ register ∈ model.layout.registers,
          register.address = address ∧
          ∃ segment ∈ register.segments, segment.swWrite = true ∧ model.Locked state segment)

/-- A regular layout whose registers are no wider than the bus. -/
structure Regular (model : Model) : Prop where
  layout : model.layout.Regular
  onBus : ∀ register ∈ model.layout.registers,
    register.width.toNat ≤ model.dataWidth.toNat

variable {model : Model} {state : State} {register : RegisterLayout} {cell : Cell}
  {segment : Segment}

/-! ### Gates -/

theorem holds_tick_iff :
    model.Holds (tick state) register cell ↔
      ∃ before, model.Holds state register before ∧ cell = { before with pulse := 0 } := by
  simp only [Holds, tick, List.getElem?_map, Option.map_eq_some_iff]
  constructor
  · rintro ⟨i, hregister, before, hbefore, rfl⟩
    exact ⟨before, ⟨i, hregister, hbefore⟩, rfl⟩
  · rintro ⟨before, ⟨i, hregister, hbefore⟩, rfl⟩
    exact ⟨i, hregister, before, hbefore, rfl⟩

@[simp] theorem hasValue_tick_iff {ident : String} {value : Word} :
    model.HasValue (tick state) ident value ↔ model.HasValue state ident value := by
  constructor
  · rintro ⟨register, cell, hholds, hident, hvalue⟩
    obtain ⟨before, hbefore, rfl⟩ := holds_tick_iff.mp hholds
    exact ⟨register, before, hbefore, hident, hvalue⟩
  · rintro ⟨register, cell, hholds, hident, hvalue⟩
    exact ⟨register, _, holds_tick_iff.mpr ⟨cell, hholds, rfl⟩, hident, hvalue⟩

@[simp] theorem locked_tick_iff :
    model.Locked (tick state) segment ↔ model.Locked state segment := by
  simp only [Locked, hasValue_tick_iff]

@[simp] theorem admits_tick_iff {written : Bool} :
    model.Admits (tick state) segment written ↔ model.Admits state segment written := by
  constructor
  · rintro ⟨hwritable, hunlocked, hungated, hfresh⟩
    exact ⟨hwritable, by simpa using hunlocked, by simpa using hungated, hfresh⟩
  · rintro ⟨hwritable, hunlocked, hungated, hfresh⟩
    exact ⟨hwritable, by simpa using hunlocked, by simpa using hungated, hfresh⟩

theorem and_mask_ne_zero_iff {value : Word} {range : BitRange} :
    (value &&& range.mask != 0) = true ↔ ∃ i ∈ range, value.getLsbD i = true := by
  rw [bne_iff_ne, Word.ne_zero_iff]
  refine exists_congr fun i => ?_
  rw [BitVec.getLsbD_and, Bool.and_eq_true]
  constructor
  · rintro ⟨hbit, hmask⟩
    exact ⟨(BitRange.getLsbD_mask_iff (BitVec.lt_of_getLsbD hbit)).mp hmask, hbit⟩
  · rintro ⟨hin, hbit⟩
    exact ⟨hbit, (BitRange.getLsbD_mask_iff (BitVec.lt_of_getLsbD hbit)).mpr hin⟩

theorem cellOf?_any_iff (hregular : model.layout.Regular) {ident : String}
    (test : Word → Bool) :
    ((model.cellOf? state ident).any fun cell => test cell.value) = true ↔
      ∃ value, model.HasValue state ident value ∧ test value = true := by
  rw [Option.any_eq_true]
  constructor
  · rintro ⟨cell, hcell, htest⟩
    obtain ⟨register, hholds, hident⟩ := (cellOf?_eq_some_iff hregular).mp hcell
    exact ⟨cell.value, ⟨register, cell, hholds, hident, rfl⟩, htest⟩
  · rintro ⟨_, ⟨register, cell, hholds, hident, rfl⟩, htest⟩
    exact ⟨cell, (cellOf?_eq_some_iff hregular).mpr ⟨register, hholds, hident⟩, htest⟩

theorem isLocked_iff (hregular : model.layout.Regular) :
    model.isLocked state segment = true ↔ model.Locked state segment := by
  rw [isLocked, List.any_eq_true]
  refine exists_congr fun tap => and_congr_right fun _ => ?_
  rw [cellOf?_any_iff hregular fun value => value &&& tap.bits.mask != 0]
  exact exists_congr fun value => and_congr_right fun _ => and_mask_ne_zero_iff

theorem isUngated_iff (hregular : model.layout.Regular) :
    model.isUngated state segment = true ↔
      ∀ gate ∈ segment.gates, model.HasValue state gate.register gate.value := by
  rw [isUngated, List.all_eq_true]
  refine forall_congr' fun gate => imp_congr_right fun _ => ?_
  rw [cellOf?_any_iff hregular fun value => value == gate.value]
  simp

theorem isOpen_iff (hregular : model.layout.Regular) {written : Bool} :
    model.isOpen state segment written = true ↔ model.Admits state segment written := by
  have hlocked : (!model.isLocked state segment) = true ↔ ¬ model.Locked state segment := by
    rw [← isLocked_iff hregular, Bool.not_eq_true', Bool.not_eq_true]
  simp only [isOpen, Bool.and_eq_true, isUngated_iff hregular, hlocked, Bool.not_eq_true']
  constructor
  · rintro ⟨⟨⟨hwritable, hunlocked⟩, hopen⟩, hfresh⟩
    exact ⟨hwritable, hunlocked, hopen, hfresh⟩
  · rintro ⟨hwritable, hunlocked, hopen, hfresh⟩
    exact ⟨⟨⟨hwritable, hunlocked⟩, hopen⟩, hfresh⟩

/-! ### The addressed register -/

theorem getLsbD_writeMask_iff (hmodel : model.Regular) (hmem : register ∈ model.layout.registers)
    (hsegment : segment ∈ register.segments) {strobe : Word} {i : Nat} :
    (writeMask register (model.laneMask strobe) segment).getLsbD i = true ↔
      i ∈ segment.bits ∧ model.Enables strobe i := by
  have hregister := hmodel.layout.registers register hmem
  have hword := hregister.width_le
  have hbus := hmodel.onBus register hmem
  have henables : model.Enables strobe i ↔
      (!model.byteEnable || strobe.getLsbD (i / 8)) = true := by
    cases hbyte : model.byteEnable <;> simp [Enables, hbyte]
  rw [writeMask, BitVec.getLsbD_and, BitVec.getLsbD_and, henables]
  constructor
  · intro hset
    simp only [Bool.and_eq_true] at hset
    have hi := BitVec.lt_of_getLsbD hset.1.1
    have hin := (BitRange.getLsbD_mask_iff hi).mp hset.1.1
    have hinside := hregister.segmentsInside segment hsegment i hin
    refine ⟨hin, ?_⟩
    rw [← getLsbD_laneMask model strobe (by omega) hi]
    exact hset.1.2
  · rintro ⟨hin, hlane⟩
    have hinside := hregister.segmentsInside segment hsegment i hin
    rw [(BitRange.getLsbD_mask_iff (by omega)).mpr hin,
      getLsbD_laneMask model strobe (by omega) (by omega), hlane,
      RegisterLayout.getLsbD_fullMask, decide_eq_true (by omega), decide_eq_true hinside]
    rfl

theorem zip_apart (hregister : register.Regular) (flags : List Bool) :
    (register.segments.zip flags).Pairwise fun a b => a.1.bits.Apart b.1.bits := by
  have hapart := hregister.segmentsApart
  generalize register.segments = segments at hapart
  induction segments generalizing flags with
  | nil => exact List.Pairwise.nil
  | cons segment rest ih =>
    cases flags with
    | nil => exact List.Pairwise.nil
    | cons flag flags =>
      obtain ⟨hfirst, hrest⟩ := List.pairwise_cons.mp hapart
      refine List.pairwise_cons.mpr ⟨?_, ih flags hrest⟩
      rintro ⟨other, _⟩ hother
      exact hfirst other (List.of_mem_zip hother).1

theorem cellWritten_writeCell (hmodel : model.Regular) (hmem : register ∈ model.layout.registers)
    (hcell : cell.Fits register) (data strobe : Word) :
    model.CellWritten state register cell data strobe
      (model.writeCell state register data (model.laneMask strobe) cell) := by
  have hregister := hmodel.layout.registers register hmem
  refine ⟨?_, ?_, ?_, ?_⟩
  · rintro segment i ⟨written, hentry, hadmits, hin, henables⟩
    have hmask := (getLsbD_writeMask_iff hmodel hmem (List.of_mem_zip hentry).1).mpr
      ⟨hin, henables⟩
    obtain ⟨hvalue, hpulse⟩ := foldl_writeSegment_hit data ⟨cell.value, 0⟩
      (zip_apart hregister cell.written) hentry ((isOpen_iff hmodel.layout).mpr hadmits) hmask
    refine ⟨hvalue, hpulse.trans ?_⟩
    rw [Word.getLsbD_zero, Bool.false_or]
    rfl
  · intro i hnone
    have hmiss : ∀ entry ∈ register.segments.zip cell.written,
        model.isOpen state entry.1 entry.2 = true →
          (writeMask register (model.laneMask strobe) entry.1).getLsbD i = false := by
      rintro ⟨segment, written⟩ hentry hopen
      by_contra hset
      obtain ⟨hin, henables⟩ := (getLsbD_writeMask_iff hmodel hmem
        (List.of_mem_zip hentry).1).mp (Bool.eq_true_of_not_eq_false hset)
      exact hnone segment
        ⟨written, hentry, (isOpen_iff hmodel.layout).mp hopen, hin, henables⟩
    obtain ⟨hvalue, hpulse⟩ := foldl_writeSegment_miss data _ ⟨cell.value, 0⟩ hmiss
    exact ⟨hvalue, hpulse.trans (Word.getLsbD_zero i)⟩
  · rw [writeCell, List.length_map, List.length_zip, hcell.written, Nat.min_self]
  · intro j segment was now hsegment hwas hnow
    have hentry : (register.segments.zip cell.written)[j]? = some (segment, was) :=
      List.getElem?_zip_eq_some.mpr ⟨hsegment, hwas⟩
    simp only [writeCell, List.getElem?_map, hentry, Option.map_some, Option.some.injEq] at hnow
    rw [← hnow, Bool.or_eq_true, Bool.and_eq_true, isOpen_iff hmodel.layout,
      hregister.flags segment (List.mem_of_getElem? hsegment)]

/-- A flag after a write tells what it was before, and whether the write has marked it. -/
theorem CellWritten.exists_before {before after : Cell} {data strobe : Word} {now : Bool}
    (hwritten : model.CellWritten state register before data strobe after)
    (hlength : before.written.length = register.segments.length)
    (hentry : (segment, now) ∈ register.segments.zip after.written) :
    ∃ was, (segment, was) ∈ register.segments.zip before.written ∧
      (now = true ↔
        was = true ∨ segment.type.behavior.writeOnce = true ∧ model.Admits state segment was) := by
  obtain ⟨j, hj⟩ := List.mem_iff_getElem?.mp hentry
  obtain ⟨hsegment, hnow⟩ := List.getElem?_zip_eq_some.mp hj
  have hlt : j < before.written.length := by
    rw [hlength]
    exact (List.getElem?_eq_some_iff.mp hsegment).1
  have hwas := List.getElem?_eq_getElem hlt
  have hbefore : (segment, before.written[j]) ∈ register.segments.zip before.written :=
    List.mem_of_getElem? (List.getElem?_zip_eq_some.mpr ⟨hsegment, hwas⟩)
  exact ⟨_, hbefore, hwritten.flags j segment _ now hsegment hwas hnow⟩

/-! ### The register file -/

theorem getElem?_tick {i : Nat} (hcell : state[i]? = some cell) :
    (tick state)[i]? = some { cell with pulse := 0 } := by
  rw [tick, List.getElem?_map, hcell, Option.map_some]

theorem CellWritten.of_tick {before after : Cell} {data strobe : Word}
    (hwritten : model.CellWritten (tick state) register { before with pulse := 0 } data strobe
      after) :
    model.CellWritten state register before data strobe after where
  reached := by simpa [Reaches] using hwritten.reached
  kept := by simpa [Reaches] using hwritten.kept
  shape := hwritten.shape
  flags := by simpa using hwritten.flags

theorem errorAnswer_eq_slaveError_iff :
    model.errorAnswer = .slaveError ↔ model.errorResponse = .slverr := by
  unfold errorAnswer
  cases model.errorResponse <;> simp

theorem hitsLock_iff (hregular : model.layout.Regular) :
    model.hitsLock state register = true ↔
      ∃ segment ∈ register.segments, segment.swWrite = true ∧ model.Locked state segment := by
  simp only [hitsLock, List.any_eq_true, Bool.and_eq_true, isLocked_iff hregular]

/-- An address without a register gets the error answer, and only pulses end. -/
theorem written_write_of_unknown (hfits : model.Fits state) {address : UInt64}
    (hnone : ∀ register ∈ model.layout.registers, register.address ≠ address)
    (data strobe : Word) :
    model.Written state address data strobe (model.write state address data strobe).1
      (model.write state address data strobe).2 := by
  have hwrite : model.write state address data strobe = (tick state, model.errorAnswer) := by
    simp only [write, indexAt?_eq_none_iff.mpr hnone]
  rw [hwrite]
  refine ⟨⟨hfits.length, hfits.tick.length⟩, ?_, ?_, ?_⟩
  · intro i register cell _ hcell _
    exact getElem?_tick hcell
  · intro i register cell hregister _ haddress
    exact absurd haddress (hnone register (List.mem_of_getElem? hregister))
  · rw [errorAnswer_eq_slaveError_iff]
    exact ⟨fun hslverr => ⟨hslverr, Or.inl hnone⟩, And.left⟩

/-- The register of an address takes the write, and answers for its locks. -/
theorem written_write_of_known (hmodel : model.Regular) (hfits : model.Fits state)
    {address : UInt64} {index : Nat} {target : RegisterLayout}
    (htarget : model.layout.registers[index]? = some target)
    (htargetAddress : target.address = address)
    (data strobe : Word) :
    model.Written state address data strobe (model.write state address data strobe).1
      (model.write state address data strobe).2 := by
  have hindex : model.indexAt? address = some index :=
    (indexAt?_eq_some_iff hmodel.layout).mpr ⟨target, htarget, htargetAddress⟩
  have hwrite : model.write state address data strobe =
      ((tick state).modify index
          (model.writeCell (tick state) target data (model.laneMask strobe)),
        if model.hitsLock (tick state) target && model.lockError then model.errorAnswer
        else .okay) := by
    simp only [write, hindex, htarget]
  have honly {i : Nat} {register : RegisterLayout}
      (hregister : model.layout.registers[i]? = some register)
      (haddress : register.address = address) : i = index ∧ register = target := by
    obtain rfl := index_unique hmodel.layout.addressesDistinct htarget hregister
      (htargetAddress.trans haddress.symm)
    exact ⟨rfl, Option.some.inj (hregister.symm.trans htarget)⟩
  have hlocked : model.hitsLock (tick state) target = true ↔
      ∃ segment ∈ target.segments, segment.swWrite = true ∧ model.Locked state segment := by
    rw [hitsLock_iff hmodel.layout]
    simp only [locked_tick_iff]
  rw [hwrite]
  refine ⟨⟨hfits.length, by rw [List.length_modify, hfits.tick.length]⟩, ?_, ?_, ?_⟩
  · intro i register cell hregister hcell haddress
    have hne : index ≠ i := by
      rintro rfl
      rw [htarget] at hregister
      exact haddress (Option.some.inj hregister ▸ htargetAddress)
    rw [List.getElem?_modify, getElem?_tick hcell]
    simp only [if_neg hne, Option.map_eq_map, Option.map_some]
  · intro i register cell hregister hcell haddress
    obtain ⟨rfl, rfl⟩ := honly hregister haddress
    have hfit := (hfits.cells register cell ⟨_, htarget, hcell⟩).tick
    refine ⟨_, ?_, (cellWritten_writeCell hmodel (List.mem_of_getElem? htarget) hfit data
      strobe).of_tick⟩
    rw [List.getElem?_modify, getElem?_tick hcell]
    simp only [if_true, Option.map_eq_map, Option.map_some]
  · constructor
    · intro hanswer
      split at hanswer
      · next hhit =>
        rw [Bool.and_eq_true] at hhit
        exact ⟨errorAnswer_eq_slaveError_iff.mp hanswer, Or.inr ⟨hhit.2, target,
          List.mem_of_getElem? htarget, htargetAddress, hlocked.mp hhit.1⟩⟩
      · cases hanswer
    · rintro ⟨hslverr, hnone | ⟨herror, other, hother, hotherAddress, hsegments⟩⟩
      · exact absurd htargetAddress (hnone target (List.mem_of_getElem? htarget))
      · obtain ⟨j, hj⟩ := List.mem_iff_getElem?.mp hother
        obtain ⟨-, rfl⟩ := honly hj hotherAddress
        rw [if_pos (Bool.and_eq_true_iff.mpr ⟨hlocked.mpr hsegments, herror⟩)]
        exact errorAnswer_eq_slaveError_iff.mpr hslverr

/-- A write to a state of the right shape, in terms of bits. -/
theorem written_write (hmodel : model.Regular) (hfits : model.Fits state) (address : UInt64)
    (data strobe : Word) :
    model.Written state address data strobe (model.write state address data strobe).1
      (model.write state address data strobe).2 := by
  cases hindex : model.indexAt? address with
  | none => exact written_write_of_unknown hfits (indexAt?_eq_none_iff.mp hindex) data strobe
  | some index =>
    obtain ⟨target, htarget, haddress⟩ := (indexAt?_eq_some_iff hmodel.layout).mp hindex
    exact written_write_of_known hmodel hfits htarget haddress data strobe

end Model

theorem Config.WellFormed.regular_model {config : Config}
    (hwf : config.WellFormed) : (Model.ofConfig config).Regular where
  layout := hwf.regular
  onBus := by
    intro layout hlayout
    obtain ⟨register, hmem, rfl⟩ := List.mem_map.mp hlayout
    exact hwf.registerWidth_le hmem

/-- A bus write on a reachable state of a valid register file, bit by bit. -/
theorem written_of_reachable (config : Config) (hvalid : (validate config).isValid = true)
    (state : Model.State) (hreachable : (Model.ofConfig config).Reachable state)
    (address : UInt64) (data strobe : Word) :
    (Model.ofConfig config).Written state address data strobe
      ((Model.ofConfig config).write state address data strobe).1
      ((Model.ofConfig config).write state address data strobe).2 := by
  have hmodel := (Validate.wellFormed_of_isValid hvalid).regular_model
  exact Model.written_write hmodel (hreachable.fits hmodel.layout) address data strobe

/-- The second write to a register that takes one is a write on a reachable state. -/
theorem written_of_reachable_single :
    (validate Config.single).isValid = true ∧
      ∃ state, (Model.ofConfig Config.single).Reachable state ∧ state = [⟨0xa5, [true], 0⟩] ∧
        (Model.ofConfig Config.single).Written state 0 0xff 1
          ((Model.ofConfig Config.single).write state 0 0xff 1).1
          ((Model.ofConfig Config.single).write state 0 0xff 1).2 := by
  have hvalid : (validate Config.single).isValid = true := by decide
  have hreset : (Model.ofConfig Config.single).Reachable (Model.ofConfig Config.single).reset :=
    Model.Reachable.reset
  have hreachable := Model.Reachable.tick (Model.Reachable.write 0 0xa5 1 hreset)
  exact ⟨hvalid, _, hreachable, by decide,
    written_of_reachable Config.single hvalid _ hreachable 0 0xff 1⟩

end RegisterFile
