import RegisterFile.Proofs.Hardware.Refines
import RegisterFile.Proofs.Model.Step

/-!
What holds after any run. Values, read data and pulses stay within their registers, flags are only
ever set for segments that take one write, and a pulse lasts from the write that makes it to the
next operation that ends the cycle.
-/

namespace RegisterFile

namespace WriteEffect

theorem isPulse_of_pulseBit {effect : WriteEffect} {data : Bool}
    (hbit : effect.pulseBit data = true) : effect.isPulse = true := by
  cases effect with
  | pulse level => rfl
  | _ => cases hbit

end WriteEffect

namespace Model

/-- Pulses come from segments that pulse and that the bus writes. -/
def Cell.PulsesInside (register : RegisterLayout) (cell : Cell) : Prop :=
  ∀ i, cell.pulse.getLsbD i = true → ∃ segment ∈ register.segments,
    segment.swWrite = true ∧ segment.writeEffect.isPulse = true ∧ i ∈ segment.bits

/-- What holds of every register after operations from reset. -/
structure Invariant (model : Model) (operations : List Operation) : Prop where
  /-- Every register holds a cell. -/
  length : (model.run operations).length = model.layout.registers.length
  value_lt : ∀ register cell, model.Holds (model.run operations) register cell →
    cell.value.toNat < 2 ^ register.width.toNat
  /-- The data of a read that comes next. -/
  read_lt : ∀ register ∈ model.layout.registers,
    (model.read (model.run operations) register.address).2.1.toNat < 2 ^ register.width.toNat
  written : ∀ register cell, model.Holds (model.run operations) register cell →
    ∀ segment, (segment, true) ∈ register.segments.zip cell.written →
      segment.type = .writeOnce ∨ segment.type = .writeOnlyOnce
  pulsesInside : ∀ register cell, model.Holds (model.run operations) register cell →
    cell.PulsesInside register
  /-- A register that pulses was written last, but for hardware writes. -/
  lastWrite : ∀ register cell, model.Holds (model.run operations) register cell →
    cell.pulse ≠ 0 → ∃ earlier data strobe later,
      operations = earlier ++ .write register.address data strobe :: later ∧
        ∀ operation ∈ later, operation.IsHardware
  /-- Reads, ticks and resets end all pulses. -/
  ended : ∀ operation : Operation, ¬ operation.IsWrite → ¬ operation.IsHardware →
    ∀ register cell, model.Holds (model.perform (model.run operations) operation) register cell →
      cell.pulse = 0

variable {model : Model} {state : State} {register : RegisterLayout} {before after : Cell}
  {operation : Operation}

/-! ### One step -/

theorem CellWritten.pulsesInside {data strobe : Word}
    (hwritten : model.CellWritten state register before data strobe after) :
    after.PulsesInside register := by
  intro i hbit
  by_cases hany : ∃ segment, model.Reaches state register before strobe segment i
  · obtain ⟨segment, hreaches⟩ := hany
    rw [(hwritten.reached segment i hreaches).2] at hbit
    obtain ⟨written, hentry, hadmits, hin, -⟩ := hreaches
    exact ⟨segment, (List.of_mem_zip hentry).1, hadmits.writable,
      WriteEffect.isPulse_of_pulseBit hbit, hin⟩
  · rw [(hwritten.kept i (not_exists.mp hany)).2] at hbit
    cases hbit

theorem Performed.pulsesInside (hperformed : model.Performed state register before operation after)
    (hbefore : before.PulsesInside register) : after.PulsesInside register := by
  have hnone {cell : Cell} (hpulse : cell.pulse = 0) : cell.PulsesInside register := by
    intro i hbit
    rw [hpulse, Word.getLsbD_zero] at hbit
    cases hbit
  cases hperformed with
  | reset => exact hnone rfl
  | passed => exact hnone rfl
  | written hwritten => exact hwritten.pulsesInside
  | read => exact hnone rfl
  | driven stem data =>
    unfold Cell.PulsesInside
    rwa [drive_pulse]

/-- Only a write to the register makes it pulse; a hardware write leaves the pulses as they are. -/
theorem Performed.pulse_cases (hperformed : model.Performed state register before operation after) :
    after.pulse = 0 ∨ (∃ data strobe, operation = .write register.address data strobe) ∨
      operation.IsHardware ∧ after.pulse = before.pulse := by
  cases hperformed with
  | reset => exact Or.inl rfl
  | passed => exact Or.inl rfl
  | @written data strobe => exact Or.inr (Or.inl ⟨data, strobe, rfl⟩)
  | read => exact Or.inl rfl
  | driven stem data => exact Or.inr (Or.inr ⟨trivial, drive_pulse⟩)

/-! ### Runs -/

section

variable (hmodel : model.Regular) (hstems : model.StemsDistinct)

include hmodel hstems

theorem pulsesInside_run (operations : List Operation)
    (hholds : model.Holds (model.run operations) register after) :
    after.PulsesInside register := by
  induction operations using List.reverseRecOn generalizing after with
  | nil =>
    obtain rfl := holds_reset hholds
    intro i hbit
    cases (Word.getLsbD_zero i).symm.trans hbit
  | append_singleton operations operation ih =>
    rw [run_append_singleton] at hholds
    obtain ⟨before, hbefore, hperformed⟩ :=
      holds_perform hmodel (fits_run hmodel operations) operation hstems hholds
    exact hperformed.pulsesInside (ih hbefore)

theorem lastWrite_run (operations : List Operation)
    (hholds : model.Holds (model.run operations) register after) (hpulse : after.pulse ≠ 0) :
    ∃ earlier data strobe later,
      operations = earlier ++ .write register.address data strobe :: later ∧
        ∀ operation ∈ later, operation.IsHardware := by
  induction operations using List.reverseRecOn generalizing after with
  | nil =>
    obtain rfl := holds_reset hholds
    exact absurd rfl hpulse
  | append_singleton operations operation ih =>
    rw [run_append_singleton] at hholds
    obtain ⟨before, hbefore, hperformed⟩ :=
      holds_perform hmodel (fits_run hmodel operations) operation hstems hholds
    rcases hperformed.pulse_cases with hzero | ⟨data, strobe, rfl⟩ | ⟨hhardware, hsame⟩
    · exact absurd hzero hpulse
    -- The operation is the write itself, or comes after it together with the later ones.
    · exact ⟨operations, data, strobe, [], rfl, List.forall_mem_nil _⟩
    · obtain ⟨earlier, data, strobe, later, rfl, hlater⟩ := ih hbefore (hsame ▸ hpulse)
      refine ⟨earlier, data, strobe, later ++ [operation], by simp, fun other hother => ?_⟩
      rcases List.mem_append.mp hother with hother | hother
      · exact hlater other hother
      · rwa [List.mem_singleton.mp hother]

theorem invariant_run (operations : List Operation) : model.Invariant operations where
  length := (fits_run hmodel operations).length
  value_lt register cell hholds :=
    ((fits_run hmodel operations).cells register cell hholds).value.toNat_lt
  read_lt register hmem := by
    have hfits := fits_run hmodel operations
    obtain ⟨cell, i, hregister, hcell⟩ := hfits.exists_holds hmem
    rw [read_known hmodel.layout hregister hcell]
    exact ((hfits.cells register cell ⟨i, hregister, hcell⟩).value.and _).toNat_lt
  written register cell hholds segment hentry := by
    have hflagged := ((fits_run hmodel operations).cells register cell hholds).flagged segment hentry
    have hregister := hmodel.layout.registers register hholds.mem
    rw [hregister.flags segment (List.of_mem_zip hentry).1] at hflagged
    exact RegisterType.writeOnce_iff.mp hflagged
  pulsesInside _ _ hholds := pulsesInside_run hmodel hstems operations hholds
  lastWrite _ _ hholds hpulse := lastWrite_run hmodel hstems operations hholds hpulse
  ended operation hwrite hhardware register cell hholds := by
    obtain ⟨before, -, hperformed⟩ :=
      holds_perform hmodel (fits_run hmodel operations) operation hstems hholds
    rcases hperformed.pulse_cases with hzero | ⟨data, strobe, rfl⟩ | ⟨hdriven, -⟩
    · exact hzero
    · exact absurd trivial hwrite
    · exact absurd hdriven hhardware

end

end Model

/-- Whatever is done with a valid register file, in any order and with any data. -/
theorem invariant_of_run (config : Config) (hvalid : (validate config).isValid = true)
    (operations : List Model.Operation) : (Model.ofConfig config).Invariant operations := by
  have hwf := Validate.wellFormed_of_isValid hvalid
  exact Model.invariant_run hwf.regular_model (Hardware.stemsDistinct hwf) operations

/-- Bits that pulse below others that hardware drives. -/
def Config.strobe : Config where
  moduleName := "regs"
  registers := [{ name := "GO", address := some 0, fields :=
    [{ name := "START", bits := .full 4, type := some .write1Pulse },
      { name := "LEVEL", bits := ⟨11, 4, by decide, by decide⟩, hwAccess := some .write }] }]

/-- The hardware write leaves the pulses of the bus write before it. -/
theorem invariant_of_run_strobe :
    (validate Config.strobe).isValid = true ∧
      (Model.ofConfig Config.strobe).run [.write 0 0x35 0, .hwWrite "level" 0xffa] =
        [⟨0xfa0, [false, false], 5⟩] ∧
      (Model.ofConfig Config.strobe).Invariant [.write 0 0x35 0, .hwWrite "level" 0xffa] := by
  have hvalid : (validate Config.strobe).isValid = true := by decide +kernel
  exact ⟨hvalid, by decide +kernel, invariant_of_run Config.strobe hvalid _⟩

end RegisterFile
