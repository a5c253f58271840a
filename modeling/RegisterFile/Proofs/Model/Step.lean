import RegisterFile.Proofs.Model.Operations

/-!
Steps of a run, register by register. What an operation makes of the cell of a register is given
once, and with it what every operation of a run preserves.
-/

namespace RegisterFile

theorem RegisterType.writeOnce_iff {type : RegisterType} :
    type.behavior.writeOnce = true ↔ type = .writeOnce ∨ type = .writeOnlyOnce := by
  cases type <;> simp [behavior]

/-- Segments that pulse or take one write are not changed by reads. -/
theorem Segment.readEffect_eq_none {segment : Segment}
    (htype : segment.type.behavior.writeEffect.isPulse = true ∨
      segment.type.behavior.writeOnce = true) : segment.readEffect = none := by
  have hnone : segment.type.behavior.readEffect = none := by
    revert htype
    cases segment.type <;> simp [RegisterType.behavior, WriteEffect.isPulse]
  rw [Segment.readEffect, hnone, ite_self]

namespace Model

/-- Operations that end the cycle and do not go to the register. -/
def Operation.Passes (register : RegisterLayout) : Operation → Prop
  | .tick => True
  | .write address _ _ => register.address ≠ address
  | .read address => register.address ≠ address
  | .reset => False
  | .hwWrite _ _ => False

/-- Writes over the bus. -/
def Operation.IsWrite : Operation → Prop
  | .write _ _ _ => True
  | _ => False

/-- Writes of surrounding hardware. -/
def Operation.IsHardware : Operation → Prop
  | .hwWrite _ _ => True
  | _ => False

/-- What an operation on a state makes of the cell of a register. -/
inductive Performed (model : Model) (state : State) (register : RegisterLayout) (before : Cell) :
    Operation → Cell → Prop
  | reset : Performed model state register before .reset (resetCell register)
  | passed {operation : Operation} (hpasses : operation.Passes register) :
    Performed model state register before operation { before with pulse := 0 }
  | written {data strobe : Word} {after : Cell}
    (hwritten : model.CellWritten state register before data strobe after) :
    Performed model state register before (.write register.address data strobe) after
  | read : Performed model state register before (.read register.address)
      ⟨register.segments.foldl (afterRead register) before.value, before.written, 0⟩
  | driven (stem : String) (data : Word) :
    Performed model state register before (.hwWrite stem data) (drive register stem data before)

/-- An operation of a run, between the states before and after it. -/
structure Step where
  before : State
  operation : Operation
  after : State

/-- The steps of operations from a state on. -/
def steps (model : Model) (state : State) : List Operation → List Step
  | [] => []
  | operation :: rest =>
    ⟨state, operation, model.perform state operation⟩ ::
      model.steps (model.perform state operation) rest

/-- A stored bit of a register is set. -/
def HasBit (model : Model) (state : State) (register : RegisterLayout) (i : Nat) : Prop :=
  ∃ cell, model.Holds state register cell ∧ cell.value.getLsbD i = true

variable {model : Model} {state : State} {register : RegisterLayout} {cell after : Cell}

theorem hasBit_iff (hregular : model.layout.Regular) (hholds : model.Holds state register cell)
    {i : Nat} : model.HasBit state register i ↔ cell.value.getLsbD i = true := by
  constructor
  · rintro ⟨other, hother, hbit⟩
    obtain ⟨-, rfl⟩ := hholds.unique hregular hother rfl
    exact hbit
  · exact fun hbit => ⟨cell, hholds, hbit⟩

/-! ### Reads and hardware writes -/

/-- A read leaves a segment without a read effect alone. -/
theorem getLsbD_read (hregister : register.Regular) {segment : Segment}
    (hsegment : segment ∈ register.segments) (heffect : segment.readEffect = none) {i : Nat}
    (hin : i ∈ segment.bits) (value : Word) :
    (register.segments.foldl (afterRead register) value).getLsbD i = value.getLsbD i := by
  have hi := hregister.segmentsInside segment hsegment i hin
  have hword := hregister.width_le
  apply getLsbD_foldl_afterRead_of_kept hi (by omega)
  intro other hother hotherIn
  rwa [hregister.segment_eq hother hsegment hotherIn hin]

/-- Hardware writes leave alone what no input of their stem covers. -/
theorem getLsbD_drive {stem : String} {data : Word} {cell : Cell} {i : Nat}
    (hmiss : ∀ hw ∈ register.hwFields, hw.stem = stem → hw.input = true → i ∉ hw.bits) :
    (drive register stem data cell).value.getLsbD i = cell.value.getLsbD i := by
  unfold drive
  split
  · next hw hfound =>
    obtain ⟨hhw, hstem, hinput⟩ := hwInput?_eq_some hfound
    rw [Word.getLsbD_overlay, if_neg]
    intro hset
    exact hmiss hw hhw hstem hinput
      ((BitRange.getLsbD_mask_iff (BitVec.lt_of_getLsbD hset)).mp hset)
  · rfl

@[simp] theorem drive_written {stem : String} {data : Word} {cell : Cell} :
    (drive register stem data cell).written = cell.written := by
  unfold drive
  split <;> rfl

@[simp] theorem drive_pulse {stem : String} {data : Word} {cell : Cell} :
    (drive register stem data cell).pulse = cell.pulse := by
  unfold drive
  split <;> rfl

/-! ### One step -/

section

variable (hmodel : model.Regular) (hfits : model.Fits state) (operation : Operation)

include hmodel hfits

theorem fits_perform : model.Fits (model.perform state operation) := by
  cases operation with
  | reset => exact fits_reset hmodel.layout
  | tick => exact hfits.tick
  | write address data strobe => exact hfits.write address data strobe
  | read address => exact hfits.read address
  | hwWrite stem data => exact fits_hwWrites hmodel.layout hfits [(stem, data)]

theorem holds_perform (hstems : model.StemsDistinct)
    (hholds : model.Holds (model.perform state operation) register after) :
    ∃ before, model.Holds state register before ∧
      model.Performed state register before operation after := by
  cases operation with
  | reset =>
    obtain ⟨before, hbefore⟩ := hfits.exists_holds hholds.mem
    obtain rfl := holds_reset hholds
    exact ⟨before, hbefore, .reset⟩
  | tick =>
    obtain ⟨before, hbefore, rfl⟩ := holds_tick_iff.mp hholds
    exact ⟨before, hbefore, .passed trivial⟩
  | write address data strobe =>
    obtain ⟨before, hbefore, helsewhere, hhere⟩ := holds_write hmodel hfits hholds
    refine ⟨before, hbefore, ?_⟩
    by_cases haddress : register.address = address
    · subst haddress
      exact .written (hhere rfl)
    · rw [helsewhere haddress]
      exact .passed haddress
  | read address =>
    obtain ⟨before, hbefore, helsewhere, hhere⟩ := holds_read hmodel.layout hfits hholds
    refine ⟨before, hbefore, ?_⟩
    by_cases haddress : register.address = address
    · subst haddress
      rw [hhere rfl]
      exact .read
    · rw [helsewhere haddress]
      exact .passed haddress
  | hwWrite stem data =>
    obtain ⟨before, hbefore, rfl⟩ := holds_hwWrite_drive hmodel.layout hstems hholds
    exact ⟨before, hbefore, .driven stem data⟩

theorem exists_performed (hstems : model.StemsDistinct)
    (hmem : register ∈ model.layout.registers) :
    ∃ before after, model.Holds state register before ∧
      model.Holds (model.perform state operation) register after ∧
      model.Performed state register before operation after := by
  obtain ⟨after, hafter⟩ := (fits_perform hmodel hfits operation).exists_holds hmem
  obtain ⟨before, hbefore, hperformed⟩ := holds_perform hmodel hfits operation hstems hafter
  exact ⟨before, after, hbefore, hafter, hperformed⟩

end

/-! ### Runs -/

theorem run_append_singleton (operations : List Operation) (operation : Operation) :
    model.run (operations ++ [operation]) = model.perform (model.run operations) operation := by
  rw [run, List.foldl_append]
  rfl

theorem fits_run (hmodel : model.Regular) (operations : List Operation) :
    model.Fits (model.run operations) := by
  induction operations using List.reverseRecOn with
  | nil => exact fits_reset hmodel.layout
  | append_singleton operations operation ih =>
    rw [run_append_singleton]
    exact fits_perform hmodel ih operation

theorem of_mem_steps (hmodel : model.Regular) (hfits : model.Fits state)
    {operations : List Operation} {step : Step} (hstep : step ∈ model.steps state operations) :
    model.Fits step.before ∧ step.operation ∈ operations ∧
      step.after = model.perform step.before step.operation := by
  induction operations generalizing state with
  | nil => cases hstep
  | cons operation rest ih =>
    rcases List.mem_cons.mp hstep with rfl | hlater
    · exact ⟨hfits, List.mem_cons_self, rfl⟩
    · obtain ⟨hbefore, hmem, hafter⟩ := ih (fits_perform hmodel hfits operation) hlater
      exact ⟨hbefore, List.mem_cons_of_mem _ hmem, hafter⟩

end Model

end RegisterFile
