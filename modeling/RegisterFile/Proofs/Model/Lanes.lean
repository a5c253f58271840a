import RegisterFile.Proofs.Model.Write

/-!
Byte lanes. A write that enables no lane of a segment leaves its bits alone, but it is still a
write: a segment that takes a single one is marked by it.
-/

namespace RegisterFile

namespace Model

/-- No byte lane of the segment takes part in a write. -/
def Disabled (segment : Segment) (strobe : Word) : Prop :=
  ∀ i ∈ segment.bits, strobe.getLsbD (i / 8) = false

/-- The bits of a segment are as before and do not pulse. -/
def BitsKept (segment : Segment) (before after : Cell) : Prop :=
  ∀ i ∈ segment.bits,
    after.value.getLsbD i = before.value.getLsbD i ∧ after.pulse.getLsbD i = false

variable {model : Model} {state : State} {register : RegisterLayout} {segment : Segment}
  {before after : Cell} {data strobe : Word}

/-- Whatever segment has a bit, a write does not get at it through a disabled lane. -/
theorem CellWritten.bitsKept
    (hwritten : model.CellWritten state register before data strobe after)
    (hbyte : model.byteEnable = true) (hdisabled : Disabled segment strobe) :
    BitsKept segment before after := by
  intro i hi
  apply hwritten.kept
  rintro other ⟨_, _, _, _, henables⟩
  have hlane := henables hbyte
  rw [hdisabled i hi] at hlane
  cases hlane

/-- The flag of a segment, before and after a write. -/
theorem CellWritten.exists_flags {j : Nat}
    (hwritten : model.CellWritten state register before data strobe after)
    (hbefore : before.Fits register) (hsegment : register.segments[j]? = some segment) :
    ∃ was now, before.written[j]? = some was ∧ after.written[j]? = some now ∧
      (now = true ↔
        was = true ∨ segment.type.behavior.writeOnce = true ∧ model.Admits state segment was) := by
  obtain ⟨hj, -⟩ := List.getElem?_eq_some_iff.mp hsegment
  have hwas : j < before.written.length := by
    rw [hbefore.written]
    exact hj
  have hnow : j < after.written.length := by
    rw [hwritten.shape]
    exact hwas
  exact ⟨_, _, List.getElem?_eq_getElem hwas, List.getElem?_eq_getElem hnow,
    hwritten.flags j segment _ _ hsegment (List.getElem?_eq_getElem hwas)
      (List.getElem?_eq_getElem hnow)⟩

end Model

/-- A segment none of whose lanes a write enables keeps its bits and does not pulse. Its flag is
    kept too, unless it takes a single write and admits this one: then the flag is set. -/
theorem disabled_segment_of_reachable (config : Config)
    (hvalid : (validate config).isValid = true) (hbyte : config.byteEnable = true)
    (state : Model.State) (hreachable : (Model.ofConfig config).Reachable state)
    (address : UInt64) (data strobe : Word)
    {register : RegisterLayout} (hregister : register ∈ (Layout.ofConfig config).registers)
    (haddress : register.address = address)
    {j : Nat} {segment : Segment} (hsegment : register.segments[j]? = some segment)
    (hdisabled : Model.Disabled segment strobe) :
    ∃ before after was now,
      (Model.ofConfig config).Holds state register before ∧
      (Model.ofConfig config).Holds
        ((Model.ofConfig config).write state address data strobe).1 register after ∧
      before.written[j]? = some was ∧ after.written[j]? = some now ∧
      Model.BitsKept segment before after ∧
      (now = true ↔ was = true ∨
        segment.type.behavior.writeOnce = true ∧
          (Model.ofConfig config).Admits state segment was) := by
  have hmodel := (Validate.wellFormed_of_isValid hvalid).regular_model
  have hfits := hreachable.fits hmodel.layout
  obtain ⟨before, i, hlayout, hbefore⟩ := hfits.exists_holds hregister
  obtain ⟨after, hafter, hwritten⟩ := (Model.written_write hmodel hfits address data strobe).here
    i register before hlayout hbefore haddress
  obtain ⟨was, now, hwas, hnow, hflag⟩ := hwritten.exists_flags
    (hfits.cells register before ⟨i, hlayout, hbefore⟩) hsegment
  exact ⟨before, after, was, now, ⟨i, hlayout, hbefore⟩, ⟨i, hlayout, hafter⟩, hwas, hnow,
    hwritten.bitsKept hbyte hdisabled, hflag⟩

/-- A register of two bytes that are each written once. -/
def Register.fuses : Register where
  name := "FUSES"
  address := some 0
  fields := [{ name := "KEY", bits := ⟨7, 0, by decide, by decide⟩, type := some .writeOnce },
    { name := "SEAL", bits := ⟨15, 8, by decide, by decide⟩, type := some .writeOnce }]

/-- A register file of the two bytes, written byte by byte. -/
def Config.fuses : Config where
  moduleName := "regs"
  byteEnable := true
  registers := [.fuses]

/-- The second byte as a segment of its register. -/
def Segment.seal : Segment :=
  .build (some "SEAL") ⟨15, 8, by decide, by decide⟩ .writeOnce none [] [] "fuses_seal"

theorem Model.disabled_seal : Model.Disabled .seal 1 := by
  intro i hi
  obtain ⟨hlow, hhigh⟩ := BitRange.mem_iff.mp hi
  have hlane : i / 8 = 1 := by
    change 8 ≤ i at hlow
    change i ≤ 15 at hhigh
    omega
  rw [hlane]
  rfl

/-- Writing the first byte marks the second one. -/
theorem disabled_segment_of_reachable_fuses :
    (validate Config.fuses).isValid = true ∧ Config.fuses.byteEnable = true ∧
      Model.Disabled .seal 1 ∧
      ∃ before after was now,
        (Model.ofConfig Config.fuses).Holds (Model.ofConfig Config.fuses).reset
          (Layout.ofRegister Config.fuses .fuses) before ∧
        (Model.ofConfig Config.fuses).Holds
          ((Model.ofConfig Config.fuses).write (Model.ofConfig Config.fuses).reset 0 0xa5 1).1
          (Layout.ofRegister Config.fuses .fuses) after ∧
        before.written[1]? = some was ∧ after.written[1]? = some now ∧
        Model.BitsKept .seal before after ∧
        (now = true ↔ was = true ∨
          Segment.seal.type.behavior.writeOnce = true ∧
            (Model.ofConfig Config.fuses).Admits (Model.ofConfig Config.fuses).reset
              .seal was) := by
  have hvalid : (validate Config.fuses).isValid = true := by decide +kernel
  exact ⟨hvalid, rfl, Model.disabled_seal,
    disabled_segment_of_reachable Config.fuses hvalid rfl _ .reset 0 0xa5 1
      (List.mem_singleton_self _) rfl (by decide +kernel) Model.disabled_seal⟩

/-- The second byte can no longer be written: its one write went to the first byte. -/
theorem seal_used_up :
    (validate Config.fuses).isValid = true ∧ Config.fuses.byteEnable = true ∧
      (Layout.ofRegister Config.fuses .fuses).segments[1]? = some .seal ∧
      (Model.ofConfig Config.fuses).reset = [⟨0, [false, false], 0⟩] ∧
      Model.Disabled .seal 1 ∧
      ((Model.ofConfig Config.fuses).write (Model.ofConfig Config.fuses).reset 0 0xa5 1).1 =
        [⟨0xa5, [true, true], 0⟩] ∧
      ((Model.ofConfig Config.fuses).write [⟨0xa5, [true, true], 0⟩] 0 0x5a00 2).1 =
        [⟨0xa5, [true, true], 0⟩] :=
  ⟨by decide +kernel, rfl, by decide +kernel, by decide +kernel, Model.disabled_seal,
    by decide +kernel, by decide +kernel⟩

end RegisterFile
