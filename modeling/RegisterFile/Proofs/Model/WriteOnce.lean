import RegisterFile.Proofs.Hardware.Refines
import RegisterFile.Proofs.Model.Lanes
import RegisterFile.Proofs.Model.Step

/-!
Segments that take one write, over whole runs. The first bus write that no lock and no gate holds
back sets the flag of the segment, nothing but a reset takes it back, and from then on the bits are
hardware's alone.
-/

namespace RegisterFile

namespace Model

/-- A segment of a register file, by its register and its position in it. -/
structure Slot (model : Model) where
  register : RegisterLayout
  mem : register ∈ model.layout.registers
  position : Nat
  segment : Segment
  at_position : register.segments[position]? = some segment

/-- The flag of a segment is set. -/
def Marked (model : Model) (state : State) (slot : model.Slot) : Prop :=
  ∃ cell, model.Holds state slot.register cell ∧ cell.written[slot.position]? = some true

/-- A hardware write through an input that covers a bit of a register. -/
def Operation.Drives (register : RegisterLayout) (i : Nat) : Operation → Prop
  | .hwWrite stem _ => ∃ hw ∈ register.hwFields, hw.stem = stem ∧ hw.input = true ∧ i ∈ hw.bits
  | _ => False

namespace Slot

variable {model : Model}

/-- A bus write that goes to the segment, which no access hint, lock or magic gate holds back. -/
def Takes (slot : model.Slot) (state : State) : Operation → Prop
  | .write address _ _ => slot.register.address = address ∧ model.Admits state slot.segment false
  | _ => False

/-- A lock or a magic gate holds bus writes back. -/
def Blocked (slot : model.Slot) (state : State) : Prop :=
  model.Locked state slot.segment ∨
    ∃ gate ∈ slot.segment.gates, ¬ model.HasValue state gate.register gate.value

/-- A step does not change a stored bit of the register. -/
def KeepsBit (slot : model.Slot) (step : Step) (i : Nat) : Prop :=
  model.HasBit step.after slot.register i ↔ model.HasBit step.before slot.register i

/-- A bus write that changes a bit or the flag of the segment. -/
structure WrittenBy (slot : model.Slot) (step : Step) : Prop where
  isWrite : step.operation.IsWrite
  changed : (∃ i ∈ slot.segment.bits, ¬ slot.KeepsBit step i) ∨
    ¬ (model.Marked step.after slot ↔ model.Marked step.before slot)

/-- What one write is for a segment over the steps of a run. -/
structure WrittenOnce (slot : model.Slot) (steps : List Step) : Prop where
  /-- Of any two steps, one does not write the segment. -/
  once : steps.Pairwise fun first second => ¬ (slot.WrittenBy first ∧ slot.WrittenBy second)
  sticky : ∀ step ∈ steps, model.Marked step.before slot → model.Marked step.after slot
  /-- Once the flag is set, a bit is changed only by hardware that reaches it. -/
  hardware : ∀ step ∈ steps, model.Marked step.before slot → ∀ i ∈ slot.segment.bits,
    ¬ slot.KeepsBit step i → step.operation.Drives slot.register i
  /-- What sets the flag. -/
  marks : ∀ step ∈ steps, (model.Marked step.after slot ↔
    model.Marked step.before slot ∨ slot.Takes step.before step.operation)
  blocked : ∀ step ∈ steps, step.operation.IsWrite → slot.Blocked step.before →
    model.Marked step.after slot → model.Marked step.before slot

theorem Takes.not_blocked {slot : model.Slot} {state : State} {operation : Operation}
    (htakes : slot.Takes state operation) : ¬ slot.Blocked state := by
  cases operation with
  | write address data strobe =>
    obtain ⟨-, hadmits⟩ := htakes
    rintro (hlocked | ⟨gate, hgate, hvalue⟩)
    · exact hadmits.unlocked hlocked
    · exact hvalue (hadmits.ungated gate hgate)
  | _ => cases htakes

end Slot

variable {model : Model} {state : State} {slot : model.Slot} {before after : Cell}
  {operation : Operation}

/-! ### One step of a cell -/

theorem Slot.getElem?_written (hregister : slot.register.Regular) {cell : Cell} {written : Bool}
    (hentry : (slot.segment, written) ∈ slot.register.segments.zip cell.written) :
    cell.written[slot.position]? = some written := by
  obtain ⟨j, hj⟩ := List.mem_iff_getElem?.mp hentry
  obtain ⟨hsegment, hwritten⟩ := List.getElem?_zip_eq_some.mp hj
  obtain ⟨hlt, -⟩ := List.getElem?_eq_some_iff.mp hsegment
  have hsame : j = slot.position :=
    (List.getElem?_inj hlt hregister.segments_nodup).mp (hsegment.trans slot.at_position.symm)
  rwa [← hsame]

section

variable (honce : slot.segment.type.behavior.writeOnce = true)
  (hperformed : model.Performed state slot.register before operation after)
  (hreset : operation ≠ .reset)

include honce hperformed hreset

theorem Performed.marked_iff (hfits : before.Fits slot.register) :
    after.written[slot.position]? = some true ↔
      before.written[slot.position]? = some true ∨ slot.Takes state operation := by
  cases hperformed with
  | reset => exact absurd rfl hreset
  | passed hpasses =>
    refine (or_iff_left ?_).symm
    cases operation with
    | write address data strobe => exact fun htakes => hpasses htakes.1
    | _ => exact id
  | written hwritten =>
    obtain ⟨was, now, hwas, hnow, hflag⟩ := hwritten.exists_flags hfits slot.at_position
    rw [hwas, hnow, Option.some.injEq, Option.some.injEq, hflag]
    cases was with
    | true => simp
    | false => simp [Slot.Takes, honce]
  | read => exact (or_iff_left id).symm
  | driven stem data =>
    rw [drive_written]
    exact (or_iff_left id).symm

/-- Bits of the segment change in a write that it takes, or by hardware. -/
theorem Performed.bit_kept (hregister : slot.register.Regular) {i : Nat}
    (hin : i ∈ slot.segment.bits) (hdriven : ¬ operation.Drives slot.register i)
    (hkept : before.written[slot.position]? = some true ∨ ¬ slot.Takes state operation) :
    after.value.getLsbD i = before.value.getLsbD i := by
  have hsegment := List.mem_of_getElem? slot.at_position
  cases hperformed with
  | reset => exact absurd rfl hreset
  | passed => rfl
  | written hwritten =>
    apply (hwritten.kept i ?_).1
    rintro other ⟨written, hentry, hadmits, hotherIn, -⟩
    obtain rfl := hregister.segment_eq (List.of_mem_zip hentry).1 hsegment hotherIn hin
    obtain rfl := hadmits.fresh
    rcases hkept with hmarked | huntaken
    · cases (Slot.getElem?_written hregister hentry).symm.trans hmarked
    · exact huntaken ⟨rfl, hadmits⟩
  | read =>
    exact getLsbD_read hregister hsegment (Segment.readEffect_eq_none (Or.inr honce)) hin _
  | driven stem data =>
    apply getLsbD_drive
    intro hw hhw hstem hinput hhwIn
    exact hdriven ⟨hw, hhw, hstem, hinput, hhwIn⟩

end

/-! ### One step of a state -/

theorem marked_iff (hregular : model.layout.Regular) {cell : Cell}
    (hholds : model.Holds state slot.register cell) :
    model.Marked state slot ↔ cell.written[slot.position]? = some true := by
  constructor
  · rintro ⟨other, hother, hmarked⟩
    obtain ⟨-, rfl⟩ := hholds.unique hregular hother rfl
    exact hmarked
  · exact fun hmarked => ⟨cell, hholds, hmarked⟩

section

variable (hmodel : model.Regular) (hstems : model.StemsDistinct)
  (honce : slot.segment.type.behavior.writeOnce = true)

include hmodel hstems honce

section

variable (hfits : model.Fits state) (hreset : operation ≠ .reset)

include hfits hreset

theorem marked_perform_iff :
    model.Marked (model.perform state operation) slot ↔
      model.Marked state slot ∨ slot.Takes state operation := by
  obtain ⟨before, after, hbefore, hafter, hperformed⟩ :=
    exists_performed hmodel hfits operation hstems slot.mem
  rw [marked_iff hmodel.layout hafter, marked_iff hmodel.layout hbefore]
  exact hperformed.marked_iff honce hreset (hfits.cells _ _ hbefore)

theorem hasBit_perform_iff {i : Nat} (hin : i ∈ slot.segment.bits)
    (hdriven : ¬ operation.Drives slot.register i)
    (hkept : model.Marked state slot ∨ ¬ slot.Takes state operation) :
    model.HasBit (model.perform state operation) slot.register i ↔
      model.HasBit state slot.register i := by
  obtain ⟨before, after, hbefore, hafter, hperformed⟩ :=
    exists_performed hmodel hfits operation hstems slot.mem
  rw [marked_iff hmodel.layout hbefore] at hkept
  rw [hasBit_iff hmodel.layout hafter, hasBit_iff hmodel.layout hbefore,
    hperformed.bit_kept honce hreset (hmodel.layout.registers _ slot.mem) hin hdriven hkept]

/-- A bus write that changes the segment finds its flag clear and leaves it set. -/
theorem Slot.WrittenBy.marks
    (hwritten : slot.WrittenBy ⟨state, operation, model.perform state operation⟩) :
    ¬ model.Marked state slot ∧ model.Marked (model.perform state operation) slot := by
  have hmarks := marked_perform_iff hmodel hstems honce hfits hreset
  have htaken : ¬ (model.Marked state slot ∨ ¬ slot.Takes state operation) := by
    intro hkept
    have hdriven (i : Nat) : ¬ operation.Drives slot.register i := by
      have hwrite := hwritten.isWrite
      cases operation with
      | write address data strobe => exact id
      | _ => cases hwrite
    rcases hwritten.changed with ⟨i, hin, hchanged⟩ | hchanged
    · exact hchanged
        (hasBit_perform_iff hmodel hstems honce hfits hreset hin (hdriven i) hkept)
    · refine hchanged (hmarks.trans ⟨fun hany => ?_, Or.inl⟩)
      rcases hkept with hmarked | huntaken
      · exact hmarked
      · exact hany.resolve_right huntaken
  obtain ⟨hunmarked, htakes⟩ := not_or.mp htaken
  exact ⟨hunmarked, hmarks.mpr (Or.inr (not_not.mp htakes))⟩

end

/-! ### Runs -/

theorem marked_of_mem_steps (hfits : model.Fits state) (hmarked : model.Marked state slot)
    {operations : List Operation} (hreset : .reset ∉ operations) :
    ∀ step ∈ model.steps state operations, model.Marked step.before slot := by
  induction operations generalizing state with
  | nil => exact List.forall_mem_nil _
  | cons operation rest ih =>
    obtain ⟨hhere, hrest⟩ := List.ne_and_not_mem_of_not_mem_cons hreset
    refine List.forall_mem_cons.mpr ⟨hmarked, ih (fits_perform hmodel hfits operation) ?_ hrest⟩
    exact (marked_perform_iff hmodel hstems honce hfits hhere.symm).mpr (Or.inl hmarked)

theorem once_of_run (hfits : model.Fits state) {operations : List Operation}
    (hreset : .reset ∉ operations) :
    (model.steps state operations).Pairwise fun first second =>
      ¬ (slot.WrittenBy first ∧ slot.WrittenBy second) := by
  induction operations generalizing state with
  | nil => exact List.Pairwise.nil
  | cons operation rest ih =>
    obtain ⟨hhere, hrest⟩ := List.ne_and_not_mem_of_not_mem_cons hreset
    have hafter := fits_perform hmodel hfits operation
    refine List.pairwise_cons.mpr ⟨fun step hstep hboth => ?_, ih hafter hrest⟩
    -- The first write has set the flag, which the second one would have to find clear.
    obtain ⟨hfirst, hsecond⟩ := hboth
    obtain ⟨-, hmarked⟩ := hfirst.marks hmodel hstems honce hfits hhere.symm
    have hfound := marked_of_mem_steps hmodel hstems honce hafter hmarked hrest step hstep
    obtain ⟨hstepFits, hmem, hperformed⟩ := of_mem_steps hmodel hafter hstep
    obtain ⟨before, other, after⟩ := step
    obtain rfl : after = model.perform before other := hperformed
    have hother : other ≠ .reset := fun hsame => hrest (hsame ▸ hmem)
    exact (hsecond.marks hmodel hstems honce hstepFits hother).1 hfound

theorem writtenOnce_steps (hfits : model.Fits state) {operations : List Operation}
    (hreset : .reset ∉ operations) : slot.WrittenOnce (model.steps state operations) := by
  have hstep {step : Step} (hmem : step ∈ model.steps state operations) :
      model.Fits step.before ∧ step.operation ≠ .reset ∧
        step.after = model.perform step.before step.operation := by
    obtain ⟨hbefore, hoperation, hafter⟩ := of_mem_steps hmodel hfits hmem
    exact ⟨hbefore, fun hsame => hreset (hsame ▸ hoperation), hafter⟩
  have hmarks : ∀ step ∈ model.steps state operations, (model.Marked step.after slot ↔
      model.Marked step.before slot ∨ slot.Takes step.before step.operation) := by
    intro step hmem
    obtain ⟨hbefore, hoperation, hafter⟩ := hstep hmem
    rw [hafter]
    exact marked_perform_iff hmodel hstems honce hbefore hoperation
  refine ⟨once_of_run hmodel hstems honce hfits hreset, ?_, ?_, hmarks, ?_⟩
  · exact fun step hmem hmarked => (hmarks step hmem).mpr (Or.inl hmarked)
  · intro step hmem hmarked i hin hchanged
    obtain ⟨hbefore, hoperation, hafter⟩ := hstep hmem
    by_contra hdriven
    rw [Slot.KeepsBit, hafter] at hchanged
    exact hchanged (hasBit_perform_iff hmodel hstems honce hbefore hoperation hin hdriven
      (Or.inl hmarked))
  · intro step hmem _ hblocked hmarked
    exact ((hmarks step hmem).mp hmarked).resolve_right fun htakes => htakes.not_blocked hblocked

end

end Model

/-- In a run from reset without a further one, at most one bus write changes a segment that takes
    one write; its flag is never cleared, a blocked write does not set it, and once it is set only
    hardware changes the bits. -/
theorem writtenOnce_of_run (config : Config) (hvalid : (validate config).isValid = true)
    (slot : (Model.ofConfig config).Slot)
    (honce : slot.segment.type = .writeOnce ∨ slot.segment.type = .writeOnlyOnce)
    (operations : List Model.Operation) (hreset : .reset ∉ operations) :
    slot.WrittenOnce
      ((Model.ofConfig config).steps (Model.ofConfig config).reset operations) := by
  have hwf := Validate.wellFormed_of_isValid hvalid
  have hmodel := hwf.regular_model
  exact Model.writtenOnce_steps hmodel (Hardware.stemsDistinct hwf)
    (RegisterType.writeOnce_iff.mpr honce) (Model.fits_reset hmodel.layout) hreset

/-- A key that takes one write while its lock is open and that hardware may replace, next to a count
    that a read clears. -/
def Register.vault : Register where
  name := "VAULT"
  address := some 0
  resetValue := 0x7a5
  fields :=
    [{ name := "KEY", bits := .full 8, type := some .writeOnce
       hwAccess := some .readWrite, lockedBy := [⟨"LOCK", .bit 0⟩] },
      { name := "COUNT", bits := ⟨12, 8, by decide, by decide⟩, type := some .readClean }]

/-- The key behind a lock that reset closes. -/
def Config.vault : Config where
  moduleName := "regs"
  registers :=
    [.vault, { name := "LOCK", address := some 4, type := .lockField, resetValue := 1 }]

namespace Model

/-- The key, as the first segment of its register. -/
def vaultKey : (ofConfig Config.vault).Slot where
  register := Layout.ofRegister Config.vault .vault
  mem := List.mem_cons_self
  position := 0
  segment := .build (some "KEY") (.full 8) .writeOnce none
    [⟨"lock", .bit 0⟩] [] "vault_key"
  at_position := by decide +kernel

/-- A write that the lock stops, the opened lock, the one write, another write, the hardware's, and
    a read. -/
def vaultOperations : List Operation :=
  [.write 0 0x312 0, .write 4 0 0, .write 0 0x434 0, .write 0 0x556 0, .hwWrite "key" 0x78,
    .read 0]

end Model

theorem writtenOnce_of_run_vault :
    (validate Config.vault).isValid = true ∧ Model.vaultKey.segment.type = .writeOnce ∧
      .reset ∉ Model.vaultOperations ∧
      ((Model.ofConfig Config.vault).steps (Model.ofConfig Config.vault).reset
          Model.vaultOperations).map (fun step => step.after.head?) =
        [some ⟨0x3a5, [false, false], 0⟩, some ⟨0x3a5, [false, false], 0⟩,
          some ⟨0x434, [true, false], 0⟩, some ⟨0x534, [true, false], 0⟩,
          some ⟨0x578, [true, false], 0⟩, some ⟨0x78, [true, false], 0⟩] ∧
      Model.vaultKey.WrittenOnce
        ((Model.ofConfig Config.vault).steps (Model.ofConfig Config.vault).reset
          Model.vaultOperations) := by
  have hvalid : (validate Config.vault).isValid = true := by decide +kernel
  have hreset : .reset ∉ Model.vaultOperations := by decide
  exact ⟨hvalid, rfl, hreset, by decide +kernel,
    writtenOnce_of_run Config.vault hvalid Model.vaultKey (Or.inl rfl) Model.vaultOperations hreset⟩

end RegisterFile
