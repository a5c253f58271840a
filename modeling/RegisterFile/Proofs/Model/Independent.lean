import RegisterFile.Proofs.Model.Write

/-!
Writes to registers that do not refer to each other. Each of them changes what only its own
register holds, and neither looks at what the other changes, so their order does not matter; a
third register may gate both.
-/

namespace RegisterFile

/-- No lock and no magic gate of a register refers to another one. -/
structure RegisterLayout.Ignores (register other : RegisterLayout) : Prop where
  locks : ∀ segment ∈ register.segments, ∀ tap ∈ segment.locks, tap.register ≠ other.ident
  gates : ∀ segment ∈ register.segments, ∀ gate ∈ segment.gates, gate.register ≠ other.ident

instance (register other : RegisterLayout) : Decidable (register.Ignores other) :=
  decidable_of_iff
    ((∀ segment ∈ register.segments, ∀ tap ∈ segment.locks, tap.register ≠ other.ident) ∧
      ∀ segment ∈ register.segments, ∀ gate ∈ segment.gates, gate.register ≠ other.ident)
    ⟨fun ⟨hlocks, hgates⟩ => ⟨hlocks, hgates⟩, fun hignores => ⟨hignores.locks, hignores.gates⟩⟩

namespace Model

/-- What a cell keeps when the cycle ends. -/
def Cell.stored (cell : Cell) : Word × List Bool :=
  (cell.value, cell.written)

/-- Two transactions that leave the same values and flags in either order, each with one answer.
    The pulses of a cycle are those of its own transaction. -/
structure Commute (state : State) (first second : State → State × Response) : Prop where
  stored : (second (first state).1).1.map Cell.stored = (first (second state).1).1.map Cell.stored
  firstAnswer : (first (second state).1).2 = (first state).2
  secondAnswer : (second (first state).1).2 = (second state).2

variable {model : Model} {state : State} {register other : RegisterLayout} {segment : Segment}
  {address : UInt64} {data strobe : Word}

/-! ### What a write leaves alone -/

section

variable (hregular : model.layout.Regular)

include hregular

theorem write_eq {i : Nat} (hregister : model.layout.registers[i]? = some register) :
    model.write state register.address data strobe =
      ((tick state).modify i (model.writeCell (tick state) register data (model.laneMask strobe)),
        if model.hitsLock (tick state) register && model.lockError then model.errorAnswer
        else .okay) := by
  have hindex : model.indexAt? register.address = some i :=
    (indexAt?_eq_some_iff hregular).mpr ⟨register, hregister, rfl⟩
  simp only [write, hindex, hregister]

theorem getElem?_write_ne {i k : Nat} (hregister : model.layout.registers[i]? = some register)
    (hne : i ≠ k) :
    (model.write state register.address data strobe).1[k]? = (tick state)[k]? := by
  rw [write_eq hregular hregister, List.getElem?_modify]
  simp only [if_neg hne, id_map']

/-- A write leaves the values of the other registers. -/
theorem hasValue_write_iff (hmem : register ∈ model.layout.registers) {ident : String}
    (hident : ident ≠ register.ident) {value : Word} :
    model.HasValue (model.write state register.address data strobe).1 ident value ↔
      model.HasValue state ident value := by
  obtain ⟨i, hregister⟩ := List.mem_iff_getElem?.mp hmem
  rw [← @hasValue_tick_iff model state]
  have hcell {k : Nat} {found : RegisterLayout} (hfound : model.layout.registers[k]? = some found)
      (hname : found.ident = ident) :
      (model.write state register.address data strobe).1[k]? = (tick state)[k]? := by
    refine getElem?_write_ne hregular hregister ?_
    rintro rfl
    rw [hregister] at hfound
    exact hident (Option.some.inj hfound ▸ hname.symm)
  constructor
  · rintro ⟨found, cell, ⟨k, hfound, hafter⟩, hname, hvalue⟩
    exact ⟨found, cell, ⟨k, hfound, by rwa [← hcell hfound hname]⟩, hname, hvalue⟩
  · rintro ⟨found, cell, ⟨k, hfound, hbefore⟩, hname, hvalue⟩
    exact ⟨found, cell, ⟨k, hfound, by rwa [hcell hfound hname]⟩, hname, hvalue⟩

/-- The gates of a segment are judged alike after a write to a register that they do not refer
    to. -/
theorem isLocked_write (hmem : other ∈ model.layout.registers) (hignores : register.Ignores other)
    (hsegment : segment ∈ register.segments) :
    model.isLocked (tick (model.write state other.address data strobe).1) segment =
      model.isLocked (tick state) segment := by
  rw [Bool.eq_iff_iff, isLocked_iff hregular, isLocked_iff hregular, locked_tick_iff,
    locked_tick_iff]
  refine exists_congr fun tap => and_congr_right fun htap => exists_congr fun value => ?_
  rw [hasValue_write_iff hregular hmem (hignores.locks segment hsegment tap htap)]

theorem isUngated_write (hmem : other ∈ model.layout.registers) (hignores : register.Ignores other)
    (hsegment : segment ∈ register.segments) :
    model.isUngated (tick (model.write state other.address data strobe).1) segment =
      model.isUngated (tick state) segment := by
  rw [Bool.eq_iff_iff, isUngated_iff hregular, isUngated_iff hregular]
  refine forall_congr' fun gate => imp_congr_right fun hgate => ?_
  rw [hasValue_tick_iff, hasValue_tick_iff,
    hasValue_write_iff hregular hmem (hignores.gates segment hsegment gate hgate)]

theorem isOpen_write (hmem : other ∈ model.layout.registers) (hignores : register.Ignores other)
    (hsegment : segment ∈ register.segments) (written : Bool) :
    model.isOpen (tick (model.write state other.address data strobe).1) segment written =
      model.isOpen (tick state) segment written := by
  rw [isOpen, isOpen, isLocked_write hregular hmem hignores hsegment,
    isUngated_write hregular hmem hignores hsegment]

theorem hitsLock_write (hmem : other ∈ model.layout.registers)
    (hignores : register.Ignores other) :
    model.hitsLock (tick (model.write state other.address data strobe).1) register =
      model.hitsLock (tick state) register := by
  rw [hitsLock, hitsLock, Bool.eq_iff_iff, List.any_eq_true, List.any_eq_true]
  refine exists_congr fun segment => and_congr_right fun hsegment => ?_
  rw [isLocked_write hregular hmem hignores hsegment]

omit hregular

/-- A write looks at the rest of the state only to tell which segments are open. -/
theorem writeCell_congr {before after : State}
    (hopen : ∀ segment ∈ register.segments, ∀ written,
      model.isOpen after segment written = model.isOpen before segment written)
    (data lanes : Word) (cell : Cell) :
    model.writeCell after register data lanes cell =
      model.writeCell before register data lanes cell := by
  have hprogress : ∀ entry ∈ register.segments.zip cell.written, ∀ progress,
      model.writeSegment after register data lanes progress entry =
        model.writeSegment before register data lanes progress entry := by
    intro entry hentry progress
    rw [writeSegment, writeSegment, hopen entry.1 (List.of_mem_zip hentry).1]
  have hflags : ∀ entry ∈ register.segments.zip cell.written,
      (entry.2 || (entry.1.writtenFlag.isSome && model.isOpen after entry.1 entry.2)) =
        (entry.2 || (entry.1.writtenFlag.isSome && model.isOpen before entry.1 entry.2)) := by
    intro entry hentry
    rw [hopen entry.1 (List.of_mem_zip hentry).1]
  rw [writeCell, writeCell, List.map_congr_left hflags]
  simp only [List.foldl_ext _ _ _ fun progress entry hentry => hprogress entry hentry progress]

end

/-! ### Both orders -/

/-- A cycle starts from what is stored. -/
theorem getElem?_tick_eq (state : State) (i : Nat) :
    (tick state)[i]? =
      ((state[i]?).map Cell.stored).map fun stored => ⟨stored.1, stored.2, 0⟩ := by
  rw [tick, List.getElem?_map, Option.map_map]
  rfl

/-- What is stored at the other positions stays. -/
theorem stored_write_ne (hregular : model.layout.Regular) {i k : Nat}
    (hregister : model.layout.registers[i]? = some register) (hne : i ≠ k) :
    ((model.write state register.address data strobe).1[k]?).map Cell.stored =
      (state[k]?).map Cell.stored := by
  rw [getElem?_write_ne hregular hregister hne, getElem?_tick_eq, Option.map_map]
  exact Option.map_id'

/-- What a write stores comes from what was stored and from which segments are open. -/
theorem stored_write_congr (hregular : model.layout.Regular) {before after : State} {i : Nat}
    (hregister : model.layout.registers[i]? = some register)
    (hstored : (after[i]?).map Cell.stored = (before[i]?).map Cell.stored)
    (hopen : ∀ segment ∈ register.segments, ∀ written,
      model.isOpen (tick after) segment written = model.isOpen (tick before) segment written) :
    ((model.write after register.address data strobe).1[i]?).map Cell.stored =
      ((model.write before register.address data strobe).1[i]?).map Cell.stored := by
  rw [write_eq hregular hregister, write_eq hregular hregister, List.getElem?_modify,
    List.getElem?_modify, getElem?_tick_eq, getElem?_tick_eq, hstored]
  simp only [writeCell_congr hopen]

/-- A write to a register that does not refer to another one stores the same, and is answered
    alike, after a write to the other one. -/
theorem write_after_write (hregular : model.layout.Regular) {i j : Nat} (hne : i ≠ j)
    (hregister : model.layout.registers[i]? = some register)
    (hother : model.layout.registers[j]? = some other) (hignores : register.Ignores other)
    (state : State) (data strobe otherData otherStrobe : Word) :
    let after := (model.write state other.address otherData otherStrobe).1
    ((model.write after register.address data strobe).1[i]?).map Cell.stored =
        ((model.write state register.address data strobe).1[i]?).map Cell.stored ∧
      (model.write after register.address data strobe).2 =
        (model.write state register.address data strobe).2 := by
  have hmem := List.mem_of_getElem? hother
  refine ⟨stored_write_congr hregular hregister (stored_write_ne hregular hother hne.symm)
    fun segment hsegment written => isOpen_write hregular hmem hignores hsegment written, ?_⟩
  rw [write_eq hregular hregister, write_eq hregular hregister,
    hitsLock_write hregular hmem hignores]

/-- Writes to two registers of which neither refers to the other commute. -/
theorem commute_write (hregular : model.layout.Regular) (hne : register ≠ other)
    (hmem : register ∈ model.layout.registers) (hotherMem : other ∈ model.layout.registers)
    (hignores : register.Ignores other) (hback : other.Ignores register)
    (otherData otherStrobe : Word) :
    Commute state (model.write · register.address data strobe)
      (model.write · other.address otherData otherStrobe) := by
  obtain ⟨i, hregister⟩ := List.mem_iff_getElem?.mp hmem
  obtain ⟨j, hother⟩ := List.mem_iff_getElem?.mp hotherMem
  have hij : i ≠ j := by
    rintro rfl
    exact hne (Option.some.inj (hregister.symm.trans hother))
  have hfirst := write_after_write hregular hij hregister hother hignores state data strobe
    otherData otherStrobe
  have hsecond := write_after_write hregular hij.symm hother hregister hback state otherData
    otherStrobe data strobe
  refine ⟨List.ext_getElem? fun k => ?_, hfirst.2, hsecond.2⟩
  rw [List.getElem?_map, List.getElem?_map]
  by_cases hki : i = k
  · subst hki
    rw [hfirst.1]
    exact stored_write_ne hregular hother hij.symm
  · by_cases hkj : j = k
    · subst hkj
      rw [hsecond.1]
      exact (stored_write_ne hregular hregister hij).symm
    · rw [stored_write_ne hregular hother hkj, stored_write_ne hregular hregister hki,
        stored_write_ne hregular hregister hki, stored_write_ne hregular hother hkj]

end Model

/-- Writes to the addresses of distinct registers of a valid register file commute if neither
    register refers to the other one, whatever the registers hold and whatever else gates them. -/
theorem commute_of_ignores (config : Config) (hvalid : (validate config).isValid = true)
    (first second : RegisterLayout) (hfirst : first ∈ (Layout.ofConfig config).registers)
    (hsecond : second ∈ (Layout.ofConfig config).registers) (hne : first ≠ second)
    (hignores : first.Ignores second) (hback : second.Ignores first) (state : Model.State)
    (data strobe otherData otherStrobe : Word) :
    Model.Commute state ((Model.ofConfig config).write · first.address data strobe)
      ((Model.ofConfig config).write · second.address otherData otherStrobe) :=
  Model.commute_write (Validate.wellFormed_of_isValid hvalid).regular hne hfirst hsecond hignores
    hback otherData otherStrobe

/-- A register that takes one write, and one of which two fields pulse and are set. A key and a
    lock hold back both of them. -/
def Config.shared : Config where
  moduleName := "regs"
  byteEnable := true
  registers :=
    [{ name := "KEY", address := some 0 },
      { name := "LOCK", address := some 4, type := .lockField },
      { name := "SERIAL", address := some 8, type := .writeOnce, magic := some ⟨"KEY", 0xa5⟩
        lockedBy := [⟨"LOCK", .bit 0⟩] },
      { name := "EVENTS", address := some 12, magic := some ⟨"KEY", 0xa5⟩
        fields := [{ name := "FIRE", bits := .full 8, type := some .write1Pulse },
          { name := "SEEN", bits := ⟨17, 8, by decide, by decide⟩, type := some .write1Set
            lockedBy := [⟨"LOCK", .bit 1⟩] }] }]
  options := { lockError := true }

namespace Model

/-- The key is in place, and the lock of the seen events is set. -/
def sharedState : State :=
  [⟨0xa5, [false], 0⟩, ⟨2, [false], 0⟩, ⟨0, [false], 0⟩, ⟨0, [false, false], 0⟩]

end Model

/-- The serial number takes its lower byte and the events a pulse and a refusal, in either
    order. -/
theorem commute_of_ignores_shared :
    let model := Model.ofConfig Config.shared
    let serial := (model.write · 8 0x1234 1)
    let events := (model.write · 12 0x0f0f 3)
    (validate Config.shared).isValid = true ∧
      model.Reachable Model.sharedState ∧
      (events (serial Model.sharedState).1).1 =
        [⟨0xa5, [false], 0⟩, ⟨2, [false], 0⟩, ⟨0x34, [true], 0⟩, ⟨0, [false, false], 0xf⟩] ∧
      (events Model.sharedState).2 = .slaveError ∧
      Model.Commute Model.sharedState serial events := by
  intro model serial events
  have hvalid : (validate Config.shared).isValid = true := by decide +kernel
  have hreachable : model.Reachable Model.sharedState := by
    have hstate : (model.write (model.write model.reset 0 0xa5 1).1 4 2 1).1 =
        Model.sharedState := by decide +kernel
    exact hstate ▸ .write 4 2 1 (.write 0 0xa5 1 .reset)
  refine ⟨hvalid, hreachable, by decide +kernel, by decide +kernel, ?_⟩
  exact commute_of_ignores Config.shared hvalid
    (Layout.ofRegister Config.shared (Config.shared.registers[2]))
    (Layout.ofRegister Config.shared (Config.shared.registers[3])) (by decide +kernel)
    (by decide +kernel) (by decide +kernel) (by decide +kernel) (by decide +kernel)
    Model.sharedState 0x1234 1 0x0f0f 3

/-- Closing a lock and writing to the register that it holds do not commute. -/
example :
    let model := Model.ofConfig Config.shared
    ¬ Model.Commute Model.sharedState (model.write · 4 1 1) (model.write · 8 0x1234 1) :=
  fun hcommute => absurd hcommute.stored (by decide +kernel)

end RegisterFile
