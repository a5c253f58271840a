import RegisterFile.Proofs.Model.Write

/-!
Cycles of the model. A cycle is a bus write, a bus read, nothing at all or a round of hardware
writes; what a register holds after it is given from what it held before.
-/

namespace RegisterFile

/-- What is asked of a register file in one clock cycle. -/
inductive Cycle where
  | write (address : UInt64) (data strobe : Word)
  | read (address : UInt64)
  | idle
  /-- Hardware writes, each through the input of a stem. -/
  | hardware (writes : List (String × Word))

namespace Model

/-- A hardware write, passed over if there is no such input. -/
def hwWrite (model : Model) (state : State) (write : String × Word) : State :=
  (model.hwWrite? state write.1 write.2).getD state

/-- Hardware writes one after another. -/
def hwWrites (model : Model) (state : State) (writes : List (String × Word)) : State :=
  writes.foldl model.hwWrite state

/-- What the registers hold after a cycle. -/
def after (model : Model) (state : State) : Cycle → State
  | .write address data strobe => (model.write state address data strobe).1
  | .read address => (model.read state address).1
  | .idle => tick state
  | .hardware writes => tick (model.hwWrites state writes)

/-- What the registers hold after cycles from reset. -/
def afterAll (model : Model) (cycles : List Cycle) : State :=
  cycles.foldl model.after model.reset

/-- Inputs of hardware are told apart by their stems. -/
def StemsDistinct (model : Model) : Prop :=
  ∀ register ∈ model.layout.registers, ∀ other ∈ model.layout.registers,
    ∀ hw ∈ register.hwFields, ∀ otherHw ∈ other.hwFields, hw.input = true →
      otherHw.input = true → hw.stem = otherHw.stem → register = other ∧ hw = otherHw

/-- What a register holds after hardware writes. -/
structure CellDriven (register : RegisterLayout) (writes : List (String × Word))
    (before after : Cell) : Prop where
  /-- A field with an input takes what is written to its stem. -/
  driven : ∀ hw ∈ register.hwFields, hw.input = true → ∀ i ∈ hw.bits,
    (∃ data, (hw.stem, data) ∈ writes ∧
        after.value.getLsbD i = data.getLsbD (i - hw.bits.low)) ∨
      (∀ data, (hw.stem, data) ∉ writes) ∧ after.value.getLsbD i = before.value.getLsbD i
  kept : ∀ i, (∀ hw ∈ register.hwFields, hw.input = true → i ∉ hw.bits) →
    after.value.getLsbD i = before.value.getLsbD i
  written : after.written = before.written

/-- Segments that the bus does not write do not pulse. -/
def Quiet (model : Model) (state : State) : Prop :=
  ∀ register cell, model.Holds state register cell → ∀ segment ∈ register.segments,
    segment.swWrite = false → ∀ i ∈ segment.bits, cell.pulse.getLsbD i = false

variable {model : Model} {state : State} {register : RegisterLayout} {cell after : Cell}

/-! ### Reads and writes -/

theorem holds_write (hmodel : model.Regular) (hfits : model.Fits state) {address : UInt64}
    {data strobe : Word}
    (hholds : model.Holds (model.write state address data strobe).1 register after) :
    ∃ cell, model.Holds state register cell ∧
      (register.address ≠ address → after = { cell with pulse := 0 }) ∧
      (register.address = address →
        model.CellWritten state register cell data strobe after) := by
  obtain ⟨hlength, helsewhere, hhere, -⟩ := written_write hmodel hfits address data strobe
  obtain ⟨i, hregister, hafter⟩ := hholds
  have hi : i < state.length := by
    obtain ⟨hi, -⟩ := List.getElem?_eq_some_iff.mp hafter
    rwa [hlength.1, ← hlength.2]
  have hcell := List.getElem?_eq_getElem hi
  refine ⟨state[i], ⟨i, hregister, hcell⟩, fun haddress => ?_, fun haddress => ?_⟩
  · have hkept := helsewhere i register _ hregister hcell haddress
    exact Option.some.inj (hafter.symm.trans hkept)
  · obtain ⟨cell', hcell', hwritten⟩ := hhere i register _ hregister hcell haddress
    rwa [Option.some.inj (hafter.symm.trans hcell')]

theorem holds_modify {index : Nat} {change : Cell → Cell}
    (hholds : model.Holds (state.modify index change) register after) :
    ∃ (i : Nat) (cell : Cell), model.layout.registers[i]? = some register ∧
      state[i]? = some cell ∧ after = if index = i then change cell else cell := by
  obtain ⟨i, hregister, hafter⟩ := hholds
  rw [List.getElem?_modify, Option.map_eq_map, Option.map_eq_some_iff] at hafter
  obtain ⟨cell, hcell, rfl⟩ := hafter
  exact ⟨i, cell, hregister, hcell, rfl⟩

/-- A read of an address that no register has. -/
theorem read_unknown {address : UInt64}
    (hnone : ∀ register ∈ model.layout.registers, register.address ≠ address) :
    model.read state address = (tick state, 0, model.errorAnswer) := by
  simp only [read, indexAt?_eq_none_iff.mpr hnone]

/-- A read of the address of a register. -/
theorem read_known (hregular : model.layout.Regular) {i : Nat}
    (hregister : model.layout.registers[i]? = some register) (hcell : state[i]? = some cell) :
    model.read state register.address =
      ((tick state).modify i fun cell =>
          { cell with value := register.segments.foldl (afterRead register) cell.value },
        cell.value &&& register.readMask, .okay) := by
  have hindex : model.indexAt? register.address = some i :=
    (indexAt?_eq_some_iff hregular).mpr ⟨register, hregister, rfl⟩
  have htick := getElem?_tick hcell
  simp only [read, hindex, hregister, htick]
  rw [set_eq_modify (fun cell =>
    { cell with value := register.segments.foldl (afterRead register) cell.value }) htick]

theorem read_answer (hregular : model.layout.Regular)
    (hholds : model.Holds state register cell) :
    (model.read state register.address).2 = (cell.value &&& register.readMask, .okay) := by
  obtain ⟨i, hregister, hcell⟩ := hholds
  rw [read_known hregular hregister hcell]

theorem holds_read (hregular : model.layout.Regular) (hfits : model.Fits state)
    {address : UInt64} (hholds : model.Holds (model.read state address).1 register after) :
    ∃ cell, model.Holds state register cell ∧
      (register.address ≠ address → after = { cell with pulse := 0 }) ∧
      (register.address = address →
        after = ⟨register.segments.foldl (afterRead register) cell.value, cell.written, 0⟩) := by
  by_cases hknown : ∃ target ∈ model.layout.registers, target.address = address
  · obtain ⟨target, htarget, rfl⟩ := hknown
    obtain ⟨index, hindex⟩ := List.mem_iff_getElem?.mp htarget
    have hlt : index < state.length := by
      rw [hfits.length]
      exact (List.getElem?_eq_some_iff.mp hindex).1
    rw [read_known hregular hindex (List.getElem?_eq_getElem hlt)] at hholds
    obtain ⟨i, ticked, hregister, hticked, rfl⟩ := holds_modify hholds
    rw [tick, List.getElem?_map, Option.map_eq_some_iff] at hticked
    obtain ⟨cell, hcell, rfl⟩ := hticked
    refine ⟨cell, ⟨i, hregister, hcell⟩, fun haddress => ?_, fun haddress => ?_⟩
    · have hne : index ≠ i := by
        rintro rfl
        obtain rfl : target = register := Option.some.inj (hindex.symm.trans hregister)
        exact haddress rfl
      exact if_neg hne
    · obtain rfl := index_unique hregular.addressesDistinct hindex hregister haddress.symm
      obtain rfl : target = register := Option.some.inj (hindex.symm.trans hregister)
      exact if_pos rfl
  · have hnone : ∀ target ∈ model.layout.registers, target.address ≠ address :=
      fun target htarget haddress => hknown ⟨target, htarget, haddress⟩
    rw [read_unknown hnone] at hholds
    obtain ⟨cell, hcell, rfl⟩ := holds_tick_iff.mp hholds
    exact ⟨cell, hcell, fun _ => rfl, fun haddress => absurd haddress (hnone register hholds.mem)⟩

/-! ### Hardware writes -/

theorem CellDriven.refl (register : RegisterLayout) (cell : Cell) :
    CellDriven register [] cell cell where
  driven _ _ _ _ _ := Or.inr ⟨fun _ => List.not_mem_nil, rfl⟩
  kept _ _ := rfl
  written := rfl

theorem CellDriven.append {first second : List (String × Word)} {before between : Cell}
    (hfirst : CellDriven register first before between)
    (hsecond : CellDriven register second between after) :
    CellDriven register (first ++ second) before after where
  driven := by
    intro hw hhw hinput i hin
    rcases hsecond.driven hw hhw hinput i hin with ⟨data, hdata, hbit⟩ | ⟨hnone, hkept⟩
    · exact Or.inl ⟨data, List.mem_append_right _ hdata, hbit⟩
    · rcases hfirst.driven hw hhw hinput i hin with ⟨data, hdata, hbit⟩ | ⟨hnoneFirst, hkeptFirst⟩
      · exact Or.inl ⟨data, List.mem_append_left _ hdata, hkept.trans hbit⟩
      · refine Or.inr ⟨fun data hdata => ?_, hkept.trans hkeptFirst⟩
        rcases List.mem_append.mp hdata with hdata | hdata
        · exact hnoneFirst data hdata
        · exact hnone data hdata
  kept i hmiss := (hsecond.kept i hmiss).trans (hfirst.kept i hmiss)
  written := hsecond.written.trans hfirst.written

theorem hwInput?_eq_some {stem : String} {hw : HwField} (hsome : hwInput? register stem = some hw) :
    hw ∈ register.hwFields ∧ hw.stem = stem ∧ hw.input = true := by
  have hfound := List.find?_some hsome
  simp only [Bool.and_eq_true, beq_iff_eq] at hfound
  exact ⟨List.mem_of_find?_eq_some hsome, hfound.1, hfound.2⟩

theorem isSome_hwInput? {hw : HwField} (hhw : hw ∈ register.hwFields) (hinput : hw.input = true) :
    (hwInput? register hw.stem).isSome = true := by
  rw [hwInput?, List.find?_isSome]
  exact ⟨hw, hhw, by simp [hinput]⟩

/-- A hardware write goes to the register of its stem, or nowhere. -/
theorem hwWrite_cases (write : String × Word) :
    (model.hwWrite state write = state ∧ ∀ register ∈ model.layout.registers,
        ∀ hw ∈ register.hwFields, hw.input = true → hw.stem ≠ write.1) ∨
      ∃ (index : Nat) (target : RegisterLayout) (hw : HwField),
        model.layout.registers[index]? = some target ∧ hw ∈ target.hwFields ∧
        hw.stem = write.1 ∧ hw.input = true ∧
        model.hwWrite state write = state.modify index fun cell =>
          { cell with
            value := Word.overlay hw.bits.mask cell.value (write.2.placeAt hw.bits.low) } := by
  obtain ⟨stem, data⟩ := write
  cases hindex : model.layout.registers.findIdx? fun register =>
      (hwInput? register stem).isSome with
  | none =>
    refine Or.inl ⟨?_, ?_⟩
    · simp [hwWrite, hwWrite?, hindex]
    · rintro register hmem hw hhw hinput rfl
      have hfalse := List.findIdx?_eq_none_iff.mp hindex register hmem
      rw [isSome_hwInput? hhw hinput] at hfalse
      cases hfalse
  | some index =>
    obtain ⟨hlt, hsome, -⟩ := List.findIdx?_eq_some_iff_getElem.mp hindex
    obtain ⟨hw, hinput⟩ := Option.isSome_iff_exists.mp hsome
    obtain ⟨hhw, hstem, hin⟩ := hwInput?_eq_some hinput
    have htarget := List.getElem?_eq_getElem hlt
    refine Or.inr ⟨index, _, hw, htarget, hhw, hstem, hin, ?_⟩
    simp [hwWrite, hwWrite?, hindex, htarget, hinput]

theorem cellDriven_overlay (hregister : register.Regular) {hw : HwField}
    (hhw : hw ∈ register.hwFields) (hstem : ∀ other ∈ register.hwFields, other.input = true →
      other.stem = hw.stem → other = hw) (hinput : hw.input = true) (data : Word) (cell : Cell) :
    CellDriven register [(hw.stem, data)] cell
      { cell with
        value := Word.overlay hw.bits.mask cell.value (data.placeAt hw.bits.low) } := by
  have hmiss {i : Nat} (hout : i ∉ hw.bits) :
      (Word.overlay hw.bits.mask cell.value (data.placeAt hw.bits.low)).getLsbD i =
        cell.value.getLsbD i := by
    rw [Word.getLsbD_overlay, if_neg]
    intro hset
    exact hout ((BitRange.getLsbD_mask_iff (BitVec.lt_of_getLsbD hset)).mp hset)
  refine ⟨?_, fun i hnone => hmiss (hnone hw hhw hinput), rfl⟩
  intro other hother hotherInput i hin
  by_cases hsame : other.stem = hw.stem
  · obtain rfl := hstem other hother hotherInput hsame
    have hi := hregister.hwInside other hother i hin
    have hword := hregister.width_le
    obtain ⟨hlow, -⟩ := BitRange.mem_iff.mp hin
    refine Or.inl ⟨data, List.mem_singleton_self _, ?_⟩
    rw [Word.getLsbD_overlay, (BitRange.getLsbD_mask_iff (by omega)).mpr hin, if_pos rfl,
      Word.getLsbD_placeAt, decide_eq_true (by omega), decide_eq_true hlow]
    rfl
  · refine Or.inr ⟨fun value hvalue => ?_, hmiss fun hhwIn => ?_⟩
    · exact hsame (congrArg Prod.fst (List.mem_singleton.mp hvalue))
    · exact hsame (congrArg HwField.stem (hregister.hw_eq hother hhw hin hhwIn))

theorem holds_hwWrite (hregular : model.layout.Regular) (hstems : model.StemsDistinct)
    (write : String × Word) (hholds : model.Holds (model.hwWrite state write) register after) :
    ∃ cell, model.Holds state register cell ∧ CellDriven register [write] cell after := by
  have huntouched {cell : Cell} (hother : ∀ hw ∈ register.hwFields, hw.input = true →
      hw.stem ≠ write.1) : CellDriven register [write] cell cell := by
    refine ⟨fun hw hhw hinput i _ => Or.inr ⟨fun data hdata => ?_, rfl⟩, fun _ _ => rfl, rfl⟩
    exact hother hw hhw hinput (congrArg Prod.fst (List.mem_singleton.mp hdata))
  rcases model.hwWrite_cases write with ⟨hsame, hnone⟩ |
      ⟨index, target, hw, htarget, hhw, hstem, hinput, hmodify⟩
  · rw [hsame] at hholds
    exact ⟨after, hholds, huntouched (hnone register hholds.mem)⟩
  · rw [hmodify] at hholds
    have htargetMem := List.mem_of_getElem? htarget
    obtain ⟨i, cell, hregister, hcell, rfl⟩ := holds_modify hholds
    have hmem := List.mem_of_getElem? hregister
    refine ⟨cell, ⟨i, hregister, hcell⟩, ?_⟩
    split
    · next hindex =>
      subst hindex
      obtain rfl : target = register := Option.some.inj (htarget.symm.trans hregister)
      obtain ⟨stem, data⟩ := write
      obtain rfl : hw.stem = stem := hstem
      apply cellDriven_overlay (hregular.registers target hmem) hhw ?_ hinput
      intro other hother hotherInput hsame
      exact (hstems target hmem target hmem other hother hw hhw hotherInput hinput hsame).2
    · next hindex =>
      apply huntouched
      intro other hother hotherInput hsame
      obtain ⟨rfl, -⟩ := hstems register hmem target htargetMem other hother hw hhw hotherInput
        hinput (hsame.trans hstem.symm)
      exact hindex (index_unique hregular.identsDistinct htarget hregister rfl)

theorem holds_hwWrites (hregular : model.layout.Regular) (hstems : model.StemsDistinct)
    (writes : List (String × Word))
    (hholds : model.Holds (model.hwWrites state writes) register after) :
    ∃ cell, model.Holds state register cell ∧ CellDriven register writes cell after := by
  induction writes generalizing state with
  | nil => exact ⟨after, hholds, CellDriven.refl register after⟩
  | cons write rest ih =>
    obtain ⟨between, hbetween, hrest⟩ := ih hholds
    obtain ⟨cell, hcell, hfirst⟩ := holds_hwWrite hregular hstems write hbetween
    exact ⟨cell, hcell, hfirst.append hrest⟩

/-! ### Runs -/

theorem fits_hwWrites (hregular : model.layout.Regular) (hfits : model.Fits state)
    (writes : List (String × Word)) : model.Fits (model.hwWrites state writes) := by
  induction writes generalizing state with
  | nil => exact hfits
  | cons write rest ih =>
    apply ih
    unfold hwWrite
    cases hafter : model.hwWrite? state write.1 write.2 with
    | none => exact hfits
    | some after => exact hfits.hwWrite hregular hafter

theorem fits_after (hregular : model.layout.Regular) (hfits : model.Fits state) (cycle : Cycle) :
    model.Fits (model.after state cycle) := by
  cases cycle with
  | write address data strobe => exact hfits.write address data strobe
  | read address => exact hfits.read address
  | idle => exact hfits.tick
  | hardware writes => exact (fits_hwWrites hregular hfits writes).tick

theorem quiet_reset : model.Quiet model.reset := by
  rintro register cell ⟨i, hregister, hcell⟩ segment _ _ i _
  rw [reset, List.getElem?_map, hregister] at hcell
  obtain rfl := Option.some.inj hcell
  exact Word.getLsbD_zero i

theorem quiet_tick : model.Quiet (tick state) := by
  intro register cell hholds segment _ _ i _
  obtain ⟨before, -, rfl⟩ := holds_tick_iff.mp hholds
  exact Word.getLsbD_zero i

/-- Whatever happens in a cycle, only segments that the bus writes pulse after it. -/
theorem quiet_after (hmodel : model.Regular) (hfits : model.Fits state) (cycle : Cycle) :
    model.Quiet (model.after state cycle) := by
  cases cycle with
  | write address data strobe =>
    intro register after hholds segment hsegment hreadOnly i hin
    obtain ⟨cell, hcell, helsewhere, hhere⟩ := holds_write hmodel hfits hholds
    by_cases haddress : register.address = address
    · apply ((hhere haddress).kept i ?_).2
      rintro other ⟨written, hentry, hadmits, hotherIn, -⟩
      have hregister := hmodel.layout.registers register hholds.mem
      have hsame := hregister.segment_eq hsegment (List.of_mem_zip hentry).1 hin hotherIn
      rw [hsame, hadmits.writable] at hreadOnly
      cases hreadOnly
    · rw [helsewhere haddress]
      exact Word.getLsbD_zero i
  | read address =>
    intro register after hholds segment hsegment hreadOnly i hin
    obtain ⟨cell, hcell, helsewhere, hhere⟩ := holds_read hmodel.layout hfits hholds
    by_cases haddress : register.address = address
    · rw [hhere haddress]
      exact Word.getLsbD_zero i
    · rw [helsewhere haddress]
      exact Word.getLsbD_zero i
  | idle => exact quiet_tick
  | hardware writes => exact quiet_tick

end Model

end RegisterFile
