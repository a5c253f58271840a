import RegisterFile.Proofs.Model.Operations

/-!
Bits that reads do not return stay inside. States that differ only in such bits of a register to
which no lock and no magic gate refers get the same answers to whatever is done with them, and they
go on differing only there: writes and reads make every bit from the bit itself.
-/

namespace RegisterFile

namespace Model

/-- Bits of a register that its reads do not return. -/
def Hides (model : Model) (hidden : RegisterLayout) (k i : Nat) : Prop :=
  model.layout.registers[k]? = some hidden ∧ hidden.readMask.getLsbD i = false

/-- Cells that agree, but for some of the bits of their values. -/
structure Cell.AgreesBut (unseen : Nat → Prop) (cell other : Cell) : Prop where
  value : ∀ i, ¬ unseen i → cell.value.getLsbD i = other.value.getLsbD i
  written : cell.written = other.written
  pulse : cell.pulse = other.pulse

/-- States that differ only in bits of a register that its reads do not return. -/
structure DiffersUnseen (model : Model) (hidden : RegisterLayout) (state other : State) :
    Prop where
  length : state.length = other.length
  cells : ∀ (k : Nat) (cell otherCell : Cell), state[k]? = some cell →
    other[k]? = some otherCell → cell.AgreesBut (model.Hides hidden k) otherCell

/-- No lock and no magic gate refers to a register. -/
structure Unreferenced (model : Model) (hidden : RegisterLayout) : Prop where
  locks : ∀ register ∈ model.layout.registers, ∀ segment ∈ register.segments,
    ∀ tap ∈ segment.locks, tap.register ≠ hidden.ident
  gates : ∀ register ∈ model.layout.registers, ∀ segment ∈ register.segments,
    ∀ gate ∈ segment.gates, gate.register ≠ hidden.ident

variable {model : Model} {hidden register : RegisterLayout} {state other : State}
  {unseen : Nat → Prop} {cell otherCell : Cell}

/-! ### Cells -/

theorem Cell.AgreesBut.symm (hcells : cell.AgreesBut unseen otherCell) :
    otherCell.AgreesBut unseen cell where
  value i hi := (hcells.value i hi).symm
  written := hcells.written.symm
  pulse := hcells.pulse.symm

theorem Cell.AgreesBut.refl (unseen : Nat → Prop) (cell : Cell) : cell.AgreesBut unseen cell :=
  ⟨fun _ _ => rfl, rfl, rfl⟩

/-- Masks of both values keep what agrees. -/
theorem Cell.AgreesBut.and_eq (hcells : cell.AgreesBut unseen otherCell) {mask : Word}
    (hmask : ∀ i, unseen i → mask.getLsbD i = false) :
    cell.value &&& mask = otherCell.value &&& mask := by
  apply BitVec.eq_of_getLsbD_eq
  intro i _
  rw [BitVec.getLsbD_and, BitVec.getLsbD_and]
  by_cases hunseen : unseen i
  · rw [hmask i hunseen, Bool.and_false, Bool.and_false]
  · rw [hcells.value i hunseen]

theorem Cell.AgreesBut.overlay (hcells : cell.AgreesBut unseen otherCell) (mask new : Word) :
    Cell.AgreesBut unseen { cell with value := Word.overlay mask cell.value new }
      { otherCell with value := Word.overlay mask otherCell.value new } where
  value i hi := by rw [Word.getLsbD_overlay, Word.getLsbD_overlay, hcells.value i hi]
  written := hcells.written
  pulse := hcells.pulse

theorem Cell.AgreesBut.afterRead (hcells : cell.AgreesBut unseen otherCell)
    (segments : List Segment) :
    Cell.AgreesBut unseen
      { cell with value := segments.foldl (Model.afterRead register) cell.value }
      { otherCell with value := segments.foldl (Model.afterRead register) otherCell.value } := by
  refine ⟨?_, hcells.written, hcells.pulse⟩
  intro i hi
  have hvalue := hcells.value i hi
  generalize cell.value = value at hvalue
  generalize otherCell.value = otherValue at hvalue
  induction segments generalizing value otherValue with
  | nil => exact hvalue
  | cons segment rest ih =>
    apply ih
    simp only [Model.afterRead]
    split <;> simp only [BitVec.getLsbD_and, BitVec.getLsbD_or, hvalue]

/-- A write makes every bit from the bit itself, and pulses from the data alone. -/
theorem foldl_writeSegment_agrees (data lanes : Word) (entries : List (Segment × Bool))
    (hopen : ∀ entry ∈ entries,
      model.isOpen state entry.1 entry.2 = model.isOpen other entry.1 entry.2)
    (progress otherProgress : Progress)
    (hvalue : ∀ i, ¬ unseen i → progress.value.getLsbD i = otherProgress.value.getLsbD i)
    (hpulse : progress.pulse = otherProgress.pulse) :
    let after := entries.foldl (model.writeSegment state register data lanes) progress
    let otherAfter := entries.foldl (model.writeSegment other register data lanes) otherProgress
    (∀ i, ¬ unseen i → after.value.getLsbD i = otherAfter.value.getLsbD i) ∧
      after.pulse = otherAfter.pulse := by
  induction entries generalizing progress otherProgress with
  | nil => exact ⟨hvalue, hpulse⟩
  | cons entry rest ih =>
    obtain ⟨hhere, hrest⟩ := List.forall_mem_cons.mp hopen
    cases hentry : model.isOpen other entry.1 entry.2 with
    | false =>
      simp only [List.foldl_cons, writeSegment_of_not_open hentry,
        writeSegment_of_not_open (hhere.trans hentry)]
      exact ih hrest progress otherProgress hvalue hpulse
    | true =>
      simp only [List.foldl_cons, writeSegment_of_open hentry,
        writeSegment_of_open (hhere.trans hentry)]
      apply ih hrest
      · intro i hi
        rw [getLsbD_through_value, getLsbD_through_value, hvalue i hi]
      · rw [Progress.through, Progress.through, hpulse]

theorem Cell.AgreesBut.writeCell (hcells : cell.AgreesBut unseen otherCell)
    (hopen : ∀ segment ∈ register.segments, ∀ written,
      model.isOpen state segment written = model.isOpen other segment written)
    (data lanes : Word) :
    Cell.AgreesBut unseen (model.writeCell state register data lanes cell)
      (model.writeCell other register data lanes otherCell) := by
  have hentries : ∀ entry ∈ register.segments.zip otherCell.written,
      model.isOpen state entry.1 entry.2 = model.isOpen other entry.1 entry.2 :=
    fun entry hentry => hopen entry.1 (List.of_mem_zip hentry).1 entry.2
  obtain ⟨hvalue, hpulse⟩ := foldl_writeSegment_agrees data lanes _ hentries ⟨cell.value, 0⟩
    ⟨otherCell.value, 0⟩ hcells.value rfl
  rw [Model.writeCell, Model.writeCell, hcells.written]
  refine ⟨hvalue, List.map_congr_left ?_, hpulse⟩
  rintro ⟨segment, written⟩ hentry
  simp only [hopen segment (List.of_mem_zip hentry).1 written]

/-! ### States -/

namespace DiffersUnseen

theorem symm (hdiffers : model.DiffersUnseen hidden state other) :
    model.DiffersUnseen hidden other state where
  length := hdiffers.length.symm
  cells k _ _ hcell hother := (hdiffers.cells k _ _ hother hcell).symm

theorem refl (model : Model) (hidden : RegisterLayout) (state : State) :
    model.DiffersUnseen hidden state state where
  length := rfl
  cells k cell otherCell hcell hother := by
    obtain rfl := Option.some.inj (hcell.symm.trans hother)
    exact .refl _ cell

/-- Any other value with the same readable bits makes such a difference. -/
theorem of_and_eq {k : Nat} (hregister : model.layout.registers[k]? = some hidden) {value : Word}
    (hvalue : ∀ cell, state[k]? = some cell →
      cell.value &&& hidden.readMask = value &&& hidden.readMask) :
    model.DiffersUnseen hidden state (state.modify k fun cell => { cell with value }) where
  length := by rw [List.length_modify]
  cells := by
    intro j cell otherCell hcell hother
    rw [List.getElem?_modify, hcell] at hother
    obtain rfl := Option.some.inj hother
    split
    · next hposition =>
      subst hposition
      refine ⟨fun i hseen => ?_, rfl, rfl⟩
      have hreadable : hidden.readMask.getLsbD i = true := by
        rw [← Bool.not_eq_false]
        exact fun hmasked => hseen ⟨hregister, hmasked⟩
      have hbits := congrArg (fun word => word.getLsbD i) (hvalue cell hcell)
      simpa only [BitVec.getLsbD_and, hreadable, Bool.and_true] using hbits
    · exact .refl _ cell

theorem modify (hdiffers : model.DiffersUnseen hidden state other) {index : Nat}
    {change otherChange : Cell → Cell}
    (hchange : ∀ cell otherCell : Cell, cell.AgreesBut (model.Hides hidden index) otherCell →
      (change cell).AgreesBut (model.Hides hidden index) (otherChange otherCell)) :
    model.DiffersUnseen hidden (state.modify index change) (other.modify index otherChange) where
  length := by rw [List.length_modify, List.length_modify, hdiffers.length]
  cells := by
    intro k after otherAfter hafter hotherAfter
    rw [List.getElem?_modify, Option.map_eq_map, Option.map_eq_some_iff] at hafter hotherAfter
    obtain ⟨cell, hcell, rfl⟩ := hafter
    obtain ⟨otherCell, hotherCell, rfl⟩ := hotherAfter
    have hcells := hdiffers.cells k cell otherCell hcell hotherCell
    split
    · next hindex =>
      subst hindex
      exact hchange cell otherCell hcells
    · exact hcells

theorem tick (hdiffers : model.DiffersUnseen hidden state other) :
    model.DiffersUnseen hidden (Model.tick state) (Model.tick other) where
  length := by rw [Model.tick, Model.tick, List.length_map, List.length_map, hdiffers.length]
  cells := by
    intro k after otherAfter hafter hotherAfter
    rw [Model.tick, List.getElem?_map, Option.map_eq_some_iff] at hafter hotherAfter
    obtain ⟨cell, hcell, rfl⟩ := hafter
    obtain ⟨otherCell, hotherCell, rfl⟩ := hotherAfter
    exact { hdiffers.cells k cell otherCell hcell hotherCell with pulse := rfl }

theorem exists_cell (hdiffers : model.DiffersUnseen hidden state other) {k : Nat}
    (hcell : state[k]? = some cell) : ∃ otherCell, other[k]? = some otherCell := by
  obtain ⟨hk, -⟩ := List.getElem?_eq_some_iff.mp hcell
  rw [hdiffers.length] at hk
  exact ⟨other[k], List.getElem?_eq_getElem hk⟩

/-! ### Gates -/

theorem hasValue (hdiffers : model.DiffersUnseen hidden state other) {ident : String}
    (hident : ident ≠ hidden.ident) {value : Word} (hvalue : model.HasValue state ident value) :
    model.HasValue other ident value := by
  obtain ⟨register, cell, ⟨k, hregister, hcell⟩, rfl, rfl⟩ := hvalue
  obtain ⟨otherCell, hother⟩ := hdiffers.exists_cell hcell
  refine ⟨register, otherCell, ⟨k, hregister, hother⟩, rfl, ?_⟩
  apply BitVec.eq_of_getLsbD_eq
  intro i _
  refine ((hdiffers.cells k cell otherCell hcell hother).value i ?_).symm
  rintro ⟨hhidden, -⟩
  obtain rfl := Option.some.inj (hregister.symm.trans hhidden)
  exact hident rfl

theorem hasValue_iff (hdiffers : model.DiffersUnseen hidden state other) {ident : String}
    (hident : ident ≠ hidden.ident) {value : Word} :
    model.HasValue state ident value ↔ model.HasValue other ident value :=
  ⟨hdiffers.hasValue hident, hdiffers.symm.hasValue hident⟩

section

variable (hregular : model.layout.Regular) (hunreferenced : model.Unreferenced hidden)
  (hdiffers : model.DiffersUnseen hidden state other)

section

variable (hmem : register ∈ model.layout.registers) {segment : Segment}
  (hsegment : segment ∈ register.segments)

include hregular hunreferenced hdiffers hmem hsegment

theorem isLocked_eq : model.isLocked state segment = model.isLocked other segment := by
  rw [Bool.eq_iff_iff, isLocked_iff hregular, isLocked_iff hregular]
  refine exists_congr fun tap => and_congr_right fun htap => exists_congr fun value => ?_
  rw [hdiffers.hasValue_iff (hunreferenced.locks register hmem segment hsegment tap htap)]

theorem isUngated_eq : model.isUngated state segment = model.isUngated other segment := by
  rw [Bool.eq_iff_iff, isUngated_iff hregular, isUngated_iff hregular]
  refine forall_congr' fun gate => imp_congr_right fun hgate => ?_
  exact hdiffers.hasValue_iff (hunreferenced.gates register hmem segment hsegment gate hgate)

theorem isOpen_eq (written : Bool) :
    model.isOpen state segment written = model.isOpen other segment written := by
  rw [isOpen, isOpen, hdiffers.isLocked_eq hregular hunreferenced hmem hsegment,
    hdiffers.isUngated_eq hregular hunreferenced hmem hsegment]

end

/-! ### Operations -/

include hregular hunreferenced hdiffers

theorem write (address : UInt64) (data strobe : Word) :
    (model.write state address data strobe).2 = (model.write other address data strobe).2 ∧
      model.DiffersUnseen hidden (model.write state address data strobe).1
        (model.write other address data strobe).1 := by
  have hticked := hdiffers.tick
  cases hindex : model.indexAt? address with
  | none =>
    simp only [Model.write, hindex]
    exact ⟨trivial, hticked⟩
  | some index =>
    cases hregister : model.layout.registers[index]? with
    | none =>
      simp only [Model.write, hindex, hregister]
      exact ⟨trivial, hticked⟩
    | some register =>
      have hmem := List.mem_of_getElem? hregister
      have hlocks : model.hitsLock (Model.tick state) register =
          model.hitsLock (Model.tick other) register := by
        rw [hitsLock, hitsLock, Bool.eq_iff_iff, List.any_eq_true, List.any_eq_true]
        refine exists_congr fun segment => and_congr_right fun hsegment => ?_
        rw [hticked.isLocked_eq hregular hunreferenced hmem hsegment]
      simp only [Model.write, hindex, hregister, hlocks, true_and]
      refine hticked.modify fun cell otherCell hcells => hcells.writeCell ?_ data _
      exact fun segment hsegment => hticked.isOpen_eq hregular hunreferenced hmem hsegment

omit hregular hunreferenced in
theorem read (address : UInt64) :
    (model.read state address).2 = (model.read other address).2 ∧
      model.DiffersUnseen hidden (model.read state address).1 (model.read other address).1 := by
  have hticked := hdiffers.tick
  cases hindex : model.indexAt? address with
  | none =>
    simp only [Model.read, hindex]
    exact ⟨trivial, hticked⟩
  | some index =>
    cases hregister : model.layout.registers[index]? with
    | none =>
      simp only [Model.read, hindex, hregister]
      exact ⟨trivial, hticked⟩
    | some register =>
      cases hcell : (Model.tick state)[index]? with
      | none =>
        have hother : (Model.tick other)[index]? = none := by
          rwa [List.getElem?_eq_none_iff, ← hticked.length, ← List.getElem?_eq_none_iff]
        simp only [Model.read, hindex, hregister, hcell, hother]
        exact ⟨trivial, hticked⟩
      | some cell =>
        obtain ⟨otherCell, hother⟩ := hticked.exists_cell hcell
        have hcells := hticked.cells index cell otherCell hcell hother
        -- Only the data of the hidden register is masked by what hides the difference.
        have hdata : cell.value &&& register.readMask = otherCell.value &&& register.readMask := by
          apply hcells.and_eq
          rintro i ⟨hhidden, hbit⟩
          obtain rfl := Option.some.inj (hregister.symm.trans hhidden)
          exact hbit
        simp only [Model.read, hindex, hregister, hcell, hother, hdata, true_and]
        rw [set_eq_modify (fun cell =>
            { cell with value := register.segments.foldl (afterRead register) cell.value }) hcell,
          set_eq_modify (fun cell =>
            { cell with value := register.segments.foldl (afterRead register) cell.value }) hother]
        exact hticked.modify fun cell otherCell hcells => hcells.afterRead _

omit hregular hunreferenced in
theorem hwWrite (stem : String) (data : Word) :
    (model.hwWrite? state stem data).isSome = (model.hwWrite? other stem data).isSome ∧
      model.DiffersUnseen hidden ((model.hwWrite? state stem data).getD state)
        ((model.hwWrite? other stem data).getD other) := by
  refine ⟨by rw [Bool.eq_iff_iff, isSome_hwWrite?_iff, isSome_hwWrite?_iff], ?_⟩
  cases hindex : model.layout.registers.findIdx? fun register =>
      (hwInput? register stem).isSome with
  | none => simpa [hwWrite?, hindex] using hdiffers
  | some index =>
    obtain ⟨hlt, hsome, -⟩ := List.findIdx?_eq_some_iff_getElem.mp hindex
    obtain ⟨hw, hinput⟩ := Option.isSome_iff_exists.mp hsome
    simp only [hwWrite?, hindex, List.getElem?_eq_getElem hlt, hinput, Option.bind_eq_bind,
      Option.bind_some, Option.pure_def, Option.getD_some]
    exact hdiffers.modify fun cell otherCell hcells => hcells.overlay _ _

/-- An operation gets one answer from both states, and they go on differing unseen. -/
theorem perform (operation : Operation) :
    model.answer state operation = model.answer other operation ∧
      model.DiffersUnseen hidden (model.perform state operation)
        (model.perform other operation) := by
  cases operation with
  | reset => exact ⟨rfl, refl model hidden model.reset⟩
  | tick => exact ⟨rfl, hdiffers.tick⟩
  | write address data strobe =>
    obtain ⟨hresponse, hafter⟩ := hdiffers.write hregular hunreferenced address data strobe
    exact ⟨congrArg Answer.written hresponse, hafter⟩
  | read address =>
    obtain ⟨hanswer, hafter⟩ := hdiffers.read address
    exact ⟨congrArg (fun answer : Word × Response => Answer.data answer.1 answer.2) hanswer, hafter⟩
  | hwWrite stem data =>
    obtain ⟨hfound, hafter⟩ := hdiffers.hwWrite stem data
    exact ⟨congrArg Answer.hwWritten hfound, hafter⟩

theorem performAll (operations : List Operation) :
    model.answers state operations = model.answers other operations ∧
      model.DiffersUnseen hidden (operations.foldl model.perform state)
        (operations.foldl model.perform other) := by
  induction operations generalizing state other with
  | nil => exact ⟨rfl, hdiffers⟩
  | cons operation rest ih =>
    obtain ⟨hanswer, hafter⟩ := hdiffers.perform hregular hunreferenced operation
    obtain ⟨hanswers, hlast⟩ := ih hafter
    exact ⟨by rw [answers, answers, hanswer, hanswers], hlast⟩

end

end DiffersUnseen

end Model

/-! ### Register files -/

/-- What no register names, no segment refers to. -/
theorem Config.WellFormed.unreferenced {config : Config} (hwf : config.WellFormed)
    {hidden : Register} (hhidden : hidden ∈ config.registers)
    (hunnamed : ∀ register ∈ config.registers, ¬ register.Names hidden.name) :
    (Model.ofConfig config).Unreferenced (Layout.ofRegister config hidden) := by
  have hname {register : Register} (hmem : register ∈ config.registers)
      (hident : ident register.name = ident hidden.name) : register.name = hidden.name := by
    rw [List.inj_on_of_nodup_map hwf.registersDistinct hmem hhidden hident]
  constructor
  · intro layout hlayout segment hsegment tap htap hident
    obtain ⟨register, hmem, rfl⟩ := List.mem_map.mp hlayout
    obtain ⟨lock, hlock, hsome⟩ :=
      List.mem_filterMap.mp ((locks_of_mem_segments hsegment).1 tap htap)
    obtain ⟨locker, hlocker, hlockName, htapIdent⟩ := Layout.exists_locker hsome
    refine hunnamed register hmem (Or.inl ⟨lock, hlock, ?_⟩)
    rw [← hlockName, hname hlocker (htapIdent.symm.trans hident)]
  · intro layout hlayout segment hsegment gate hgate hident
    obtain ⟨register, hmem, rfl⟩ := List.mem_map.mp hlayout
    obtain ⟨magic, hmagic, hsome⟩ := (locks_of_mem_segments hsegment).2 gate hgate
    obtain ⟨source, hsource, hsourceName, hgateIdent⟩ := Layout.exists_source hsome
    refine hunnamed register hmem (Or.inr ⟨magic, hmagic, ?_⟩)
    rw [← hsourceName, hname hsource (hgateIdent.symm.trans hident)]

/-- Bits of a register that reads do not return stay inside, if no lock and no magic gate names the
    register: from states that differ in nothing else, whatever is done is answered alike and leaves
    states that differ in nothing else. -/
theorem answers_eq_of_differsUnseen (config : Config) (hvalid : (validate config).isValid = true)
    {hidden : Register} (hhidden : hidden ∈ config.registers)
    (hunnamed : ∀ register ∈ config.registers, ¬ register.Names hidden.name)
    {state other : Model.State}
    (hdiffers : (Model.ofConfig config).DiffersUnseen (Layout.ofRegister config hidden) state other)
    (operations : List Model.Operation) :
    (Model.ofConfig config).answers state operations =
        (Model.ofConfig config).answers other operations ∧
      (Model.ofConfig config).DiffersUnseen (Layout.ofRegister config hidden)
        (operations.foldl (Model.ofConfig config).perform state)
        (operations.foldl (Model.ofConfig config).perform other) := by
  have hwf := Validate.wellFormed_of_isValid hvalid
  exact hdiffers.performAll hwf.regular (hwf.unreferenced hhidden hunnamed) operations

/-- A token that reads do not return, next to a count that a read clears. -/
def Register.key : Register where
  name := "KEY"
  address := some 0
  fields :=
    [{ name := "TOKEN", bits := .full 8, type := some .writeOnly },
      { name := "COUNT", bits := ⟨13, 8, by decide, by decide⟩, type := some .readClean }]

/-- The token, a lock and what the lock guards. -/
def Config.secret : Config where
  moduleName := "regs"
  registers :=
    [.key, { name := "LOCK", address := some 4, type := .lockField },
      { name := "DATA", address := some 8, lockedBy := [⟨"LOCK", .bit 0⟩] }]

/-- Reset leaves the token at zero; the answers are the same with another one. -/
theorem answers_eq_of_differsUnseen_secret :
    (validate Config.secret).isValid = true ∧ Register.key ∈ Config.secret.registers ∧
      (∀ register ∈ Config.secret.registers, ¬ register.Names Register.key.name) ∧
      (Model.ofConfig Config.secret).DiffersUnseen (Layout.ofRegister Config.secret .key)
        (Model.ofConfig Config.secret).reset
        ((Model.ofConfig Config.secret).reset.modify 0 fun cell => { cell with value := 0x5a }) ∧
      (Model.ofConfig Config.secret).answers
          ((Model.ofConfig Config.secret).reset.modify 0 fun cell => { cell with value := 0x5a })
          [.read 0, .write 4 1 0, .write 8 3 0, .read 8, .write 0 0x17 0, .hwWrite "count" 3,
            .read 0] =
        [.data 0 .okay, .written .okay, .written .okay, .data 0 .okay, .written .okay,
          .hwWritten false, .data 0 .okay] := by
  have hvalid : (validate Config.secret).isValid = true := by decide +kernel
  have hhidden : Register.key ∈ Config.secret.registers := List.mem_cons_self
  have hunnamed : ∀ register ∈ Config.secret.registers, ¬ register.Names Register.key.name := by
    simp [Config.secret, Register.key, Register.Names, Register.allLocks, Register.allMagic]
  have hdiffers : (Model.ofConfig Config.secret).DiffersUnseen
      (Layout.ofRegister Config.secret .key) (Model.ofConfig Config.secret).reset
      ((Model.ofConfig Config.secret).reset.modify 0 fun cell => { cell with value := 0x5a }) := by
    refine .of_and_eq rfl fun cell hcell => ?_
    obtain rfl := Option.some.inj hcell
    decide +kernel
  have hanswers := (answers_eq_of_differsUnseen Config.secret hvalid hhidden hunnamed hdiffers
    [.read 0, .write 4 1 0, .write 8 3 0, .read 8, .write 0 0x17 0, .hwWrite "count" 3,
      .read 0]).1
  exact ⟨hvalid, hhidden, hunnamed, hdiffers, hanswers ▸ by decide +kernel⟩

end RegisterFile
