import RegisterFile.Proofs.Model.Cycle

/-!
Operations on a register file one after another, with what they answer and what the registers show
after them.
-/

namespace RegisterFile

namespace Model

/-- What can be done with a model. -/
inductive Operation where
  | reset
  | tick
  | write (address : UInt64) (data strobe : Word)
  | read (address : UInt64)
  | hwWrite (stem : String) (data : Word)
  deriving DecidableEq

/-- The state after an operation; a hardware write without an input changes nothing. -/
def perform (model : Model) (state : State) : Operation → State
  | .reset => model.reset
  | .tick => tick state
  | .write address data strobe => (model.write state address data strobe).1
  | .read address => (model.read state address).1
  | .hwWrite stem data => (model.hwWrite? state stem data).getD state

/-- The state after operations from reset. -/
def run (model : Model) (operations : List Operation) : State :=
  operations.foldl model.perform model.reset

/-- What comes back from an operation. -/
inductive Answer where
  | written (response : Response)
  | data (data : Word) (response : Response)
  /-- Whether there is an input of the stem. -/
  | hwWritten (found : Bool)
  | done
  deriving DecidableEq

def answer (model : Model) (state : State) : Operation → Answer
  | .reset => .done
  | .tick => .done
  | .write address data strobe => .written (model.write state address data strobe).2
  | .read address =>
    let (_, data, response) := model.read state address
    .data data response
  | .hwWrite stem data => .hwWritten (model.hwWrite? state stem data).isSome

/-- The answers to operations from a state on. -/
def answers (model : Model) (state : State) : List Operation → List Answer
  | [] => []
  | operation :: rest =>
    model.answer state operation :: model.answers (model.perform state operation) rest

/-- The value and the pulses of the register of a name. -/
def shown? (model : Model) (state : State) (name : String) : Option (Word × Word) :=
  (model.cell? state name).map fun cell => (cell.value, cell.pulse)

variable {model : Model} {state : State}

/-! ### Hardware writes, register by register -/

/-- What a register holds after a hardware write: without an input of the stem, what it did. -/
def drive (register : RegisterLayout) (stem : String) (data : Word) (cell : Cell) : Cell :=
  match hwInput? register stem with
  | some hw =>
    { cell with value := Word.overlay hw.bits.mask cell.value (data.placeAt hw.bits.low) }
  | none => cell

variable {register : RegisterLayout} {cell after : Cell} {stem : String}

theorem hwInput?_eq_some_iff (hstems : model.StemsDistinct)
    (hmem : register ∈ model.layout.registers) {hw : HwField} :
    hwInput? register stem = some hw ↔
      hw ∈ register.hwFields ∧ hw.stem = stem ∧ hw.input = true := by
  refine ⟨hwInput?_eq_some, ?_⟩
  rintro ⟨hhw, rfl, hinput⟩
  obtain ⟨found, hfound⟩ := Option.isSome_iff_exists.mp (isSome_hwInput? hhw hinput)
  obtain ⟨hmemFound, hstem, hfoundInput⟩ := hwInput?_eq_some hfound
  obtain ⟨-, rfl⟩ :=
    hstems register hmem register hmem found hmemFound hw hhw hfoundInput hinput hstem
  exact hfound

theorem hwInput?_eq_none (hnone : ∀ hw ∈ register.hwFields, hw.input = true → hw.stem ≠ stem) :
    hwInput? register stem = none := by
  cases hfound : hwInput? register stem with
  | none => rfl
  | some hw =>
    obtain ⟨hmem, hstem, hinput⟩ := hwInput?_eq_some hfound
    exact absurd hstem (hnone hw hmem hinput)

/-- A hardware write succeeds if some register has an input of its stem. -/
theorem isSome_hwWrite?_iff {data : Word} :
    (model.hwWrite? state stem data).isSome = true ↔
      ∃ register ∈ model.layout.registers, (hwInput? register stem).isSome = true := by
  cases hindex : model.layout.registers.findIdx? fun register =>
      (hwInput? register stem).isSome with
  | none =>
    have hnone := List.findIdx?_eq_none_iff.mp hindex
    simp only [hwWrite?, hindex, Option.bind_eq_bind, Option.bind_none, Option.isSome_none]
    constructor
    · exact fun hfalse => by cases hfalse
    · rintro ⟨register, hmem, hsome⟩
      rwa [hnone register hmem] at hsome
  | some index =>
    obtain ⟨hlt, hsome, -⟩ := List.findIdx?_eq_some_iff_getElem.mp hindex
    obtain ⟨hw, hinput⟩ := Option.isSome_iff_exists.mp hsome
    have hwrite : (model.hwWrite? state stem data).isSome = true := by
      simp [hwWrite?, hindex, List.getElem?_eq_getElem hlt, hinput]
    exact ⟨fun _ => ⟨_, List.getElem_mem hlt, hsome⟩, fun _ => hwrite⟩

theorem holds_hwWrite_drive (hregular : model.layout.Regular) (hstems : model.StemsDistinct)
    {data : Word} (hholds : model.Holds (model.hwWrite state (stem, data)) register after) :
    ∃ cell, model.Holds state register cell ∧ after = drive register stem data cell := by
  rcases @hwWrite_cases model state (stem, data) with ⟨hsame, hnone⟩ |
      ⟨index, target, hw, htarget, hhw, hstem, hinput, hmodify⟩
  · rw [hsame] at hholds
    exact ⟨after, hholds, by rw [drive, hwInput?_eq_none (hnone register hholds.mem)]⟩
  · rw [hmodify] at hholds
    have htargetMem := List.mem_of_getElem? htarget
    obtain ⟨i, cell, hregister, hcell, rfl⟩ := holds_modify hholds
    have hmem := List.mem_of_getElem? hregister
    refine ⟨cell, ⟨i, hregister, hcell⟩, ?_⟩
    split
    · next hindex =>
      subst hindex
      obtain rfl : target = register := Option.some.inj (htarget.symm.trans hregister)
      rw [drive, (hwInput?_eq_some_iff hstems hmem).mpr ⟨hhw, hstem, hinput⟩]
    · next hindex =>
      rw [drive, hwInput?_eq_none]
      intro other hother hotherInput hsame
      obtain ⟨rfl, -⟩ := hstems register hmem target htargetMem other hother hw hhw hotherInput
        hinput (hsame.trans hstem.symm)
      exact hindex (index_unique hregular.identsDistinct htarget hregister rfl)

theorem holds_reset (hholds : model.Holds model.reset register cell) :
    cell = resetCell register := by
  obtain ⟨i, hregister, hcell⟩ := hholds
  rw [reset, List.getElem?_map, hregister] at hcell
  exact (Option.some.inj hcell).symm

/-- A register is found by its name in any case. -/
theorem cell?_eq_cellOf? {config : Config} (hregular : (Layout.ofConfig config).Regular)
    (hfits : (ofConfig config).Fits state) (name : String) :
    (ofConfig config).cell? state name = (ofConfig config).cellOf? state (ident name) := by
  unfold cell?
  cases hposition : (ofConfig config).layout.position? name with
  | none => rfl
  | some index =>
    obtain ⟨hlt, hname, -⟩ := List.findIdx?_eq_some_iff_getElem.mp hposition
    have hstate : index < state.length := by
      rw [hfits.length]
      exact hlt
    have hholds : (ofConfig config).Holds state _ state[index] :=
      ⟨index, List.getElem?_eq_getElem hlt, List.getElem?_eq_getElem hstate⟩
    obtain ⟨register, -, hregister⟩ := List.mem_map.mp hholds.mem
    have hident : ((ofConfig config).layout.registers[index]).ident = ident name := by
      rw [← beq_iff_eq.mp hname, ← hregister]
      rfl
    rw [(cellOf?_eq_some_iff hregular).mpr ⟨_, hholds, hident⟩]
    exact List.getElem?_eq_getElem hstate

end Model

/-- After reset a declared register holds its reset value. -/
theorem Config.WellFormed.cell?_reset {config : Config} (hwf : config.WellFormed)
    {register : Register} (hmem : register ∈ config.registers) :
    (Model.ofConfig config).cell? (Model.ofConfig config).reset register.name =
      some (Model.resetCell (Layout.ofRegister config register)) := by
  have hfits : (Model.ofConfig config).Fits (Model.ofConfig config).reset :=
    Model.fits_reset hwf.regular
  have hlayout : Layout.ofRegister config register ∈ (Model.ofConfig config).layout.registers :=
    List.mem_map_of_mem hmem
  obtain ⟨cell, hholds⟩ := hfits.exists_holds hlayout
  obtain rfl := Model.holds_reset hholds
  rw [Model.cell?_eq_cellOf? hwf.regular hfits]
  exact (Model.cellOf?_eq_some_iff hwf.regular).mpr ⟨_, hholds, rfl⟩

end RegisterFile
