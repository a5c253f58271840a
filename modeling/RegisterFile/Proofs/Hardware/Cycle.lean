import RegisterFile.Proofs.Hardware.Signals
import RegisterFile.Proofs.Model.Cycle

/-!
Cycles of a register file, as the model and as the generated module see them. The module sees a
cycle by the signals of its bus interface and its hardware ports; constants, error wires and the
read multiplexer follow within the cycle, and the update block makes the step to the next one.
-/

namespace RegisterFile

open Verilog

namespace Hardware

variable {config : Config} {widths : Widths} {e : Env}

/-! ### What the module is given -/

/-- Hardware enables are high exactly for the writes of a cycle, which bring their data. -/
def BringsHardware (config : Config) (widths : Widths) (e : Env) (writes : List (String × Word)) :
    Prop :=
  ∀ register ∈ (Layout.ofConfig config).registers, ∀ hw ∈ register.hwFields, hw.input = true →
    e.value widths s!"{hw.stem}_we" = flag (writes.any fun write => write.1 == hw.stem) ∧
    ∀ write ∈ writes, write.1 = hw.stem →
      e.value widths s!"{hw.stem}_i" = write.2 &&& Word.lowMask hw.bits.width

/-- The bus and the hardware ports bring a cycle to the module. -/
def Presents (config : Config) (widths : Widths) (e : Env) : Cycle → Prop
  | .write address data strobe =>
    config.interface.signals.writeEnable.holds widths e = true ∧
      config.interface.signals.readEnable.holds widths e = false ∧
      e.value widths config.interface.signals.writeAddr = BitVec.ofNat 128 address.toNat ∧
      e.value widths config.interface.signals.writeData =
        data &&& Word.lowMask config.dataWidth.toNat ∧
      (∀ name ∈ config.interface.signals.writeStrobe,
        e.value widths name = strobe &&& Word.lowMask config.byteLanes) ∧
      BringsHardware config widths e []
  | .read address =>
    config.interface.signals.writeEnable.holds widths e = false ∧
      config.interface.signals.readEnable.holds widths e = true ∧
      e.value widths config.interface.signals.readAddr = BitVec.ofNat 128 address.toNat ∧
      BringsHardware config widths e []
  | .idle =>
    config.interface.signals.writeEnable.holds widths e = false ∧
      config.interface.signals.readEnable.holds widths e = false ∧
      BringsHardware config widths e []
  | .hardware writes =>
    config.interface.signals.writeEnable.holds widths e = false ∧
      config.interface.signals.readEnable.holds widths e = false ∧
      BringsHardware config widths e writes

instance (writes : List (String × Word)) : Decidable (BringsHardware config widths e writes) :=
  inferInstanceAs (Decidable (∀ register ∈ (Layout.ofConfig config).registers,
    ∀ hw ∈ register.hwFields, hw.input = true → _ ∧ _))

instance (cycle : Cycle) : Decidable (Presents config widths e cycle) :=
  match cycle with
  | .write _ _ _ | .read _ | .idle | .hardware _ => by
    dsimp only [Presents]
    infer_instance

/-- The bus brings a write to the module, whatever else the cycle brings. -/
structure BringsWrite (config : Config) (widths : Widths) (e : Env) (address : UInt64)
    (data strobe : Word) : Prop where
  enable : config.interface.signals.writeEnable.holds widths e = true
  addr : e.value widths config.interface.signals.writeAddr = BitVec.ofNat 128 address.toNat
  data : e.value widths config.interface.signals.writeData =
    data &&& Word.lowMask config.dataWidth.toNat
  strobe : ∀ name ∈ config.interface.signals.writeStrobe,
    e.value widths name = strobe &&& Word.lowMask config.byteLanes

theorem bringsWrite_of_presents {address : UInt64} {data strobe : Word}
    (hpresents : Presents config widths e (.write address data strobe)) :
    BringsWrite config widths e address data strobe := by
  obtain ⟨henable, -, haddr, hdata, hstrobe, -⟩ := hpresents
  exact ⟨henable, haddr, hdata, hstrobe⟩

/-! ### What the module does -/

/-- The items that follow the state within a cycle: address constants, error wires and the read
    multiplexer of the bus. -/
def statusItems (config : Config) : List Item :=
  (Layout.ofConfig config).registers.map (addressConstant config) ++
    errorWires config (Layout.ofConfig config) ++
    [readMux config (Layout.ofConfig config) (busReadPort config)]

/-- The values of a cycle are at rest. -/
def Settled (config : Config) (widths : Widths) (e : Env) : Prop :=
  ∀ item ∈ statusItems config, item.Holds widths e

instance : Decidable (Settled config widths e) :=
  inferInstanceAs (Decidable (∀ item ∈ statusItems config, item.Holds widths e))

/-- The body of the update block. -/
def updateBody (config : Config) : Stmt :=
  .branch (Reset.ofSync config.syncReset).active (resetBody (Layout.ofConfig config))
    (.block (clockBody config (Layout.ofConfig config)))

/-- What the update block assigns has, in the second of two cycles, the values after its step in
    the first. -/
def StepsTo (config : Config) (widths : Widths) (e e' : Env) : Prop :=
  ∀ name ∈ (updateBody config).targets,
    e'.value widths name = ((updateBody config).step widths e).value widths name

instance (e' : Env) : Decidable (StepsTo config widths e e') :=
  inferInstanceAs (Decidable (∀ name ∈ (updateBody config).targets,
    e'.value widths name = ((updateBody config).step widths e).value widths name))

/-- The values of a module through cycles from reset on. -/
structure Run (config : Config) (widths : Widths) (cycles : List Cycle) (values : Nat → Env) :
    Prop where
  reset : ∃ e, (Reset.ofSync config.syncReset).active.holds widths e = true ∧
    StepsTo config widths e (values 0)
  released : ∀ t < cycles.length,
    (Reset.ofSync config.syncReset).active.holds widths (values t) = false
  presents : ∀ (t : Nat) (ht : t < cycles.length), Presents config widths (values t) cycles[t]
  settled : ∀ t < cycles.length, Settled config widths (values t)
  steps : ∀ t < cycles.length, StepsTo config widths (values t) (values (t + 1))

/-- The update block of a module with registers runs that body. -/
theorem updateBlock_mem_items (config : Config) (provenance : Provenance)
    (hregisters : (Layout.ofConfig config).registers ≠ []) :
    .always (Reset.ofSync config.syncReset).event (updateBody config) ∈
      (ofConfig config provenance).items := by
  have hupdates : updates config (Layout.ofConfig config) =
      [.always (Reset.ofSync config.syncReset).event (updateBody config)] :=
    if_neg (by simpa using hregisters)
  have hblock : .always (Reset.ofSync config.syncReset).event (updateBody config) ∈
      updates config (Layout.ofConfig config) :=
    hupdates ▸ List.mem_singleton_self _
  simp only [ofConfig, items, List.mem_append]
  exact Or.inl (Or.inl (Or.inl (Or.inr (mem_titled hblock))))

/-- What follows the state within a cycle is part of the module. -/
theorem statusItems_subset (config : Config) (provenance : Provenance) :
    statusItems config ⊆ (ofConfig config provenance).items := by
  intro item hitem
  simp only [statusItems, List.mem_append, List.mem_singleton] at hitem
  rcases hitem with (haddress | herror) | rfl
  · obtain ⟨register, hmem, rfl⟩ := List.mem_map.mp haddress
    exact addressConstant_mem_items hmem
  · exact errorWires_mem_items herror
  · have hmux : readMux config (Layout.ofConfig config) (busReadPort config) ∈
        (busReadPort config :: extraReadPorts config).flatMap
          (readMuxSection config (Layout.ofConfig config)) :=
      List.mem_flatMap.mpr ⟨_, List.mem_cons_self, mem_titled (List.mem_singleton_self _)⟩
    simp only [ofConfig, items, List.mem_append]
    exact Or.inl (Or.inl (Or.inr hmux))

/-! ### What the module shows -/

/-- The signals of a register show what it holds. -/
structure CellShown (widths : Widths) (e : Env) (register : RegisterLayout) (cell : Model.Cell) :
    Prop where
  storage : e.value widths (storageName register.ident) = cell.value
  flags : ∀ segment written, (segment, written) ∈ register.segments.zip cell.written →
    ∀ name, segment.writtenFlag = some name → e.value widths name = flag written
  /-- A pulse port shows the pulses of its segment, right-aligned. -/
  pulses : ∀ segment ∈ register.segments, ∀ name, segment.pulsePort = some name →
    e.value widths name =
      cell.pulse.takeFrom segment.bits.low &&& Word.lowMask segment.bits.width

/-- The signals of all registers show what they hold. -/
def Shows (widths : Widths) (e : Env) (model : Model) (state : Model.State) : Prop :=
  ∀ register cell, model.Holds state register cell → CellShown widths e register cell

/-- A transfer is answered as the model answers it. -/
def Answers (config : Config) (widths : Widths) (e : Env) (state : Model.State) : Cycle → Prop
  | .write address data strobe =>
    e.value widths Bus.writeError =
      flag (((Model.ofConfig config).write state address data strobe).2 == .slaveError)
  | .read address =>
    e.value widths config.interface.signals.readData =
        ((Model.ofConfig config).read state address).2.1 ∧
      e.value widths Bus.readError =
        flag (((Model.ofConfig config).read state address).2.2 == .slaveError)
  | _ => True

end Hardware

end RegisterFile
