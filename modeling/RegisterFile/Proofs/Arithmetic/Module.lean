import RegisterFile.Proofs.Arithmetic.Update

/-!
The Verilog module of an accepted register file is calculated without a stop. Besides the update
block, numbers are calculated for the widths of ports, for the masks of the read multiplexers and
for the parts of registers that surrounding hardware sees.
-/

namespace RegisterFile.Hardware

open Checked Verilog

/-! ### Ports -/

def fieldPortsM (field : HwField) : Checked (List Port) := do
  let width ← field.bits.widthM
  return (if field.output then [.output s!"{field.stem}_o" (some width)] else []) ++
    (if field.input then
      [.input s!"{field.stem}_i" (some width), .input s!"{field.stem}_we"] else [])

def pulsePortM (segment : Segment) : Checked (Option Port) :=
  segment.pulsePort.mapM fun pulse => do
    return .outputReg pulse (some (← segment.bits.widthM))

def registerPortsM (register : RegisterLayout) : Checked (List Port) := do
  return (← flatMapM register.hwFields fieldPortsM) ++
    (← filterMapM register.segments pulsePortM)

def portsM (config : Config) (layout : Layout) : Checked (List Port) := do
  return [.input "clk", .input (Reset.ofSync config.syncReset).port] ++ config.interface.ports ++
    (extraPorts config.writePorts).flatMap (writePortPorts config) ++
    (extraPorts config.readPorts).flatMap (readPortPorts config) ++
    (← flatMapM layout.registers registerPortsM)

/-! ### The body -/

def updatesM (config : Config) (layout : Layout) : Checked (List Item) :=
  if layout.registers.isEmpty then pure [] else do return [← updateBlockM config layout]

def readValueM (config : Config) (register : RegisterLayout) : Checked Expr := do
  let storage := Expr.signal (storageName register.ident)
  let mask ← register.readMaskM
  let full ← register.fullMaskM
  return if mask = 0 then .hex config.dataWidth.toNat 0
    else if mask = full then storage
    else .and storage (.hex register.width.toNat mask)

def readMuxM (config : Config) (layout : Layout) (port : ReadPort) : Checked Item := do
  let data : Ref := ⟨port.data, .whole⟩
  let error : Ref := ⟨readDecodeError, .whole⟩
  let arms ← layout.registers.mapM fun register => do
    return (addressName register, data, ← readValueM config register)
  return .always .change <| .ofList <|
    [.blocking data (.hex config.dataWidth.toNat 0)] ++
      (if port.reportsErrors then [.blocking error (.bit false)] else []) ++
      [.select ⟨port.addr, .whole⟩ arms
        (if port.reportsErrors then some (error, .bit true) else none)]

def readMuxSectionM (config : Config) (layout : Layout) (port : ReadPort) :
    Checked (List Item) := do
  return titled s!"Read mux: {port.data}" [← readMuxM config layout port]

def fieldOutputM (register : RegisterLayout) (field : HwField) : Checked (Option Item) :=
  if field.output then do
    return some (.assign 0 s!"{field.stem}_o"
      (.ref (← storageBitsM register field.bits.high field.bits.low)))
  else pure none

def fieldOutputsM (layout : Layout) : Checked (List Item) :=
  flatMapM layout.registers fun register => filterMapM register.hwFields (fieldOutputM register)

def itemsM (config : Config) (layout : Layout) : Checked (List Item) := do
  return titled "Register addresses" (layout.registers.map (addressConstant config)) ++
    titled "Bus interface state" config.interface.declarations ++
    titled "Register storage" (layout.registers.flatMap storage) ++
    titled "Bus error reporting" (errorWires config layout) ++
    titled "Register updates" (← updatesM config layout) ++
    (← flatMapM (busReadPort config :: extraReadPorts config) (readMuxSectionM config layout)) ++
    titled s!"{config.protocol.displayName} handshake" config.interface.handshake ++
    titled "Hardware field outputs" (← fieldOutputsM layout)

/-- The Verilog module, from a layout that is calculated first. -/
def ofConfigM (config : Config) (provenance : Provenance) : Checked Verilog.Module := do
  let layout ← Layout.ofConfigM config
  return { banner := banner config provenance
           name := config.moduleName
           ports := ← portsM config layout
           items := ← itemsM config layout }

def textM (config : Config) (provenance : Provenance) : Checked String := do
  return (← ofConfigM config provenance).text

variable {config : Config} {layout : Layout} {register : RegisterLayout}

theorem registerPortsM_eq (hregister : register.Regular) :
    registerPortsM register = pure (registerPorts register) := by
  have hfields : ∀ hw ∈ register.hwFields, fieldPortsM hw = pure (fieldPorts hw) := by
    intro hw hhw
    rw [fieldPortsM, BitRange.widthM_eq (hregister.hw_high_lt hhw), pure_bind, fieldPorts]
  have hpulses : ∀ segment ∈ register.segments,
      pulsePortM segment = pure (pulsePort? segment) := by
    intro segment hsegment
    refine optionMapM_eq fun pulse _ => ?_
    rw [BitRange.widthM_eq (hregister.segment_high_lt hsegment), pure_bind]
  rw [registerPortsM, flatMapM_eq hfields, pure_bind, filterMapM_eq hpulses, pure_bind,
    registerPorts]

theorem portsM_eq (hlayout : layout.Regular) :
    portsM config layout = pure (ports config layout) := by
  rw [portsM, flatMapM_eq fun register hmem => registerPortsM_eq (hlayout.registers register hmem),
    pure_bind, ports]

theorem updatesM_eq (hlayout : layout.Regular) :
    updatesM config layout = pure (updates config layout) := by
  unfold updatesM updates
  split
  · rfl
  · rw [updateBlockM_eq hlayout, pure_bind]

theorem readValueM_eq (hregister : register.Regular) :
    readValueM config register = pure (readValue config register) := by
  rw [readValueM, RegisterLayout.readMaskM_eq hregister, pure_bind, RegisterLayout.fullMaskM_eq,
    pure_bind, readValue]

theorem readMuxSectionM_eq (hlayout : layout.Regular) (port : ReadPort) :
    readMuxSectionM config layout port = pure (readMuxSection config layout port) := by
  have harms : ∀ register ∈ layout.registers,
      (do return (addressName register, (⟨port.data, .whole⟩ : Ref),
        ← readValueM config register) : Checked (String × Ref × Expr)) =
      pure (addressName register, ⟨port.data, .whole⟩, readValue config register) := by
    intro register hmem
    rw [readValueM_eq (hlayout.registers register hmem), pure_bind]
  rw [readMuxSectionM, readMuxM, mapM_eq_pure harms, pure_bind, pure_bind, readMuxSection, readMux]

theorem fieldOutputsM_eq (hlayout : layout.Regular) :
    fieldOutputsM layout = pure (fieldOutputs layout) := by
  refine flatMapM_eq fun register hmem => filterMapM_eq fun hw hhw => ?_
  have hhigh := (hlayout.registers register hmem).hw_high_lt hhw
  unfold fieldOutputM fieldOutput?
  split
  · rw [storageBitsM_eq hhigh, pure_bind]
  · rfl

theorem itemsM_eq (hlayout : layout.Regular) :
    itemsM config layout = pure (items config layout) := by
  rw [itemsM, updatesM_eq hlayout, pure_bind,
    flatMapM_eq fun port _ => readMuxSectionM_eq hlayout port, pure_bind,
    fieldOutputsM_eq hlayout, pure_bind, items]

/-- The Verilog text of a well-formed register file is calculated without a stop. -/
theorem textM_eq (hwf : config.WellFormed) (provenance : Provenance) :
    textM config provenance = pure (text config provenance) := by
  have hlayout := hwf.regular
  rw [textM, ofConfigM, hwf.layoutM_eq, pure_bind, portsM_eq hlayout, pure_bind,
    itemsM_eq hlayout, pure_bind, pure_bind, text, ofConfig]

end RegisterFile.Hardware
