import RegisterFile.Hardware.Status
import RegisterFile.Hardware.Update
import RegisterFile.Provenance
import RegisterFile.Verilog.Printer

/-!
The Verilog module of a register file: a banner, the ports, the address constants, the state of
the bus interface, the storage, the error wires, the update block, the read multiplexers, the bus
handshake and the outputs to surrounding hardware, in this order.
-/

namespace RegisterFile.Hardware

open Verilog

/-- A rule across the banner. -/
def bannerRule : String :=
  String.ofList (List.replicate 77 '-')

/-- How the banner describes a reset. -/
def resetName : Reset → String
  | .synchronous => "synchronous active-high"
  | .asynchronous => "asynchronous active-low"

/-- The comment in front of the module. -/
def banner (config : Config) (provenance : Provenance) : List String :=
  [bannerRule,
    s!"{config.moduleName}: {config.protocol.displayName} register file",
    s!"Generated by {provenance.tool}",
    s!"Timestamp:     {provenance.timestamp}",
    s!"Config digest: sha256:{provenance.digest}",
    s!"Data width {config.dataWidth.toNat}, address width {config.addrWidth.toNat}, " ++
      s!"{resetName (.ofSync config.syncReset)} reset",
    "Do not edit by hand.",
    bannerRule]

/-- The ports of a further write port. -/
def writePortPorts (config : Config) (i : Nat) : List Port :=
  [.input s!"wp{i}_en", .input s!"wp{i}_addr" (some config.addrWidth.toNat),
    .input s!"wp{i}_wdata" (some config.dataWidth.toNat)] ++
  (if config.byteEnable then [.input s!"wp{i}_strb" (some config.byteLanes)] else [])

/-- The ports of a further read port. -/
def readPortPorts (config : Config) (i : Nat) : List Port :=
  [.input s!"rp{i}_en", .input s!"rp{i}_addr" (some config.addrWidth.toNat),
    .outputReg s!"rp{i}_rdata" (some config.dataWidth.toNat)]

/-- The ports of a field that surrounding hardware reaches. -/
def fieldPorts (field : HwField) : List Port :=
  (if field.output then [.output s!"{field.stem}_o" (some field.bits.width)] else []) ++
  (if field.input then
    [.input s!"{field.stem}_i" (some field.bits.width), .input s!"{field.stem}_we"] else [])

/-- The pulse output of a segment, if it has one. -/
def pulsePort? (segment : Segment) : Option Port :=
  segment.pulsePort.map fun pulse => .outputReg pulse (some segment.bits.width)

/-- The ports of a register to surrounding hardware. -/
def registerPorts (register : RegisterLayout) : List Port :=
  register.hwFields.flatMap fieldPorts ++ register.segments.filterMap pulsePort?

def ports (config : Config) (layout : Layout) : List Port :=
  [.input "clk", .input (Reset.ofSync config.syncReset).port] ++ config.interface.ports ++
    (extraPorts config.writePorts).flatMap (writePortPorts config) ++
    (extraPorts config.readPorts).flatMap (readPortPorts config) ++
    layout.registers.flatMap registerPorts

/-- Items under a comment and followed by a blank line; nothing at all if there are none. -/
def titled (title : String) : List Item → List Item
  | [] => []
  | items => .comment title :: (items ++ [.blank])

/-- The constant of a register's address. -/
def addressConstant (config : Config) (register : RegisterLayout) : Item :=
  .localparam 0 (addressName register)
    (.hex config.addrWidth.toNat (BitVec.ofNat 128 register.address.toNat))

/-- The storage of a register and the flags of its segments. -/
def storage (register : RegisterLayout) : List Item :=
  .reg 1 (some register.width.toNat) (storageName register.ident) ::
    register.segments.filterMap fun segment => segment.writtenFlag.map (Item.reg 1 none)

/-- The update block, if there is a register to update. -/
def updates (config : Config) (layout : Layout) : List Item :=
  if layout.registers.isEmpty then [] else [updateBlock config layout]

/-- The read multiplexer of a port under its comment. -/
def readMuxSection (config : Config) (layout : Layout) (port : ReadPort) : List Item :=
  titled s!"Read mux: {port.data}" [readMux config layout port]

/-- The value of a field for surrounding hardware, if it is given out. -/
def fieldOutput? (register : RegisterLayout) (field : HwField) : Option Item :=
  if field.output then
    some (.assign 0 s!"{field.stem}_o"
      (.ref (storageBits register field.bits.high field.bits.low)))
  else none

/-- The outputs to surrounding hardware. -/
def fieldOutputs (layout : Layout) : List Item :=
  layout.registers.flatMap fun register => register.hwFields.filterMap (fieldOutput? register)

/-- The body of the module. -/
def items (config : Config) (layout : Layout) : List Item :=
  titled "Register addresses" (layout.registers.map (addressConstant config)) ++
    titled "Bus interface state" config.interface.declarations ++
    titled "Register storage" (layout.registers.flatMap storage) ++
    titled "Bus error reporting" (errorWires config layout) ++
    titled "Register updates" (updates config layout) ++
    (busReadPort config :: extraReadPorts config).flatMap (readMuxSection config layout) ++
    titled s!"{config.protocol.displayName} handshake" config.interface.handshake ++
    titled "Hardware field outputs" (fieldOutputs layout)

/-- The module of a register file. -/
def ofConfig (config : Config) (provenance : Provenance) : Verilog.Module :=
  let layout := Layout.ofConfig config
  { banner := banner config provenance
    name := config.moduleName
    ports := ports config layout
    items := items config layout }

/-- The Verilog text of a register file. -/
def text (config : Config) (provenance : Provenance) : String :=
  (ofConfig config provenance).text

end RegisterFile.Hardware
