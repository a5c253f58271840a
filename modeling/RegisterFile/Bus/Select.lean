import RegisterFile.Bus.Apb
import RegisterFile.Bus.AxiLite
import RegisterFile.Bus.Custom
import RegisterFile.Bus.Ocp
import RegisterFile.Bus.Wishbone
import RegisterFile.Layout

/-!
The bus interface of a register file, and the findings that every protocol shares: unusual data
widths, its options, and register types that need care on it.
-/

namespace RegisterFile

/-- The bus interface of the register file's protocol. -/
def Config.interface (config : Config) : Bus.Interface :=
  match config.protocol with
  | .apb => Bus.Apb.interface config
  | .axi4Lite => Bus.AxiLite.interface config
  | .wishbone => Bus.Wishbone.interface config
  | .ocp => Bus.Ocp.interface config
  | .custom => Bus.Custom.interface config

/-- Where a segment is: its field, or the whole register. -/
def Segment.location (segment : Segment) (register : String) : Location :=
  match segment.field with
  | some field => .field register field
  | none => .register register

namespace Bus

/-- The finding about a data width that the protocol is not normally used with. -/
def widthFindings (config : Config) : Report :=
  let preferred := config.interface.preferredWidths
  if preferred.isEmpty || preferred.contains config.dataWidth.toNat then []
  else
    let widths := "[" ++ ", ".intercalate (preferred.map toString) ++ "]"
    [.warning .nonStandardDataWidth .config
      (s!"{config.protocol.displayName} is normally used with a data width of {widths}, " ++
        s!"got {config.dataWidth.toNat}")]

/-- The finding about a segment whose type needs care. -/
def segmentFinding? (config : Config) (register : RegisterLayout) (segment : Segment) :
    Option Diagnostic :=
  (config.interface.conflict segment.type.behavior).map fun reason =>
    .warning .typeProtocolMismatch (segment.location register.name)
      s!"{segment.type.name} on {config.protocol.displayName}: {reason}"

/-- The findings about the segments of a layout on the protocol of a register file. -/
def layoutFindings (config : Config) (layout : Layout) : Report :=
  widthFindings config ++ config.interface.findings ++
    layout.registers.flatMap fun register =>
      register.segments.filterMap (segmentFinding? config register)

/-- The findings about a register file on its protocol. -/
def findings (config : Config) : Report :=
  layoutFindings config (Layout.ofConfig config)

end Bus

end RegisterFile
