import RegisterFile.Hardware.Gate

/-!
The block that updates the registers. At a reset every register takes its reset value. Otherwise
hardware writes come first, then the bus writes, segment by segment with the first port in front,
and the effects of reads last; of two assignments to one bit the later one holds.
-/

namespace RegisterFile.Hardware

open Verilog

/-- Zero for a signal of `width` bits. -/
def zero (width : Nat) : Expr :=
  .hex width 0

/-- The reset of the flag and the pulse output of a segment. -/
def resetSegment (segment : Segment) : List Stmt :=
  (segment.writtenFlag.map fun flag => Stmt.store flag (.bit false)).toList ++
    (segment.pulsePort.map fun pulse => Stmt.store pulse (zero segment.bits.width)).toList

def resetRegister (register : RegisterLayout) : List Stmt :=
  .store (storageName register.ident) (.hex register.width.toNat register.reset) ::
    register.segments.flatMap resetSegment

/-- The write of surrounding hardware to a field. -/
def hardwareWrite (register : RegisterLayout) (field : HwField) : Stmt :=
  .when (.signal s!"{field.stem}_we")
    (.nonblocking 0 (storageBits register field.bits.high field.bits.low)
      (.signal s!"{field.stem}_i"))

/-- The writes of surrounding hardware to a register. -/
def hardwareWrites (register : RegisterLayout) : List Stmt :=
  (register.hwFields.filter HwField.input).map (hardwareWrite register)

/-- Bits that one byte lane brings. -/
structure Piece where
  lane : Nat
  high : Nat
  low : Nat
  deriving DecidableEq, Repr

/-- The bits of a range that a byte lane brings, if any. -/
def piece? (bits : BitRange) (lane : Nat) : Option Piece :=
  let low := max bits.low (lane * 8)
  let high := min bits.high (lane * 8 + 7)
  if low ≤ high then some ⟨lane, high, low⟩ else none

/-- A range cut along the byte lanes of a strobed port; in one piece for a port without strobes. -/
def pieces (lanes : Nat) (bits : BitRange) (strobed : Bool) : List Piece :=
  if strobed then (List.range lanes).filterMap (piece? bits) else [⟨0, bits.high, bits.low⟩]

/-- Statements that a port's strobe of a lane enables. -/
def strobed (strobe : Option String) (lane : Nat) (body : Stmt) : Stmt :=
  match strobe with
  | some name => .when (.ref ⟨name, .bit lane⟩) body
  | none => body

/-- The bits that a write leaves behind, where its effect is to store any. -/
def nextValue? (effect : WriteEffect) (current data : Expr) : Option Expr :=
  match effect with
  | .ignore | .pulse _ => none
  | .store => some data
  | .clearOnOne => some (.and current (.invert data))
  | .clearOnZero => some (.and current data)
  | .setOnOne => some (.or current data)
  | .setOnZero => some (.or current (.invert data))

/-- The write of a piece of stored bits. -/
def storePiece? (config : Config) (register : RegisterLayout) (segment : Segment)
    (port : WritePort) (piece : Piece) : Option Stmt :=
  let target := storageBits register piece.high piece.low
  let data := Ref.part port.data piece.high piece.low config.dataWidth.toNat
  (nextValue? segment.writeEffect (.ref target) (.ref data)).map fun value =>
    strobed port.strobe piece.lane (.nonblocking 0 target value)

/-- The written pattern as a pulse: as it is, or inverted where zeros pulse. -/
def pulsePattern (effect : WriteEffect) (data : Expr) : Expr :=
  match effect with
  | .pulse .low => .invert data
  | _ => data

/-- The write of a piece of a pulse output; the stored bits stay zero. -/
def pulsePiece (config : Config) (register : RegisterLayout) (segment : Segment) (pulse : String)
    (port : WritePort) (piece : Piece) : Stmt :=
  let low := segment.bits.low
  let data := Ref.part port.data piece.high piece.low config.dataWidth.toNat
  strobed port.strobe piece.lane
    (.seq
      (.nonblocking 0 (.part pulse (piece.high - low) (piece.low - low) segment.bits.width)
        (pulsePattern segment.writeEffect (.ref data)))
      (.nonblocking 0 (storageBits register piece.high piece.low)
        (zero (piece.high - piece.low + 1))))

/-- What an honoured write does. Strobed pulses are cleared first: a lane may be left out. -/
def writeBody (config : Config) (register : RegisterLayout) (segment : Segment)
    (port : WritePort) : Stmt :=
  let pieces := pieces config.byteLanes segment.bits port.strobe.isSome
  let writes := match segment.pulsePort with
    | some pulse =>
      (if port.strobe.isSome then [Stmt.store pulse (zero segment.bits.width)] else []) ++
        pieces.map (pulsePiece config register segment pulse port)
    | none => pieces.filterMap (storePiece? config register segment port)
  .ofList (writes ++ (segment.writtenFlag.map fun flag => Stmt.store flag (.bit true)).toList)

/-- Whether a port writes a segment that nothing keeps from it. -/
def writeCondition (register : RegisterLayout) (segment : Segment) (port : WritePort) : Expr :=
  .ands port.enable (addressed port.addr register :: gateTerms segment)

/-- What happens to a segment that no port writes: a pulse ends. -/
def unwritten (segment : Segment) : Stmt :=
  match segment.pulsePort with
  | some pulse => .block (.store pulse (zero segment.bits.width))
  | none => .skip

/-- The choice between ports that write a segment: the first one that does is taken. -/
def writeChain (config : Config) (register : RegisterLayout) (segment : Segment)
    (ports : List WritePort) : Stmt :=
  ports.foldr
    (fun port rest =>
      .branch (writeCondition register segment port) (writeBody config register segment port)
        rest)
    (unwritten segment)

/-- How comments name a segment. -/
def segmentLabel (register : RegisterLayout) (segment : Segment) : String :=
  match segment.field with
  | some field => s!"{register.name}.{field}"
  | none => register.name

def busWrite (config : Config) (register : RegisterLayout) (segment : Segment) : Stmt :=
  .seq (.comment s!"{segmentLabel register segment}: {segment.type.name}")
    (writeChain config register segment (busWritePort config :: extraWritePorts config))

def busWrites (config : Config) (register : RegisterLayout) : List Stmt :=
  (register.segments.filter Segment.swWrite).map (busWrite config register)

/-- Whether a port reads a register. -/
def readStrobe (register : RegisterLayout) (port : ReadPort) : Expr :=
  .group (.and port.enable (addressed port.addr register))

/-- Whether any port reads a register. -/
def anyRead (config : Config) (register : RegisterLayout) : Expr :=
  (extraReadPorts config).foldl (fun e port => .or e (readStrobe register port))
    (readStrobe register (busReadPort config))

/-- What a read does to a segment, if it does anything. -/
def segmentReadEffect? (register : RegisterLayout) (segment : Segment) : Option Stmt :=
  segment.readEffect.map fun effect =>
    let width := segment.bits.width
    .nonblocking 0 (storageBits register segment.bits.high segment.bits.low)
      (match effect with
        | .clear => zero width
        | .set => .hex width (Word.lowMask width))

/-- The effects of reads on a register; they happen once however many ports read it. -/
def readEffects (config : Config) (register : RegisterLayout) : List Stmt :=
  match register.segments.filterMap (segmentReadEffect? register) with
  | [] => []
  | effects =>
    [.comment s!"{register.name}: read side effect",
      .when (anyRead config register) (.ofList effects)]

/-- What happens at a reset. -/
def resetBody (layout : Layout) : Stmt :=
  .ofList (layout.registers.flatMap resetRegister)

/-- What happens at a clock edge otherwise. -/
def clockBody (config : Config) (layout : Layout) : Stmt :=
  .ofList (layout.registers.flatMap hardwareWrites ++
    layout.registers.flatMap (busWrites config) ++ layout.registers.flatMap (readEffects config))

/-- The block that updates the registers. -/
def updateBlock (config : Config) (layout : Layout) : Item :=
  (Reset.ofSync config.syncReset).sequential (resetBody layout)
    (.block (clockBody config layout))

end RegisterFile.Hardware
