import RegisterFile.Hardware.Gate

/-!
What the bus is told: the error wires and the read multiplexers. An address that no register has
is a decode error; a write that a lock keeps from some segment is a lock error if the options say
so.
-/

namespace RegisterFile.Hardware

open Verilog

/-- High while a read has an unknown address. -/
def readDecodeError : String := "rd_decode_err"

/-- High while a write has an unknown address. -/
def writeDecodeError : String := "wr_decode_err"

/-- High while a write is kept from some segment by a lock. -/
def writeLockError : String := "wr_lock_err"

/-- Whether no register has the address of the current write. -/
def unknownAddress (addr : String) (layout : Layout) : Expr :=
  match Expr.join? .or (layout.registers.map (addressed addr)) with
  | some hit => .invert (.group hit)
  | none => .bit true

/-- Whether a write to a register is kept from a segment by a lock, if the segment has any. -/
def lockHit? (addr : String) (register : RegisterLayout) (segment : Segment) : Option Expr :=
  (lockActive? segment.locks).map fun active =>
    .group (.and (addressed addr register) active)

/-- Whether the current write is kept from some segment by a lock. -/
def lockedWrite (addr : String) (layout : Layout) : Expr :=
  let hits := layout.registers.flatMap fun register =>
    (register.segments.filter Segment.swWrite).filterMap (lockHit? addr register)
  (Expr.join? .or hits).getD (.bit false)

/-- When a write is answered with an error. -/
def writeErrorExpr (config : Config) : Expr :=
  match config.options.errorResponse with
  | .okay => .bit false
  | .slverr =>
    if config.options.lockError then .or (.signal writeDecodeError) (.signal writeLockError)
    else .signal writeDecodeError

/-- When a read is answered with an error. -/
def readErrorExpr (config : Config) : Expr :=
  match config.options.errorResponse with
  | .okay => .bit false
  | .slverr => .signal readDecodeError

/-- The declarations of the error wires. -/
def errorWires (config : Config) (layout : Layout) : List Item :=
  let addr := (busWritePort config).addr
  [.reg 2 none readDecodeError,
    .wire 1 writeDecodeError (unknownAddress addr layout),
    .wire 1 writeLockError (lockedWrite addr layout),
    .wire 1 Bus.writeError (writeErrorExpr config),
    .wire 1 Bus.readError (readErrorExpr config)]

/-- What a read of a register returns: its readable bits, and zeros elsewhere. -/
def readValue (config : Config) (register : RegisterLayout) : Expr :=
  let storage := Expr.signal (storageName register.ident)
  if register.readMask = 0 then .hex config.dataWidth.toNat 0
  else if register.readMask = register.fullMask then storage
  else .and storage (.hex register.width.toNat register.readMask)

/-- The read multiplexer of a port. -/
def readMux (config : Config) (layout : Layout) (port : ReadPort) : Item :=
  let data : Ref := ⟨port.data, .whole⟩
  let error : Ref := ⟨readDecodeError, .whole⟩
  .always .change <| .ofList <|
    [.blocking data (.hex config.dataWidth.toNat 0)] ++
      (if port.reportsErrors then [.blocking error (.bit false)] else []) ++
      [.select ⟨port.addr, .whole⟩
        (layout.registers.map fun register =>
          (addressName register, data, readValue config register))
        (if port.reportsErrors then some (error, .bit true) else none)]

end RegisterFile.Hardware
