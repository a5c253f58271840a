import RegisterFile.Bus.Protocol
import RegisterFile.Diagnostic
import RegisterFile.RegisterType
import RegisterFile.Verilog.Build

/-!
Bus interfaces: the half of a generated module that depends on the protocol. The other half only
uses the signals of an interface, and drives the two error wires that its handshake reads.
-/

namespace RegisterFile.Bus

open Verilog

/-- The wire that is high while the current write is in error. -/
def writeError : String := "bus_wr_err"

/-- The wire that is high while the current read is in error. -/
def readError : String := "bus_rd_err"

/-- What the protocol-independent half uses of an interface. -/
structure Signals where
  /-- High in the one cycle in which a write completes. -/
  writeEnable : Expr
  writeAddr : String
  writeData : String
  /-- The write strobes, one for each byte, where they are honoured. -/
  writeStrobe : Option String
  /-- High in the one cycle in which a read is accepted. -/
  readEnable : Expr
  readAddr : String
  /-- The target of the read multiplexer. -/
  readData : String

/-- A bus interface of a register file. -/
structure Interface where
  /-- The ports in order, without clock and reset. -/
  ports : List Port
  signals : Signals
  /-- Declarations of the interface's own state. -/
  declarations : List Item
  /-- The handshake and the responses. -/
  handshake : List Item
  /-- How errors are signalled, for documents. -/
  errorEncoding : String
  /-- Clock cycles from an accepted read to valid data. -/
  readLatency : Nat
  /-- The data widths that the protocol is normally used with; none means no preference. -/
  preferredWidths : List Nat
  misalignedIsError : Bool
  /-- What to mind when a register behaves in a way that needs care on this protocol. -/
  conflict : TypeBehavior → Option String
  /-- Findings about the options of the protocol. -/
  findings : Report

end RegisterFile.Bus
