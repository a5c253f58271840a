/-!
Options of the generated bus interface. Those of protocols other than the selected one have no
effect.
-/

namespace RegisterFile.Bus

/-- How decode and lock errors are signalled. -/
inductive ErrorResponse where
  /-- With the error response of the protocol. -/
  | slverr
  /-- Never: every access completes normally. -/
  | okay
  deriving DecidableEq, Repr

/-- The granularity of the Wishbone data port. -/
inductive Granularity where
  /-- Byte addressed; misaligned registers are tolerated. -/
  | byte
  /-- Word addressed; registers must be word aligned. -/
  | word
  deriving DecidableEq, Repr

/-- The name of a response policy. -/
def ErrorResponse.name : ErrorResponse → String
  | slverr => "slverr"
  | okay => "okay"

/-- The response policy of an exact name. -/
def ErrorResponse.ofName? (name : String) : Option ErrorResponse :=
  [ErrorResponse.slverr, ErrorResponse.okay].find? fun response => response.name == name

def Granularity.name : Granularity → String
  | byte => "byte"
  | word => "word"

/-- The granularity of an exact name. -/
def Granularity.ofName? (name : String) : Option Granularity :=
  [Granularity.byte, Granularity.word].find? fun granularity => granularity.name == name

/-- The options, each with its value where a document gives none. -/
structure Options where
  errorResponse : ErrorResponse := .slverr
  /-- A write dropped by a lock raises the error response. -/
  lockError : Bool := false
  /-- APB: wait states before the transfer completes. -/
  waitStates : UInt32 := 0
  /-- Custom: the read data is registered, which costs a cycle. -/
  registeredRead : Bool := false
  /-- Wishbone: the data port granularity. -/
  granularity : Granularity := .byte
  deriving DecidableEq, Repr

end RegisterFile.Bus
