import RegisterFile.Bus.Interface
import RegisterFile.Config

/-!
A plain request and acknowledge handshake. Reads are combinational and the acknowledge follows the
request, unless read data is registered: then the response comes a cycle later, and a request is
accepted once for each acknowledge.
-/

namespace RegisterFile.Bus.Custom

open Verilog

/-- An output that the handshake drives: a register where the response is registered. -/
def responsePort (config : Config) (name : String) : Port :=
  if config.options.registeredRead then .outputReg name else .output name

/-- The bus ports. -/
def ports (config : Config) : List Port :=
  [.input "addr" (some config.addrWidth.toNat), .input "wdata" (some config.dataWidth.toNat),
    .input "wr_en", .input "rd_en", .input "byte_en" (some config.byteLanes), .input "req",
    .outputReg "rdata" (some config.dataWidth.toNat), responsePort config "ack",
    responsePort config "err"]

/-- The condition that no acknowledge is being given, where it matters. -/
def idleTerms (config : Config) : List Expr :=
  if config.options.registeredRead then [.invertSignal "ack"] else []

/-- The signals of a request. -/
def signals (config : Config) : Signals where
  writeEnable := .ands (.signal "req") (.signal "wr_en" :: idleTerms config)
  writeAddr := "addr"
  writeData := "wdata"
  writeStrobe := if config.byteEnable then some "byte_en" else none
  readEnable := .ands (.signal "req") (.signal "rd_en" :: idleTerms config)
  readAddr := "addr"
  readData := if config.options.registeredRead then "custom_rd_data" else "rdata"

/-- The read data before it is registered. -/
def declarations (config : Config) : List Item :=
  if config.options.registeredRead then
    [.reg 2 (some config.dataWidth.toNat) "custom_rd_data"]
  else []

/-- The error of the current request. -/
def error : Expr :=
  .group (.or
    (.group (.ands (.signal "wr_en") [.signal writeError]))
    (.group (.ands (.signal "rd_en") [.signal readError])))

/-- The registered response. -/
def responseBlock (config : Config) : Item :=
  (Reset.ofSync config.syncReset).sequential
    (.stores 5
      [("ack", .bit false), ("err", .bit false), ("rdata", .hex config.dataWidth.toNat 0)])
    (.block (.ofList
      [.store "ack" (.ands (.signal "req") [.invertSignal "ack"]),
        .store "err" (.ands (.signal "req") [.invertSignal "ack", error]),
        .when (.ands (.signal "req") [.signal "rd_en", .invertSignal "ack"])
          (.store "rdata" (.signal "custom_rd_data"))]))

/-- The response. -/
def handshake (config : Config) : List Item :=
  if config.options.registeredRead then [responseBlock config]
  else
    [.assign 0 "ack" (.signal "req"), .assign 0 "err" (.ands (.signal "req") [error])]

/-- The plain interface of a register file. -/
def interface (config : Config) : Interface where
  ports := ports config
  signals := signals config
  declarations := declarations config
  handshake := handshake config
  errorEncoding := "err asserted with ack"
  readLatency := if config.options.registeredRead then 1 else 0
  preferredWidths := []
  misalignedIsError := false
  conflict _ := none
  findings := []

end RegisterFile.Bus.Custom
