import RegisterFile.Bus.Interface
import RegisterFile.Config

/-!
AMBA APB. A transfer completes in its access phase, which wait states can stretch: a counter holds
`pready` low until it has reached their number.
-/

namespace RegisterFile.Bus.Apb

open Verilog

/-- The most wait states there can be. -/
def maxWaitStates : Nat := 15

/-- The wait states of a register file, cut to the most there can be. -/
def waitStates (config : Config) : Nat :=
  min config.options.waitStates.toNat maxWaitStates

/-- The bus ports. -/
def ports (config : Config) : List Port :=
  [.input "paddr" (some config.addrWidth.toNat), .input "psel", .input "penable",
    .input "pwrite", .input "pwdata" (some config.dataWidth.toNat)] ++
  (if config.byteEnable then [.input "pstrb" (some config.byteLanes)] else []) ++
  [.outputReg "prdata" (some config.dataWidth.toNat), .output "pready", .output "pslverr"]

/-- The ready signal as a further condition, where there are wait states. -/
def readyTerms (config : Config) : List Expr :=
  if 0 < waitStates config then [.signal "pready"] else []

/-- The signals of the access phase. -/
def signals (config : Config) : Signals where
  writeEnable := .ands (.signal "psel")
    ([.signal "penable", .signal "pwrite"] ++ readyTerms config)
  writeAddr := "paddr"
  writeData := "pwdata"
  writeStrobe := if config.byteEnable then some "pstrb" else none
  readEnable := .ands (.signal "psel")
    ([.signal "penable", .invertSignal "pwrite"] ++ readyTerms config)
  readAddr := "paddr"
  readData := "prdata"

/-- The wait state counter. -/
def declarations (config : Config) : List Item :=
  if 0 < waitStates config then [.reg 2 (some 4) "apb_wait_cnt"] else []

/-- Counts the cycles of an access phase. -/
def counter (config : Config) : Item :=
  let clear := Stmt.store "apb_wait_cnt" (.decimal 4 0)
  (Reset.ofSync config.syncReset).sequential clear
    (.branch (.ands (.signal "psel") [.signal "penable", .invertSignal "pready"])
      (.store "apb_wait_cnt" (.add (.signal "apb_wait_cnt") (.decimal 4 1)))
      (.block clear))

/-- The error of the current access. -/
def error : Expr :=
  .chooseSignal "pwrite" writeError readError

/-- The counter, the ready signal and the error response. -/
def handshake (config : Config) : List Item :=
  if 0 < waitStates config then
    [counter config, .blank,
      .assign 7 "pready"
        (.isEqual (.signal "apb_wait_cnt") (.decimal 4 (waitStates config))),
      .assign 7 "pslverr"
        (.ands (.signal "psel") [.signal "penable", .signal "pready", error])]
  else
    [.assign 7 "pready" (.bit true),
      .assign 7 "pslverr" (.ands (.signal "psel") [.signal "penable", error])]

/-- The findings about wait states. -/
def findings (config : Config) : Report :=
  let waits := config.options.waitStates.toNat
  if maxWaitStates < waits then
    [.error .invalidBusOption .config
      s!"apb.wait_states must be 0..={maxWaitStates}, got {waits}"]
  else []

/-- The APB interface of a register file. -/
def interface (config : Config) : Interface where
  ports := ports config
  signals := signals config
  declarations := declarations config
  handshake := handshake config
  errorEncoding := "pslverr asserted with pready"
  readLatency := 1 + waitStates config
  preferredWidths := [8, 16, 32]
  misalignedIsError := true
  conflict behavior :=
    behavior.readEffect.map fun _ => "read side effect is gated to the single APB access cycle"
  findings := findings config

end RegisterFile.Bus.Apb
