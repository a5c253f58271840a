import RegisterFile.Bus.Interface
import RegisterFile.Config

/-!
Wishbone B4 classic. Each access is answered in the next cycle by an acknowledge or an error, both
registered and high for one cycle.
-/

namespace RegisterFile.Bus.Wishbone

open Verilog

/-- The bus ports. -/
def ports (config : Config) : List Port :=
  [.input "wb_adr_i" (some config.addrWidth.toNat),
    .input "wb_dat_i" (some config.dataWidth.toNat),
    .outputReg "wb_dat_o" (some config.dataWidth.toNat), .input "wb_we_i",
    .input "wb_sel_i" (some config.byteLanes), .input "wb_stb_i", .input "wb_cyc_i",
    .outputReg "wb_ack_o", .outputReg "wb_err_o"]

/-- The signals of an access. -/
def signals (config : Config) : Signals where
  writeEnable := .ands (.signal "wb_access") [.signal "wb_we_i"]
  writeAddr := "wb_adr_i"
  writeData := "wb_dat_i"
  writeStrobe := if config.byteEnable then some "wb_sel_i" else none
  readEnable := .ands (.signal "wb_access") [.invertSignal "wb_we_i"]
  readAddr := "wb_adr_i"
  readData := "wb_rd_data"

/-- The read data and the cycle of an access. -/
def declarations (config : Config) : List Item :=
  [.reg 2 (some config.dataWidth.toNat) "wb_rd_data",
    .wire 8 "wb_access"
      (.ands (.signal "wb_cyc_i")
        [.signal "wb_stb_i", .invertSignal "wb_ack_o", .invertSignal "wb_err_o"])]

/-- What an access is answered with. -/
def respond : Stmt :=
  .when (.signal "wb_access")
    (.ofList
      [.ifElse (.choose (.signal "wb_we_i") (.signal writeError) (.signal readError))
          (.store "wb_err_o" (.bit true)) (.store "wb_ack_o" (.bit true)),
        .when (.invertSignal "wb_we_i") (.store "wb_dat_o" (.signal "wb_rd_data"))])

/-- Answers withdrawn. -/
def withdraw : List Stmt :=
  [.store "wb_ack_o" (.bit false), .store "wb_err_o" (.bit false)]

/-- The block of the answers. -/
def handshake (config : Config) : List Item :=
  [(Reset.ofSync config.syncReset).sequential
    (.ofList (withdraw ++ [.store "wb_dat_o" (.hex config.dataWidth.toNat 0)]))
    (.block (.ofList (withdraw ++ [respond])))]

/-- The Wishbone interface of a register file. -/
def interface (config : Config) : Interface where
  ports := ports config
  signals := signals config
  declarations := declarations config
  handshake := handshake config
  errorEncoding := "wb_err_o instead of wb_ack_o"
  readLatency := 1
  preferredWidths := [8, 16, 32, 64]
  misalignedIsError := config.options.granularity == .word
  conflict _ := none
  findings := []

end RegisterFile.Bus.Wishbone
