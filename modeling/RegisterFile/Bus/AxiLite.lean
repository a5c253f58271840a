import RegisterFile.Bus.Interface
import RegisterFile.Config

/-!
AMBA AXI4-Lite. Write address and write data are accepted independently of each other and held; the
write fires in the one cycle in which both are held and no response is outstanding, and raises the
response. A read is accepted when no read response is pending and answered a cycle later.
-/

namespace RegisterFile.Bus.AxiLite

open Verilog

/-- The bus ports, channel by channel. -/
def ports (config : Config) : List Port :=
  let addrWidth := some config.addrWidth.toNat
  let dataWidth := some config.dataWidth.toNat
  [.input "s_axi_awaddr" addrWidth, .input "s_axi_awprot" (some 3), .input "s_axi_awvalid",
    .output "s_axi_awready", .input "s_axi_wdata" dataWidth,
    .input "s_axi_wstrb" (some config.byteLanes), .input "s_axi_wvalid", .output "s_axi_wready",
    .outputReg "s_axi_bresp" (some 2), .outputReg "s_axi_bvalid", .input "s_axi_bready",
    .input "s_axi_araddr" addrWidth, .input "s_axi_arprot" (some 3), .input "s_axi_arvalid",
    .output "s_axi_arready", .outputReg "s_axi_rdata" dataWidth,
    .outputReg "s_axi_rresp" (some 2), .outputReg "s_axi_rvalid", .input "s_axi_rready"]

/-- The held write and the incoming read. -/
def signals (config : Config) : Signals where
  writeEnable := .signal "axi_wr_fire"
  writeAddr := "axi_awaddr_q"
  writeData := "axi_wdata_q"
  writeStrobe := if config.byteEnable then some "axi_wstrb_q" else none
  readEnable := .signal "axi_rd_fire"
  readAddr := "s_axi_araddr"
  readData := "axi_rd_data"

/-- What is held of a write, and when a write and a read happen. -/
def declarations (config : Config) : List Item :=
  [.reg 9 none "axi_aw_seen", .reg 9 none "axi_w_seen",
    .reg 2 (some config.addrWidth.toNat) "axi_awaddr_q",
    .reg 2 (some config.dataWidth.toNat) "axi_wdata_q",
    .reg 2 (some config.byteLanes) "axi_wstrb_q",
    .reg 2 (some config.dataWidth.toNat) "axi_rd_data",
    .wire 8 "axi_wr_fire"
      (.ands (.signal "axi_aw_seen") [.signal "axi_w_seen", .invertSignal "s_axi_bvalid"]),
    .wire 8 "axi_rd_fire" (.ands (.signal "s_axi_arvalid") [.signal "s_axi_arready"])]

/-- The response code: a slave error or okay. -/
def response (error : String) : Expr :=
  .choose (.signal error) (.binary 2 2) (.binary 2 0)

/-- What holds a write after reset: nothing. -/
def clearWrite (config : Config) : Stmt :=
  .stores 12
    [("axi_aw_seen", .bit false), ("axi_w_seen", .bit false),
      ("axi_awaddr_q", .hex config.addrWidth.toNat 0),
      ("axi_wdata_q", .hex config.dataWidth.toNat 0),
      ("axi_wstrb_q", .hex config.byteLanes 0),
      ("s_axi_bvalid", .bit false), ("s_axi_bresp", .binary 2 0)]

/-- Takes in a write address. -/
def captureAddress : Stmt :=
  .when (.ands (.signal "s_axi_awvalid") [.signal "s_axi_awready"])
    (.stores 12 [("axi_aw_seen", .bit true), ("axi_awaddr_q", .signal "s_axi_awaddr")])

/-- Takes in write data. -/
def captureData : Stmt :=
  .when (.ands (.signal "s_axi_wvalid") [.signal "s_axi_wready"])
    (.stores 11
      [("axi_w_seen", .bit true), ("axi_wdata_q", .signal "s_axi_wdata"),
        ("axi_wstrb_q", .signal "s_axi_wstrb")])

/-- Fires a write and raises its response, or lowers a response that is taken. -/
def respondWrite : Stmt :=
  .branch (.signal "axi_wr_fire")
    (.stores 12
      [("axi_aw_seen", .bit false), ("axi_w_seen", .bit false), ("s_axi_bvalid", .bit true),
        ("s_axi_bresp", response writeError)])
    (.when (.ands (.signal "s_axi_bvalid") [.signal "s_axi_bready"])
      (.store "s_axi_bvalid" (.bit false)))

/-- The write channels. -/
def writeBlock (config : Config) : Item :=
  (Reset.ofSync config.syncReset).sequential (clearWrite config)
    (.block (.ofList [captureAddress, captureData, respondWrite]))

/-- The read response channel. -/
def readBlock (config : Config) : Item :=
  (Reset.ofSync config.syncReset).sequential
    (.stores 12
      [("s_axi_rvalid", .bit false), ("s_axi_rdata", .hex config.dataWidth.toNat 0),
        ("s_axi_rresp", .binary 2 0)])
    (.branch (.signal "axi_rd_fire")
      (.stores 12
        [("s_axi_rvalid", .bit true), ("s_axi_rdata", .signal "axi_rd_data"),
          ("s_axi_rresp", response readError)])
      (.when (.ands (.signal "s_axi_rvalid") [.signal "s_axi_rready"])
        (.store "s_axi_rvalid" (.bit false))))

/-- The ready signals and both blocks. -/
def handshake (config : Config) : List Item :=
  [.assign 13 "s_axi_awready" (.invertSignal "axi_aw_seen"),
    .assign 13 "s_axi_wready" (.invertSignal "axi_w_seen"),
    .assign 13 "s_axi_arready" (.invertSignal "s_axi_rvalid"),
    .blank,
    .comment "Write address/data capture and B channel", writeBlock config, .blank,
    .comment "R channel", readBlock config]

/-- The AXI4-Lite interface of a register file. -/
def interface (config : Config) : Interface where
  ports := ports config
  signals := signals config
  declarations := declarations config
  handshake := handshake config
  errorEncoding := "BRESP/RRESP = SLVERR (2'b10)"
  readLatency := 1
  preferredWidths := [32, 64]
  misalignedIsError := true
  conflict behavior :=
    if behavior.writeEffect.isPulse then
      some "pulse is issued on the single-cycle write fire that raises BVALID"
    else none
  findings := []

end RegisterFile.Bus.AxiLite
