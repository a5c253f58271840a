import RegisterFile.Bus.Interface
import RegisterFile.Config

/-!
Open Core Protocol, simple request and response. Commands are always accepted, and each read and
write is answered a cycle later by a data-valid or an error response.
-/

namespace RegisterFile.Bus.Ocp

open Verilog

/-- The bus ports. -/
def ports (config : Config) : List Port :=
  [.input "MCmd" (some 3), .input "MAddr" (some config.addrWidth.toNat),
    .input "MData" (some config.dataWidth.toNat), .input "MByteEn" (some config.byteLanes),
    .output "SCmdAccept", .outputReg "SResp" (some 2),
    .outputReg "SData" (some config.dataWidth.toNat)]

/-- Whether the master issues a command. -/
def issues (command : String) : Expr :=
  .equal (.signal "MCmd") (.signal command)

/-- The signals of a command. -/
def signals (config : Config) : Signals where
  writeEnable := .group (issues "OCP_CMD_WR")
  writeAddr := "MAddr"
  writeData := "MData"
  writeStrobe := if config.byteEnable then some "MByteEn" else none
  readEnable := .group (issues "OCP_CMD_RD")
  readAddr := "MAddr"
  readData := "ocp_rd_data"

/-- The codes of commands and responses, and the read data. -/
def declarations (config : Config) : List Item :=
  [.localparam 13 "OCP_CMD_WR" (.binary 3 1), .localparam 13 "OCP_CMD_RD" (.binary 3 2),
    .localparam 13 "OCP_RESP_NULL" (.binary 2 0), .localparam 13 "OCP_RESP_DVA" (.binary 2 1),
    .localparam 13 "OCP_RESP_ERR" (.binary 2 3),
    .reg 2 (some config.dataWidth.toNat) "ocp_rd_data"]

/-- The response to a command that may be in error. -/
def response (error : String) : Stmt :=
  .store "SResp"
    (.choose (.signal error) (.signal "OCP_RESP_ERR") (.signal "OCP_RESP_DVA"))

/-- What a command is answered with. -/
def respond : Stmt :=
  .branch (issues "OCP_CMD_WR") (response writeError)
    (.when (issues "OCP_CMD_RD")
      (.ofList [response readError, .store "SData" (.signal "ocp_rd_data")]))

/-- The accept signal and the block of the responses. -/
def handshake (config : Config) : List Item :=
  let idle := Stmt.store "SResp" (.signal "OCP_RESP_NULL")
  [.assign 0 "SCmdAccept" (.bit true), .blank,
    (Reset.ofSync config.syncReset).sequential
      (.ofList [idle, .store "SData" (.hex config.dataWidth.toNat 0)])
      (.block (.ofList [idle, respond]))]

/-- The OCP interface of a register file. -/
def interface (config : Config) : Interface where
  ports := ports config
  signals := signals config
  declarations := declarations config
  handshake := handshake config
  errorEncoding := "SResp = ERR (2'b11)"
  readLatency := 1
  preferredWidths := [8, 16, 32, 64, 128]
  misalignedIsError := false
  conflict _ := none
  findings := []

end RegisterFile.Bus.Ocp
