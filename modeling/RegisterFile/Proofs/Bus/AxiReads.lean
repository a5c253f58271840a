import RegisterFile.Proofs.Bus.AxiWrites

/-!
Reads over AXI4-Lite, through any run. A read is made in the cycle in which its address is taken
up, and what it gave then is held until the master takes it.
-/

namespace RegisterFile.Bus

open Verilog

namespace AxiLite

/-! ### What happens in a cycle -/

/-- A read as it is made: its address, the read data of that cycle, and whether it is in error. -/
structure Read where
  addr : Word
  data : Word
  refused : Bool
  deriving DecidableEq

section Events

variable (config : Config) (widths : Widths) (e : Env)

/-- The read that is made. Side effects of reads happen in the same cycle. -/
def read? : Option Read :=
  let signals := config.interface.signals
  if signals.readEnable.holds widths e then
    some ⟨e.value widths signals.readAddr, e.value widths signals.readData,
      e.high widths readError⟩
  else none

/-- The address that the read address channel transfers. -/
def readAddrBeat? : Option Word :=
  if e.high widths "s_axi_arvalid" && e.high widths "s_axi_arready" then
    some (e.value widths "s_axi_araddr")
  else none

/-- The data and the response code that the read data channel transfers. -/
def readDataBeat? : Option (Word × Word) :=
  if e.high widths "s_axi_rvalid" && e.high widths "s_axi_rready" then
    some (e.value widths "s_axi_rdata", e.value widths "s_axi_rresp")
  else none

/-- The data and the response code that are offered. -/
def heldReadData? : Option (Word × Word) :=
  if e.high widths "s_axi_rvalid" then
    some (e.value widths "s_axi_rdata", e.value widths "s_axi_rresp")
  else none

end Events

/-- What the read channels have done before a cycle, beats in the order of their cycles. -/
structure ReadsInOrder (config : Config) (widths : Widths) (values : Nat → Env) (t : Nat) :
    Prop where
  /-- Each address beat makes one read, and nothing else does. -/
  addrs : (beats (read? config widths) values t).map Read.addr =
    beats (readAddrBeat? widths) values t
  /-- Each data beat brings what the read of its number gave when it was made. -/
  answers : beats (readDataBeat? widths) values t <+:
    (beats (read? config widths) values t).map fun read => (read.data, responseCode read.refused)
  /-- A read is without its data beat exactly while one is offered. -/
  outstanding : (beats (read? config widths) values t).length =
    (beats (readDataBeat? widths) values t).length + ((values t).high widths "s_axi_rvalid").toNat

/-- What the read channels do in a cycle. -/
structure ReadCycle (config : Config) (widths : Widths) (values : Nat → Env) (t : Nat) : Prop where
  /-- A read is made exactly if an address is offered and every read has had its data beat. -/
  accepts : (read? config widths (values t)).isSome = true ↔
    (values t).high widths "s_axi_arvalid" = true ∧
      (beats (readDataBeat? widths) values t).length =
        (beats (read? config widths) values t).length
  /-- No address is taken up while data is offered. -/
  alone : (readAddrBeat? widths (values t)).isSome = true →
    (values t).high widths "s_axi_rvalid" = false
  /-- What is offered stays until it is taken. -/
  stable : (values t).high widths "s_axi_rvalid" = true →
    (values t).high widths "s_axi_rready" = false →
      (values (t + 1)).high widths "s_axi_rvalid" = true ∧
        (values (t + 1)).value widths "s_axi_rdata" = (values t).value widths "s_axi_rdata" ∧
        (values (t + 1)).value widths "s_axi_rresp" = (values t).value widths "s_axi_rresp"

variable {config : Config} {widths : Widths} {e e' : Env} {length : Nat} {values : Nat → Env}
  {t : Nat}

theorem read?_eq (hprotocol : config.protocol = .axi4Lite) :
    read? config widths e =
      if e.high widths "axi_rd_fire" then
        some ⟨e.value widths "s_axi_araddr", e.value widths "axi_rd_data",
          e.high widths readError⟩
      else none := by
  rw [read?, signals_eq hprotocol]
  simp only [signals, Expr.holds_signal_eq_high]

theorem map_addr_read? (hprotocol : config.protocol = .axi4Lite) (hwired : Wired widths e) :
    (read? config widths e).map Read.addr = readAddrBeat? widths e := by
  rw [read?_eq hprotocol, Option.map_if, hwired.readFire, readAddrBeat?]

theorem passes_readData (hprotocol : config.protocol = .axi4Lite) (hwired : Wired widths e)
    (hstep : ReadStep widths e e') :
    Passes (heldReadData? widths e)
      ((read? config widths e).map fun read => (read.data, responseCode read.refused))
      (readDataBeat? widths e) (heldReadData? widths e') := by
  have htake : e.high widths "axi_rd_fire" = true → e.high widths "s_axi_rvalid" = false := by
    rw [hwired.readFire, hwired.arready]
    simp +contextual
  have hgive : (e.high widths "s_axi_rvalid" && e.high widths "s_axi_rready") = true →
      e.high widths "s_axi_rvalid" = true := by
    simp +contextual
  have hbeat : (e'.value widths "s_axi_rdata", e'.value widths "s_axi_rresp") =
      if e.high widths "axi_rd_fire" then
        (e.value widths "axi_rd_data", responseCode (e.high widths readError))
      else (e.value widths "s_axi_rdata", e.value widths "s_axi_rresp") := by
    rw [hstep.rdata, hstep.rresp]
    split <;> rfl
  rw [heldReadData?, heldReadData?, high_of_raised hstep.rvalid, hbeat, read?_eq hprotocol,
    Option.map_if]
  exact passes_register htake hgive

/-! ### Runs -/

section Runs

variable (hsized : Sized config widths) (hprotocol : config.protocol = .axi4Lite)
  (hrun : Run config widths length values)

include hsized hprotocol hrun

theorem readAddrs_eq (ht : t ≤ length) :
    (beats (read? config widths) values t).map Read.addr =
      beats (readAddrBeat? widths) values t := by
  induction t with
  | zero => rfl
  | succ t ih =>
    rw [beats_succ, beats_succ, List.map_append, ih (Nat.le_of_lt ht), ← Option.toList_map,
      map_addr_read? hprotocol (wired_of_run hsized hprotocol hrun ht)]

theorem readData_eq (ht : t ≤ length) :
    ((beats (read? config widths) values t).map fun read =>
        (read.data, responseCode read.refused)) =
      beats (readDataBeat? widths) values t ++ (heldReadData? widths (values t)).toList := by
  have hempty : heldReadData? widths (values 0) = none := by
    rw [heldReadData?, low_of_run hsized hprotocol hrun _ (by decide), if_neg Bool.false_ne_true]
  rw [← beats_map]
  exact beats_eq_append_held hempty (fun t ht =>
    passes_readData hprotocol (wired_of_run hsized hprotocol hrun ht)
      (readStep_of_run hsized hprotocol hrun ht)) ht

theorem length_reads (ht : t ≤ length) :
    (beats (read? config widths) values t).length =
      (beats (readDataBeat? widths) values t).length +
        ((values t).high widths "s_axi_rvalid").toNat := by
  have hlength := congrArg List.length (readData_eq hsized hprotocol hrun ht)
  rwa [List.length_append, List.length_map, heldReadData?, length_toList_ite] at hlength

theorem readsInOrder_of_run (ht : t ≤ length) : ReadsInOrder config widths values t where
  addrs := readAddrs_eq hsized hprotocol hrun ht
  answers := ⟨_, (readData_eq hsized hprotocol hrun ht).symm⟩
  outstanding := length_reads hsized hprotocol hrun ht

theorem readCycle_of_run (ht : t < length) : ReadCycle config widths values t := by
  have hwired := wired_of_run hsized hprotocol hrun ht
  have hstep := readStep_of_run hsized hprotocol hrun ht
  have hfire : (read? config widths (values t)).isSome = (values t).high widths "axi_rd_fire" := by
    rw [read?_eq hprotocol]
    cases (values t).high widths "axi_rd_fire" <;> rfl
  have haddr : (readAddrBeat? widths (values t)).isSome =
      (values t).high widths "axi_rd_fire" := by
    rw [← map_addr_read? hprotocol hwired, Option.isSome_map, hfire]
  have hidle : (values t).high widths "axi_rd_fire" =
      ((values t).high widths "s_axi_arvalid" && !(values t).high widths "s_axi_rvalid") := by
    rw [hwired.readFire, hwired.arready]
  refine ⟨?_, ?_, ?_⟩
  · rw [hfire, hidle, length_reads hsized hprotocol hrun (Nat.le_of_lt ht)]
    cases (values t).high widths "s_axi_arvalid" <;> cases (values t).high widths "s_axi_rvalid" <;>
      simp
  · rw [haddr, hidle]
    simp
  · intro hvalid hstalled
    have hnone : (values t).high widths "axi_rd_fire" = false := by
      rw [hidle, hvalid, Bool.not_true, Bool.and_false]
    refine ⟨?_, ?_, ?_⟩
    · rw [high_of_raised hstep.rvalid, hvalid, hstalled]
      simp
    · rw [hstep.rdata, hnone, if_neg Bool.false_ne_true]
    · rw [hstep.rresp, hnone, if_neg Bool.false_ne_true]

end Runs

end AxiLite

/-- Over AXI4-Lite, every read is answered once, in order and with what the registers gave in the
    cycle in which it was made, however long the master takes. -/
theorem axiLite_reads_in_order (config : Config) (provenance : Provenance)
    (hprotocol : config.protocol = .axi4Lite) (length : Nat) (values : Nat → Env)
    (hrun : Run config (Hardware.ofConfig config provenance).widths length values) :
    (∀ t ≤ length,
      AxiLite.ReadsInOrder config (Hardware.ofConfig config provenance).widths values t) ∧
    ∀ t < length,
      AxiLite.ReadCycle config (Hardware.ofConfig config provenance).widths values t := by
  have hsized := AxiLite.sized provenance hprotocol
  exact ⟨fun t ht => AxiLite.readsInOrder_of_run hsized hprotocol hrun ht,
    fun t ht => AxiLite.readCycle_of_run hsized hprotocol hrun ht⟩

/-- The first read keeps its data while the register changes, and the second is made only after
    that data is taken. -/
theorem axiLite_reads_in_order_traffic :
    Run AxiLite.twoRegisters
        (Hardware.ofConfig AxiLite.twoRegisters ⟨"regforge", "unspecified", ""⟩).widths 6
        AxiLite.traffic ∧
      beats (AxiLite.read? AxiLite.twoRegisters
          (Hardware.ofConfig AxiLite.twoRegisters ⟨"regforge", "unspecified", ""⟩).widths)
        AxiLite.traffic 6 = [⟨4, 9, false⟩, ⟨8, 0, true⟩] ∧
      AxiLite.ReadsInOrder AxiLite.twoRegisters
        (Hardware.ofConfig AxiLite.twoRegisters ⟨"regforge", "unspecified", ""⟩).widths
        AxiLite.traffic 6 ∧
      AxiLite.ReadCycle AxiLite.twoRegisters
        (Hardware.ofConfig AxiLite.twoRegisters ⟨"regforge", "unspecified", ""⟩).widths
        AxiLite.traffic 1 := by
  have horder := axiLite_reads_in_order AxiLite.twoRegisters ⟨"regforge", "unspecified", ""⟩ rfl 6
    AxiLite.traffic AxiLite.run_traffic
  exact ⟨AxiLite.run_traffic, by decide +kernel, horder.1 6 (by decide), horder.2 1 (by decide)⟩

end RegisterFile.Bus
