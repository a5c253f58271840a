import RegisterFile.Proofs.Bus.AxiLite

/-!
Writes over AXI4-Lite, through any run. Address and data beats are taken up independently of each
other, one of each is held at a time, and the response to a write is held until it is taken.
-/

namespace RegisterFile.Bus

open Verilog

namespace AxiLite

/-! ### What happens in a cycle -/

/-- A write as it fires: what it presents to the registers, and whether they refuse it. -/
structure Write where
  addr : Word
  data : Word
  strobe : Word
  refused : Bool
  deriving DecidableEq

section Events

variable (config : Config) (widths : Widths) (e : Env)

/-- The write that fires. -/
def write? : Option Write :=
  let signals := config.interface.signals
  if signals.writeEnable.holds widths e then
    some ⟨e.value widths signals.writeAddr, e.value widths signals.writeData,
      e.value widths "axi_wstrb_q", e.high widths writeError⟩
  else none

/-- The address that the write address channel transfers. -/
def addrBeat? : Option Word :=
  if e.high widths "s_axi_awvalid" && e.high widths "s_axi_awready" then
    some (e.value widths "s_axi_awaddr")
  else none

/-- The data and the strobe that the write data channel transfers. -/
def dataBeat? : Option (Word × Word) :=
  if e.high widths "s_axi_wvalid" && e.high widths "s_axi_wready" then
    some (e.value widths "s_axi_wdata", e.value widths "s_axi_wstrb")
  else none

/-- The response code that the write response channel transfers. -/
def responseBeat? : Option Word :=
  if e.high widths "s_axi_bvalid" && e.high widths "s_axi_bready" then
    some (e.value widths "s_axi_bresp")
  else none

end Events

/-- What the write channels have done before a cycle. Beats are listed in the order of their
    cycles, so a prefix pairs the first with the first, the second with the second, and so on. -/
structure WritesInOrder (config : Config) (widths : Widths) (values : Nat → Env) (t : Nat) :
    Prop where
  /-- Each write presents the address beat of its number. -/
  addrs :
    (beats (write? config widths) values t).map Write.addr <+: beats (addrBeat? widths) values t
  /-- Each write presents the data beat of its number. -/
  data : ((beats (write? config widths) values t).map fun write => (write.data, write.strobe)) <+:
    beats (dataBeat? widths) values t
  addrsHeld : (beats (addrBeat? widths) values t).length ≤
    (beats (write? config widths) values t).length + 1
  dataHeld : (beats (dataBeat? widths) values t).length ≤
    (beats (write? config widths) values t).length + 1
  /-- Each response is that to the write of its number. -/
  responses : beats (responseBeat? widths) values t <+:
    (beats (write? config widths) values t).map fun write => responseCode write.refused
  /-- A write is without a response exactly while one is offered. -/
  outstanding : (beats (write? config widths) values t).length =
    (beats (responseBeat? widths) values t).length + ((values t).high widths "s_axi_bvalid").toNat

/-- What the write channels do in a cycle. -/
structure WriteCycle (config : Config) (widths : Widths) (values : Nat → Env) (t : Nat) : Prop where
  /-- A write fires exactly if an address and data wait for it and every write has had its
      response. -/
  fires : (write? config widths (values t)).isSome = true ↔
    (beats (write? config widths) values t).length < (beats (addrBeat? widths) values t).length ∧
      (beats (write? config widths) values t).length < (beats (dataBeat? widths) values t).length ∧
      (beats (responseBeat? widths) values t).length =
        (beats (write? config widths) values t).length
  /-- No write fires while a response is offered. -/
  alone : (write? config widths (values t)).isSome = true →
    (values t).high widths "s_axi_bvalid" = false
  /-- A response that is offered stays until it is taken. -/
  stable : (values t).high widths "s_axi_bvalid" = true →
    (values t).high widths "s_axi_bready" = false →
      (values (t + 1)).high widths "s_axi_bvalid" = true ∧
        (values (t + 1)).value widths "s_axi_bresp" = (values t).value widths "s_axi_bresp"

variable {config : Config} {widths : Widths} {e e' : Env} {length : Nat} {values : Nat → Env}
  {t : Nat}

theorem signals_eq (hprotocol : config.protocol = .axi4Lite) :
    config.interface.signals = signals config := by
  rw [Config.interface, hprotocol]
  rfl

theorem write?_eq (hprotocol : config.protocol = .axi4Lite) :
    write? config widths e =
      if e.high widths "axi_wr_fire" then
        some ⟨e.value widths "axi_awaddr_q", e.value widths "axi_wdata_q",
          e.value widths "axi_wstrb_q", e.high widths writeError⟩
      else none := by
  rw [write?, signals_eq hprotocol]
  simp only [signals, Expr.holds_signal_eq_high]

/-! ### What is held -/

section Held

variable (widths : Widths) (e : Env)

/-- The address that waits for its data. -/
def heldAddr? : Option Word :=
  if e.high widths "axi_aw_seen" then some (e.value widths "axi_awaddr_q") else none

/-- The data and the strobe that wait for their address. -/
def heldData? : Option (Word × Word) :=
  if e.high widths "axi_w_seen" then
    some (e.value widths "axi_wdata_q", e.value widths "axi_wstrb_q")
  else none

/-- The response that is offered. -/
def heldResponse? : Option Word :=
  if e.high widths "s_axi_bvalid" then some (e.value widths "s_axi_bresp") else none

end Held

section Cycle

variable (hprotocol : config.protocol = .axi4Lite) (hwired : Wired widths e)
  (hstep : WriteStep widths e e')

include hprotocol hwired hstep

theorem passes_addr :
    Passes (heldAddr? widths e) (addrBeat? widths e) ((write? config widths e).map Write.addr)
      (heldAddr? widths e') := by
  have htake : (e.high widths "s_axi_awvalid" && e.high widths "s_axi_awready") = true →
      e.high widths "axi_aw_seen" = false := by
    rw [hwired.awready]
    simp
  have hgive : e.high widths "axi_wr_fire" = true → e.high widths "axi_aw_seen" = true := by
    rw [hwired.writeFire]
    simp +contextual
  rw [heldAddr?, heldAddr?, high_of_lowered hstep.awSeen htake hgive, hstep.addr,
    write?_eq hprotocol, Option.map_if]
  exact passes_register htake hgive

theorem passes_data :
    Passes (heldData? widths e) (dataBeat? widths e)
      ((write? config widths e).map fun write => (write.data, write.strobe))
      (heldData? widths e') := by
  have htake : (e.high widths "s_axi_wvalid" && e.high widths "s_axi_wready") = true →
      e.high widths "axi_w_seen" = false := by
    rw [hwired.wready]
    simp
  have hgive : e.high widths "axi_wr_fire" = true → e.high widths "axi_w_seen" = true := by
    rw [hwired.writeFire]
    simp +contextual
  have hbeat : (e'.value widths "axi_wdata_q", e'.value widths "axi_wstrb_q") =
      if e.high widths "s_axi_wvalid" && e.high widths "s_axi_wready" then
        (e.value widths "s_axi_wdata", e.value widths "s_axi_wstrb")
      else (e.value widths "axi_wdata_q", e.value widths "axi_wstrb_q") := by
    rw [hstep.data, hstep.strobe]
    split <;> rfl
  rw [heldData?, heldData?, high_of_lowered hstep.wSeen htake hgive, hbeat, write?_eq hprotocol,
    Option.map_if]
  exact passes_register htake hgive

theorem passes_response :
    Passes (heldResponse? widths e)
      ((write? config widths e).map fun write => responseCode write.refused)
      (responseBeat? widths e) (heldResponse? widths e') := by
  have htake : e.high widths "axi_wr_fire" = true → e.high widths "s_axi_bvalid" = false := by
    rw [hwired.writeFire]
    simp +contextual
  have hgive : (e.high widths "s_axi_bvalid" && e.high widths "s_axi_bready") = true →
      e.high widths "s_axi_bvalid" = true := by
    simp +contextual
  rw [heldResponse?, heldResponse?, high_of_raised hstep.bvalid, hstep.bresp,
    write?_eq hprotocol, Option.map_if]
  exact passes_register htake hgive

end Cycle

/-! ### Runs -/

section Runs

variable (hsized : Sized config widths) (hprotocol : config.protocol = .axi4Lite)
  (hrun : Run config widths length values)

include hsized hprotocol hrun

theorem addrBeats_eq (ht : t ≤ length) :
    beats (addrBeat? widths) values t =
      (beats (write? config widths) values t).map Write.addr ++
        (heldAddr? widths (values t)).toList := by
  have hempty : heldAddr? widths (values 0) = none := by
    rw [heldAddr?, low_of_run hsized hprotocol hrun _ (by decide), if_neg Bool.false_ne_true]
  rw [← beats_map]
  exact beats_eq_append_held hempty (fun t ht =>
    passes_addr hprotocol (wired_of_run hsized hprotocol hrun ht)
      (writeStep_of_run hsized hprotocol hrun ht)) ht

theorem dataBeats_eq (ht : t ≤ length) :
    beats (dataBeat? widths) values t =
      ((beats (write? config widths) values t).map fun write => (write.data, write.strobe)) ++
        (heldData? widths (values t)).toList := by
  have hempty : heldData? widths (values 0) = none := by
    rw [heldData?, low_of_run hsized hprotocol hrun _ (by decide), if_neg Bool.false_ne_true]
  rw [← beats_map]
  exact beats_eq_append_held hempty (fun t ht =>
    passes_data hprotocol (wired_of_run hsized hprotocol hrun ht)
      (writeStep_of_run hsized hprotocol hrun ht)) ht

theorem responses_eq (ht : t ≤ length) :
    ((beats (write? config widths) values t).map fun write => responseCode write.refused) =
      beats (responseBeat? widths) values t ++ (heldResponse? widths (values t)).toList := by
  have hempty : heldResponse? widths (values 0) = none := by
    rw [heldResponse?, low_of_run hsized hprotocol hrun _ (by decide), if_neg Bool.false_ne_true]
  rw [← beats_map]
  exact beats_eq_append_held hempty (fun t ht =>
    passes_response hprotocol (wired_of_run hsized hprotocol hrun ht)
      (writeStep_of_run hsized hprotocol hrun ht)) ht

theorem length_addrBeats (ht : t ≤ length) :
    (beats (addrBeat? widths) values t).length =
      (beats (write? config widths) values t).length +
        ((values t).high widths "axi_aw_seen").toNat := by
  rw [addrBeats_eq hsized hprotocol hrun ht, List.length_append, List.length_map, heldAddr?,
    length_toList_ite]

theorem length_dataBeats (ht : t ≤ length) :
    (beats (dataBeat? widths) values t).length =
      (beats (write? config widths) values t).length +
        ((values t).high widths "axi_w_seen").toNat := by
  rw [dataBeats_eq hsized hprotocol hrun ht, List.length_append, List.length_map, heldData?,
    length_toList_ite]

theorem length_writes (ht : t ≤ length) :
    (beats (write? config widths) values t).length =
      (beats (responseBeat? widths) values t).length +
        ((values t).high widths "s_axi_bvalid").toNat := by
  have hlength := congrArg List.length (responses_eq hsized hprotocol hrun ht)
  rwa [List.length_append, List.length_map, heldResponse?, length_toList_ite] at hlength

theorem writesInOrder_of_run (ht : t ≤ length) : WritesInOrder config widths values t where
  addrs := ⟨_, (addrBeats_eq hsized hprotocol hrun ht).symm⟩
  data := ⟨_, (dataBeats_eq hsized hprotocol hrun ht).symm⟩
  addrsHeld := by
    rw [length_addrBeats hsized hprotocol hrun ht]
    exact Nat.add_le_add_left (Bool.toNat_le _) _
  dataHeld := by
    rw [length_dataBeats hsized hprotocol hrun ht]
    exact Nat.add_le_add_left (Bool.toNat_le _) _
  responses := ⟨_, (responses_eq hsized hprotocol hrun ht).symm⟩
  outstanding := length_writes hsized hprotocol hrun ht

theorem writeCycle_of_run (ht : t < length) : WriteCycle config widths values t := by
  have hwired := wired_of_run hsized hprotocol hrun ht
  have hstep := writeStep_of_run hsized hprotocol hrun ht
  have hfire : (write? config widths (values t)).isSome =
      ((values t).high widths "axi_aw_seen" && (values t).high widths "axi_w_seen" &&
        !(values t).high widths "s_axi_bvalid") := by
    rw [write?_eq hprotocol, ← hwired.writeFire]
    cases (values t).high widths "axi_wr_fire" <;> rfl
  refine ⟨?_, ?_, ?_⟩
  · rw [hfire, length_addrBeats hsized hprotocol hrun (Nat.le_of_lt ht),
      length_dataBeats hsized hprotocol hrun (Nat.le_of_lt ht),
      length_writes hsized hprotocol hrun (Nat.le_of_lt ht)]
    cases (values t).high widths "axi_aw_seen" <;> cases (values t).high widths "axi_w_seen" <;>
      cases (values t).high widths "s_axi_bvalid" <;> simp
  · rw [hfire]
    simp
  · intro hvalid hstalled
    have hidle : (values t).high widths "axi_wr_fire" = false := by
      rw [hwired.writeFire, hvalid, Bool.not_true, Bool.and_false]
    constructor
    · rw [high_of_raised hstep.bvalid, hvalid, hstalled]
      simp
    · rw [hstep.bresp, hidle, if_neg Bool.false_ne_true]

end Runs

end AxiLite

/-- Over AXI4-Lite, writes are neither lost nor repeated nor mixed up, whatever the master does:
    every write that fires is made of the address beat and the data beat of its number and has one
    response, that of its number. -/
theorem axiLite_writes_in_order (config : Config) (provenance : Provenance)
    (hprotocol : config.protocol = .axi4Lite) (length : Nat) (values : Nat → Env)
    (hrun : Run config (Hardware.ofConfig config provenance).widths length values) :
    (∀ t ≤ length,
      AxiLite.WritesInOrder config (Hardware.ofConfig config provenance).widths values t) ∧
    ∀ t < length,
      AxiLite.WriteCycle config (Hardware.ofConfig config provenance).widths values t := by
  have hsized := AxiLite.sized provenance hprotocol
  exact ⟨fun t ht => AxiLite.writesInOrder_of_run hsized hprotocol hrun ht,
    fun t ht => AxiLite.writeCycle_of_run hsized hprotocol hrun ht⟩

namespace AxiLite

/-- Two registers on AXI4-Lite. -/
def twoRegisters : Config where
  moduleName := "regs"
  protocol := .axi4Lite
  syncReset := true
  registers := [{ name := "A", address := some 4 }, { name := "B", address := some 8 }]

/-- The signals that are not zero in a cycle of two writes and two reads. The first write gets its
    data before its address and is refused, and its response has to wait while the second write is
    already taken up. The first read has to wait for the master, too. -/
def trafficSignals : Nat → List (String × Word)
  | 0 =>
    [("s_axi_awready", 1), ("s_axi_wready", 1), ("s_axi_arready", 1), ("s_axi_wvalid", 1),
      ("s_axi_wdata", 5), ("s_axi_wstrb", 15), ("s_axi_arvalid", 1), ("s_axi_araddr", 4),
      ("axi_rd_fire", 1), ("axi_rd_data", 9)]
  | 1 =>
    [("axi_w_seen", 1), ("axi_wdata_q", 5), ("axi_wstrb_q", 15), ("s_axi_awready", 1),
      ("s_axi_awvalid", 1), ("s_axi_awaddr", 4), ("s_axi_rvalid", 1), ("s_axi_rdata", 9),
      ("s_axi_arvalid", 1), ("s_axi_araddr", 8), ("axi_rd_data", 3)]
  | 2 =>
    [("axi_aw_seen", 1), ("axi_w_seen", 1), ("axi_awaddr_q", 4), ("axi_wdata_q", 5),
      ("axi_wstrb_q", 15), ("axi_wr_fire", 1), ("bus_wr_err", 1), ("s_axi_awvalid", 1),
      ("s_axi_awaddr", 8), ("s_axi_rvalid", 1), ("s_axi_rdata", 9), ("s_axi_rready", 1),
      ("s_axi_arvalid", 1), ("s_axi_araddr", 8)]
  | 3 =>
    [("axi_awaddr_q", 4), ("axi_wdata_q", 5), ("axi_wstrb_q", 15), ("s_axi_bvalid", 1),
      ("s_axi_bresp", 2), ("s_axi_awready", 1), ("s_axi_wready", 1), ("s_axi_arready", 1),
      ("s_axi_awvalid", 1), ("s_axi_awaddr", 8), ("s_axi_wvalid", 1), ("s_axi_wdata", 7),
      ("s_axi_wstrb", 3), ("s_axi_rdata", 9), ("s_axi_arvalid", 1), ("s_axi_araddr", 8),
      ("axi_rd_fire", 1), ("bus_rd_err", 1)]
  | 4 =>
    [("axi_aw_seen", 1), ("axi_w_seen", 1), ("axi_awaddr_q", 8), ("axi_wdata_q", 7),
      ("axi_wstrb_q", 3), ("s_axi_bvalid", 1), ("s_axi_bresp", 2), ("s_axi_bready", 1),
      ("s_axi_rvalid", 1), ("s_axi_rresp", 2), ("s_axi_rready", 1)]
  | 5 =>
    [("axi_aw_seen", 1), ("axi_w_seen", 1), ("axi_awaddr_q", 8), ("axi_wdata_q", 7),
      ("axi_wstrb_q", 3), ("axi_wr_fire", 1), ("s_axi_bresp", 2), ("s_axi_arready", 1),
      ("s_axi_rresp", 2)]
  | _ =>
    [("axi_awaddr_q", 8), ("axi_wdata_q", 7), ("axi_wstrb_q", 3), ("s_axi_bvalid", 1),
      ("s_axi_rresp", 2)]

def traffic (t : Nat) : Env := fun name =>
  ((trafficSignals t).lookup name).getD 0

theorem run_traffic :
    Run twoRegisters (Hardware.ofConfig twoRegisters ⟨"regforge", "unspecified", ""⟩).widths 6
      traffic where
  reset := ⟨fun _ => 1, by decide +kernel, by decide +kernel⟩
  released := by decide +kernel
  settled := by decide +kernel
  steps := by decide +kernel

end AxiLite

/-- Both writes fire, the second only after the response to the first, which says that it was
    refused. -/
theorem axiLite_writes_in_order_traffic :
    Run AxiLite.twoRegisters
        (Hardware.ofConfig AxiLite.twoRegisters ⟨"regforge", "unspecified", ""⟩).widths 6
        AxiLite.traffic ∧
      beats (AxiLite.write? AxiLite.twoRegisters
          (Hardware.ofConfig AxiLite.twoRegisters ⟨"regforge", "unspecified", ""⟩).widths)
        AxiLite.traffic 6 = [⟨4, 5, 15, true⟩, ⟨8, 7, 3, false⟩] ∧
      AxiLite.WritesInOrder AxiLite.twoRegisters
        (Hardware.ofConfig AxiLite.twoRegisters ⟨"regforge", "unspecified", ""⟩).widths
        AxiLite.traffic 6 ∧
      AxiLite.WriteCycle AxiLite.twoRegisters
        (Hardware.ofConfig AxiLite.twoRegisters ⟨"regforge", "unspecified", ""⟩).widths
        AxiLite.traffic 3 := by
  have horder := axiLite_writes_in_order AxiLite.twoRegisters ⟨"regforge", "unspecified", ""⟩ rfl 6
    AxiLite.traffic AxiLite.run_traffic
  exact ⟨AxiLite.run_traffic, by decide +kernel, horder.1 6 (by decide), horder.2 3 (by decide)⟩

end RegisterFile.Bus
