import RegisterFile.Proofs.Bus.Run

/-!
Open Core Protocol. Every command is taken up in its cycle, and the response of the next cycle is
its answer.
-/

namespace RegisterFile.Bus.Ocp

open Verilog

/-- The signals of a command and of its response, and their codes, have the widths of their
    declarations. -/
structure Sized (widths : Widths) : Prop where
  command : ∀ name ∈ ["MCmd"], widths name = 3
  response : ∀ name ∈ ["SResp"], widths name = 2
  commandCode : ∀ name ∈ ["OCP_CMD_WR", "OCP_CMD_RD"], widths name = 3
  responseCode : ∀ name ∈ ["OCP_RESP_NULL", "OCP_RESP_DVA", "OCP_RESP_ERR"], widths name = 2

variable {config : Config} {widths : Widths} {e e' : Env}

theorem sized (provenance : Provenance) (hprotocol : config.protocol = .ocp) :
    Sized (Hardware.ofConfig config provenance).widths := by
  have hbus : Hardware.busDeclarations config =
      (ports config).map Port.declares ++ (declarations config).filterMap Item.declares? := by
    rw [Hardware.busDeclarations, Config.interface, hprotocol]
    rfl
  have hports : config.interface.ports = ports config := by
    rw [Config.interface, hprotocol]
    rfl
  constructor
  · refine Hardware.widths_of_port (by decide) ?_
    rw [hports]
    exact List.forall_mem_singleton.mpr rfl
  · refine Hardware.widths_of_port (by decide) ?_
    rw [hports]
    exact List.forall_mem_singleton.mpr rfl
  · refine Hardware.widths_of_lookup (by decide) ?_
    rw [hbus]
    exact List.forall_mem_cons.mpr ⟨rfl, List.forall_mem_singleton.mpr rfl⟩
  · refine Hardware.widths_of_lookup (by decide) ?_
    rw [hbus]
    exact List.forall_mem_cons.mpr ⟨rfl, List.forall_mem_cons.mpr ⟨rfl,
      List.forall_mem_singleton.mpr rfl⟩⟩

/-! ### Within a cycle -/

theorem interfaceItems_eq (hprotocol : config.protocol = .ocp) :
    interfaceItems config = declarations config ++ handshake config := by
  rw [interfaceItems, Config.interface, hprotocol]
  rfl

/-- What a cycle of the interface shows: the codes, and what the command makes. -/
structure Wired (config : Config) (widths : Widths) (e : Env) : Prop where
  empty : e.value widths "OCP_RESP_NULL" = 0
  valid : e.value widths "OCP_RESP_DVA" = 1
  error : e.value widths "OCP_RESP_ERR" = 3
  write : writeEnabled config widths e = decide (e.value widths "MCmd" = 1)
  read : readEnabled config widths e = decide (e.value widths "MCmd" = 2)

theorem wired (hprotocol : config.protocol = .ocp) (hsized : Sized widths)
    (hsettled : ∀ item ∈ declarations config, item.Holds widths e) :
    Wired config widths e := by
  have hcode (name : String) (width value : Nat) (hwidth : widths name = width)
      (hitem : .localparam 13 name (.binary width value) ∈ declarations config) :
      e.value widths name = BitVec.ofNat 128 value &&& Word.lowMask width := by
    have hconstant := hsettled _ hitem
    simp only [Item.Holds, Expr.evalFor, Expr.binary, Expr.eval, hwidth] at hconstant
    rw [hconstant, (Word.fitsIn_and_lowMask _ width).and_lowMask]
  have hwr : e.value widths "OCP_CMD_WR" = 1 :=
    hcode _ 3 1 (hsized.commandCode _ (by decide)) (by simp [declarations])
  have hrd : e.value widths "OCP_CMD_RD" = 2 :=
    hcode _ 3 2 (hsized.commandCode _ (by decide)) (by simp [declarations])
  refine ⟨hcode _ 2 0 (hsized.responseCode _ (by decide)) (by simp [declarations]),
    hcode _ 2 1 (hsized.responseCode _ (by decide)) (by simp [declarations]),
    hcode _ 2 3 (hsized.responseCode _ (by decide)) (by simp [declarations]), ?_, ?_⟩
  · rw [writeEnabled, Config.interface, hprotocol]
    simp only [interface, signals, issues, Expr.holds_group]
    rw [Expr.holds_equal, Expr.signal, Expr.signal, Expr.eval, Expr.eval, Env.read_whole,
      Env.read_whole, hwr, beq_eq_decide]
  · rw [readEnabled, Config.interface, hprotocol]
    simp only [interface, signals, issues, Expr.holds_group]
    rw [Expr.holds_equal, Expr.signal, Expr.signal, Expr.eval, Expr.eval, Env.read_whole,
      Env.read_whole, hrd, beq_eq_decide]

/-! ### Over a clock edge -/

/-- The response to a cycle: none without a command, and otherwise valid data or an error. -/
def responseTo (config : Config) (widths : Widths) (e : Env) : Word :=
  if writeEnabled config widths e then if e.high widths writeError then 3 else 1
  else if readEnabled config widths e then if e.high widths readError then 3 else 1
  else 0

theorem stored_response (hwired : Wired config widths e) (hsized : Sized widths) (error : String) :
    (Expr.choose (.signal error) (.signal "OCP_RESP_ERR") (.signal "OCP_RESP_DVA")).stored widths e
      "SResp" = if e.high widths error then 3 else 1 := by
  have hresponse : widths "SResp" = 2 := hsized.response _ (by decide)
  have hcode (name : String)
      (hname : name ∈ ["OCP_RESP_NULL", "OCP_RESP_DVA", "OCP_RESP_ERR"]) :
      widths name = widths "SResp" :=
    (hsized.responseCode name hname).trans hresponse.symm
  have herr : (Expr.signal "OCP_RESP_ERR").width widths ≤ widths "SResp" :=
    Nat.le_of_eq (hcode _ (by decide))
  have hdva : (Expr.signal "OCP_RESP_DVA").width widths ≤ widths "SResp" :=
    Nat.le_of_eq (hcode _ (by decide))
  rw [Expr.stored_choose herr hdva, Expr.holds_signal_eq_high,
    Expr.stored_signal (hcode _ (by decide)), Expr.stored_signal (hcode _ (by decide)),
    hwired.error, hwired.valid]

theorem stored_idle (hwired : Wired config widths e) (hsized : Sized widths) :
    (Expr.signal "OCP_RESP_NULL").stored widths e "SResp" = 0 := by
  rw [Expr.stored_signal ((hsized.responseCode _ (by decide)).trans
    (hsized.response _ (by decide)).symm), hwired.empty]

theorem value_response (hprotocol : config.protocol = .ocp) (hwired : Wired config widths e)
    (hsized : Sized widths)
    (hsteps : ∀ item ∈ declarations config ++ handshake config, item.Steps widths e e')
    (hreleased : (Reset.ofSync config.syncReset).active.holds widths e = false) :
    e'.value widths "SResp" = responseTo config widths e := by
  have hblock := hsteps _ (List.mem_append_right _
    (List.mem_cons_of_mem _ (List.mem_cons_of_mem _ List.mem_cons_self)))
  have hnext : e'.value widths "SResp" = _ :=
    hblock.value_sequential rfl rfl List.mem_cons_self
  have hwr : (issues "OCP_CMD_WR").holds widths e = writeEnabled config widths e := by
    rw [writeEnabled, Config.interface, hprotocol]
    rfl
  have hrd : (issues "OCP_CMD_RD").holds widths e = readEnabled config widths e := by
    rw [readEnabled, Config.interface, hprotocol]
    rfl
  rw [hreleased, if_neg Bool.false_ne_true] at hnext
  rw [hnext, responseTo]
  cases hwrites : writeEnabled config widths e <;> cases hreads : readEnabled config widths e <;>
    simp [Stmt.assigned, Stmt.ofList, respond, response, Stmt.when, Stmt.store,
      stored_response hwired hsized, stored_idle hwired hsized, hwr, hrd, hwrites, hreads]

/-- Under reset the response is empty, if the constants are settled. -/
theorem value_response_of_reset (hwired : Wired config widths e) (hsized : Sized widths)
    (hsteps : ∀ item ∈ declarations config ++ handshake config, item.Steps widths e e')
    (hactive : (Reset.ofSync config.syncReset).active.holds widths e = true) :
    e'.value widths "SResp" = 0 := by
  have hblock := hsteps _ (List.mem_append_right _
    (List.mem_cons_of_mem _ (List.mem_cons_of_mem _ List.mem_cons_self)))
  have hnext : e'.value widths "SResp" = _ :=
    hblock.value_sequential rfl rfl List.mem_cons_self
  rw [hactive, if_pos rfl] at hnext
  rw [hnext]
  simp [Stmt.assigned, Stmt.ofList, Stmt.store, stored_idle hwired hsized]

/-! ### Runs -/

section Runs

variable {length : Nat} {values : Nat → Env} {t : Nat}

/-- What a command makes, and how the next cycle responds to it. -/
structure Transfers (config : Config) (widths : Widths) (values : Nat → Env) (t : Nat) : Prop where
  write : writeEnabled config widths (values t) = decide ((values t).value widths "MCmd" = 1)
  read : readEnabled config widths (values t) = decide ((values t).value widths "MCmd" = 2)
  /-- There is a response, valid data or an error, exactly to a write and to a read. -/
  answered : ((values (t + 1)).value widths "SResp" = 1 ∨
      (values (t + 1)).value widths "SResp" = 3) ↔
    ((values t).value widths "MCmd" = 1 ∨ (values t).value widths "MCmd" = 2)
  refused : (values (t + 1)).value widths "SResp" = 3 ↔
    ((values t).value widths "MCmd" = 1 ∧ (values t).high widths writeError = true) ∨
      ((values t).value widths "MCmd" = 2 ∧ (values t).high widths readError = true)
  silent : (values t).value widths "MCmd" ≠ 1 → (values t).value widths "MCmd" ≠ 2 →
    (values (t + 1)).value widths "SResp" = 0

/-- A reset cycle at rest in front of a run. -/
structure ResetCycle (config : Config) (widths : Widths) (e : Env) (values : Nat → Env) :
    Prop where
  active : (Reset.ofSync config.syncReset).active.holds widths e = true
  settled : ∀ item ∈ interfaceItems config, item.Holds widths e
  steps : ∀ item ∈ interfaceItems config, item.Steps widths e (values 0)

variable (hsized : Sized widths) (hprotocol : config.protocol = .ocp)

include hsized hprotocol

theorem wired_of_settled (hsettled : ∀ item ∈ interfaceItems config, item.Holds widths e) :
    Wired config widths e := by
  rw [interfaceItems_eq hprotocol] at hsettled
  exact wired hprotocol hsized fun item hitem => hsettled item (List.mem_append_left _ hitem)

theorem transfers_of_run (hrun : Run config widths length values) (ht : t < length) :
    Transfers config widths values t := by
  have hwired := wired_of_settled hsized hprotocol (hrun.settled t ht)
  have hresponse := value_response hprotocol hwired hsized
    (interfaceItems_eq hprotocol ▸ hrun.steps t ht) (hrun.released t ht)
  rw [responseTo, hwired.write, hwired.read] at hresponse
  simp only [decide_eq_true_eq] at hresponse
  refine ⟨hwired.write, hwired.read, ?_, ?_, fun hwr hrd => ?_⟩
  · rw [hresponse]
    by_cases hwr : (values t).value widths "MCmd" = 1
    · cases (values t).high widths writeError <;> simp [hwr]
    · by_cases hrd : (values t).value widths "MCmd" = 2
      · cases (values t).high widths readError <;> simp [hrd]
      · simp only [hwr, hrd, if_false, or_self, iff_false]
        decide
  · rw [hresponse]
    by_cases hwr : (values t).value widths "MCmd" = 1
    · cases (values t).high widths writeError <;> simp [hwr]
    · by_cases hrd : (values t).value widths "MCmd" = 2
      · cases (values t).high widths readError <;> simp [hrd]
      · simp only [hwr, hrd, if_false, false_and, or_self, iff_false]
        decide
  · rw [hresponse, if_neg hwr, if_neg hrd]

theorem silent_of_reset (hreset : ResetCycle config widths e values) :
    (values 0).value widths "SResp" = 0 :=
  value_response_of_reset (wired_of_settled hsized hprotocol hreset.settled) hsized
    (interfaceItems_eq hprotocol ▸ hreset.steps) hreset.active

end Runs

/-! ### Traffic -/

/-- A register on OCP. -/
def register : Config where
  moduleName := "regs"
  protocol := .ocp
  syncReset := true
  registers := [{ name := "A", address := some 4 }]

/-- The signals that never change. -/
def constants : List (String × Word) :=
  [("OCP_CMD_WR", 1), ("OCP_CMD_RD", 2), ("OCP_RESP_DVA", 1), ("OCP_RESP_ERR", 3),
    ("SCmdAccept", 1)]

/-- The other signals that are not zero in a cycle of a write and, at once after it, a read in
    error. -/
def trafficSignals : Nat → List (String × Word)
  | 0 => [("MCmd", 1), ("MAddr", 4), ("MData", 5)]
  | 1 => [("SResp", 1), ("MCmd", 2), ("MAddr", 8), ("ocp_rd_data", 9), ("bus_rd_err", 1)]
  | 2 => [("SResp", 3), ("SData", 9)]
  | _ => [("SData", 9)]

def traffic (t : Nat) : Env := fun name =>
  ((constants ++ trafficSignals t).lookup name).getD 0

/-- A cycle of reset. -/
def resetValues : Env := fun name =>
  ((constants ++ [("rst", 1)]).lookup name).getD 0

theorem resetCycle_traffic :
    ResetCycle register (Hardware.ofConfig register ⟨"regforge", "unspecified", ""⟩).widths
      resetValues traffic where
  active := by decide +kernel
  settled := by decide +kernel
  steps := by decide +kernel

theorem run_traffic :
    Run register (Hardware.ofConfig register ⟨"regforge", "unspecified", ""⟩).widths 3
      traffic where
  reset := ⟨resetValues, resetCycle_traffic.active, resetCycle_traffic.steps⟩
  released := by decide +kernel
  settled := by decide +kernel
  steps := by decide +kernel

end RegisterFile.Bus.Ocp
