import RegisterFile.Proofs.Bus.Run

/-!
Wishbone, one access after the other. An access is a cycle in which a transfer is asked for and none
is being answered; its answer is in the next cycle, which therefore makes no access.
-/

namespace RegisterFile.Bus.Wishbone

open Verilog

/-- The ports of one bit. -/
def bits : List String :=
  ["wb_we_i", "wb_stb_i", "wb_cyc_i", "wb_ack_o", "wb_err_o"]

/-- The signals of the interface have the widths of their declarations. -/
structure Sized (widths : Widths) : Prop where
  bit : ∀ name ∈ bits, widths name = 1
  access : ∀ name ∈ ["wb_access"], widths name = 1

variable {config : Config} {widths : Widths} {e e' : Env}

theorem sized (provenance : Provenance) (hprotocol : config.protocol = .wishbone) :
    Sized (Hardware.ofConfig config provenance).widths := by
  constructor
  · refine Hardware.widths_of_port (by decide) ?_
    simp only [Config.interface, hprotocol, interface, bits, List.forall_mem_cons]
    exact ⟨rfl, rfl, rfl, rfl, rfl, List.forall_mem_nil _⟩
  · refine Hardware.widths_of_lookup (by decide) ?_
    simp only [Hardware.busDeclarations, Config.interface, hprotocol, interface,
      List.forall_mem_singleton]
    rfl

/-! ### Within a cycle -/

theorem interfaceItems_eq (hprotocol : config.protocol = .wishbone) :
    interfaceItems config = declarations config ++ handshake config := by
  rw [interfaceItems, Config.interface, hprotocol]
  rfl

/-- Whether the error wire of the current direction is high. -/
def refused (widths : Widths) (e : Env) : Bool :=
  if e.high widths "wb_we_i" then e.high widths writeError else e.high widths readError

/-- What a cycle of the interface shows: whether it makes an access, and which. -/
structure Wired (config : Config) (widths : Widths) (e : Env) : Prop where
  access : e.high widths "wb_access" =
    (e.high widths "wb_cyc_i" && e.high widths "wb_stb_i" && !e.high widths "wb_ack_o" &&
      !e.high widths "wb_err_o")
  write : writeEnabled config widths e =
    (e.high widths "wb_access" && e.high widths "wb_we_i")
  read : readEnabled config widths e =
    (e.high widths "wb_access" && !e.high widths "wb_we_i")

theorem wired (hprotocol : config.protocol = .wishbone) (hsized : Sized widths)
    (hsettled : ∀ item ∈ declarations config ++ handshake config, item.Holds widths e) :
    Wired config widths e := by
  have hbit (name : String) (hname : name ∈ bits) : (Expr.signal name).width widths = 1 :=
    hsized.bit name hname
  have hnot (name : String) (hname : name ∈ bits) : (Expr.invertSignal name).width widths = 1 :=
    hsized.bit name hname
  have haccess : (Expr.signal "wb_access").width widths = 1 := hsized.access _ (by decide)
  refine ⟨?_, ?_, ?_⟩
  · have hrest : ∀ term ∈ [Expr.signal "wb_stb_i", .invertSignal "wb_ack_o",
        .invertSignal "wb_err_o"], term.width widths = 1 := by
      simp only [List.forall_mem_cons]
      exact ⟨hbit "wb_stb_i" (by decide), hnot "wb_ack_o" (by decide),
        hnot "wb_err_o" (by decide), List.forall_mem_nil _⟩
    have hwire := hsettled _ (List.mem_append_left _ (List.mem_cons_of_mem _ List.mem_cons_self))
    rw [Env.high_of_value (hwire.value_wire haccess
        (Expr.width_ands (hbit "wb_cyc_i" (by decide)) hrest)),
      Expr.holds_ands (hbit "wb_cyc_i" (by decide)) hrest]
    simp [Expr.holds_signal_eq_high, Expr.holds_invertSignal (hsized.bit "wb_ack_o" (by decide)),
      Expr.holds_invertSignal (hsized.bit "wb_err_o" (by decide)), Bool.and_assoc]
  · rw [writeEnabled, Config.interface, hprotocol]
    simp only [interface, signals]
    rw [Expr.holds_ands haccess (List.forall_mem_singleton.mpr (hbit "wb_we_i" (by decide)))]
    simp [Expr.holds_signal_eq_high]
  · rw [readEnabled, Config.interface, hprotocol]
    simp only [interface, signals]
    rw [Expr.holds_ands haccess (List.forall_mem_singleton.mpr (hnot "wb_we_i" (by decide)))]
    simp [Expr.holds_signal_eq_high, Expr.holds_invertSignal (hsized.bit "wb_we_i" (by decide))]

/-! ### Over a clock edge -/

/-- The registers of the answers. -/
def registers : List String :=
  ["wb_ack_o", "wb_err_o", "wb_dat_o"]

/-- The answer to a cycle. -/
structure Answer (widths : Widths) (e e' : Env) : Prop where
  ack : e'.high widths "wb_ack_o" = (e.high widths "wb_access" && !refused widths e)
  err : e'.high widths "wb_err_o" = (e.high widths "wb_access" && refused widths e)

theorem holds_selected :
    (Expr.choose (.signal "wb_we_i") (.signal writeError) (.signal readError)).holds widths e =
      refused widths e := by
  simp only [Expr.holds, Expr.eval, refused, Env.high, Expr.signal, Env.read_whole,
    bne_iff_ne]
  split <;> rename_i hwe <;> simp [hwe]

theorem answer (hsized : Sized widths)
    (hsteps : ∀ item ∈ declarations config ++ handshake config, item.Steps widths e e')
    (hreleased : (Reset.ofSync config.syncReset).active.holds widths e = false) :
    Answer widths e e' := by
  have hblock := hsteps _ (List.mem_append_right _ List.mem_cons_self)
  have hnext (name : String) (hname : name ∈ registers) :=
    hblock.value_sequential rfl rfl hname
  have hack (b : Bool) : (Expr.bit b).stored widths e "wb_ack_o" = flag b :=
    Expr.stored_bit (hsized.bit _ (by decide)) b
  have herr (b : Bool) : (Expr.bit b).stored widths e "wb_err_o" = flag b :=
    Expr.stored_bit (hsized.bit _ (by decide)) b
  simp only [hreleased, Bool.false_eq_true, if_false] at hnext
  constructor
  · apply Env.high_of_value
    rw [hnext _ (by decide)]
    cases haccess : e.high widths "wb_access" <;> cases hrefused : refused widths e <;>
      simp [Stmt.assigned, Stmt.ofList, withdraw, respond, Stmt.when, Stmt.ifElse, Stmt.store,
        Expr.holds_signal_eq_high, holds_selected, haccess, hrefused, hack]
  · apply Env.high_of_value
    rw [hnext _ (by decide)]
    cases haccess : e.high widths "wb_access" <;> cases hrefused : refused widths e <;>
      simp [Stmt.assigned, Stmt.ofList, withdraw, respond, Stmt.when, Stmt.ifElse, Stmt.store,
        Expr.holds_signal_eq_high, holds_selected, haccess, hrefused, herr]

/-- Under reset nothing is answered. -/
theorem quiet_of_reset (hsized : Sized widths)
    (hsteps : ∀ item ∈ declarations config ++ handshake config, item.Steps widths e e')
    (hactive : (Reset.ofSync config.syncReset).active.holds widths e = true) :
    e'.high widths "wb_ack_o" = false ∧ e'.high widths "wb_err_o" = false := by
  have hblock := hsteps _ (List.mem_append_right _ List.mem_cons_self)
  have hnext (name : String) (hname : name ∈ registers) :=
    hblock.value_sequential rfl rfl hname
  simp only [hactive, if_true] at hnext
  constructor
  · apply Env.high_of_value
    rw [hnext _ (by decide)]
    simp [Stmt.assigned, Stmt.ofList, withdraw, Stmt.store,
      Expr.stored_bit (hsized.bit "wb_ack_o" (by decide))]
  · apply Env.high_of_value
    rw [hnext _ (by decide)]
    simp [Stmt.assigned, Stmt.ofList, withdraw, Stmt.store,
      Expr.stored_bit (hsized.bit "wb_err_o" (by decide))]

/-! ### Runs -/

section Runs

variable {length : Nat} {values : Nat → Env} {t : Nat}

/-- Whether a transfer is being answered. -/
def answering (widths : Widths) (e : Env) : Bool :=
  e.high widths "wb_ack_o" || e.high widths "wb_err_o"

/-- What a cycle makes, and how the next one answers it. -/
structure Transfers (config : Config) (widths : Widths) (values : Nat → Env) (t : Nat) : Prop where
  /-- An access makes either a write or a read, and nothing is made without one. -/
  enabled : ((values t).high widths "wb_access" = true ↔
      (writeEnabled config widths (values t) != readEnabled config widths (values t)) = true) ∧
    (writeEnabled config widths (values t) && readEnabled config widths (values t)) = false
  /-- An access has one answer, which tells whether it is in error. -/
  answered : (values t).high widths "wb_access" = true →
    (values (t + 1)).high widths "wb_err_o" = refused widths (values t) ∧
      (values (t + 1)).high widths "wb_ack_o" = !refused widths (values t)
  caused : answering widths (values (t + 1)) = true → (values t).high widths "wb_access" = true
  /-- No answer lasts for two cycles or follows another one at once. -/
  single : answering widths (values t) = true → answering widths (values (t + 1)) = false

variable (hsized : Sized widths) (hprotocol : config.protocol = .wishbone)
  (hrun : Run config widths length values)

include hsized hprotocol hrun

theorem transfers_of_run (ht : t < length) : Transfers config widths values t := by
  have hwired := wired hprotocol hsized (interfaceItems_eq hprotocol ▸ hrun.settled t ht)
  have hanswer := answer hsized (interfaceItems_eq hprotocol ▸ hrun.steps t ht) (hrun.released t ht)
  have hanswering : answering widths (values (t + 1)) = (values t).high widths "wb_access" := by
    rw [answering, hanswer.ack, hanswer.err]
    cases (values t).high widths "wb_access" <;> cases refused widths (values t) <;> rfl
  refine ⟨?_, fun haccess => ?_, fun hnext => ?_, fun hnow => ?_⟩
  · rw [hwired.write, hwired.read]
    cases (values t).high widths "wb_access" <;> cases (values t).high widths "wb_we_i" <;> decide
  · rw [hanswer.err, hanswer.ack, haccess, Bool.true_and, Bool.true_and]
    exact ⟨rfl, rfl⟩
  · rw [← hanswering, hnext]
  · -- While an answer is given, nothing new is taken up.
    rw [answering, Bool.or_eq_true] at hnow
    rw [hanswering, hwired.access]
    rcases hnow with hack | herr
    · rw [hack, Bool.not_true, Bool.and_false, Bool.false_and]
    · rw [herr, Bool.not_true, Bool.and_false]

theorem not_answering_zero : answering widths (values 0) = false := by
  obtain ⟨e, hactive, hsteps⟩ := hrun.reset
  obtain ⟨hack, herr⟩ := quiet_of_reset hsized (interfaceItems_eq hprotocol ▸ hsteps) hactive
  rw [answering, hack, herr, Bool.or_self]

end Runs

/-! ### Traffic -/

/-- A register on Wishbone. -/
def register : Config where
  moduleName := "regs"
  protocol := .wishbone
  syncReset := true
  registers := [{ name := "A", address := some 4 }]

/-- The signals that are not zero in a cycle of a write, which is held until it is acknowledged, and
    of a read in error. -/
def trafficSignals : Nat → List (String × Word)
  | 0 => [("wb_cyc_i", 1), ("wb_stb_i", 1), ("wb_we_i", 1), ("wb_adr_i", 4), ("wb_dat_i", 5),
      ("wb_access", 1)]
  | 1 => [("wb_cyc_i", 1), ("wb_stb_i", 1), ("wb_we_i", 1), ("wb_adr_i", 4), ("wb_dat_i", 5),
      ("wb_ack_o", 1)]
  | 2 => [("wb_cyc_i", 1), ("wb_stb_i", 1), ("wb_adr_i", 8), ("wb_access", 1), ("wb_rd_data", 9),
      ("bus_rd_err", 1)]
  | _ => [("wb_err_o", 1), ("wb_dat_o", 9)]

def traffic (t : Nat) : Env := fun name =>
  ((trafficSignals t).lookup name).getD 0

theorem run_traffic :
    Run register (Hardware.ofConfig register ⟨"regforge", "unspecified", ""⟩).widths 3
      traffic where
  reset := ⟨fun _ => 1, by decide +kernel, by decide +kernel⟩
  released := by decide +kernel
  settled := by decide +kernel
  steps := by decide +kernel

end RegisterFile.Bus.Wishbone
