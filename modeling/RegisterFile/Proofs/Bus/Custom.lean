import RegisterFile.Proofs.Bus.Run

/-!
The plain request and acknowledge handshake with registered read data. A request makes its transfer
in a cycle without an acknowledge, and the next cycle acknowledges it.
-/

namespace RegisterFile.Bus.Custom

open Verilog

/-- The ports of one bit. -/
def bits : List String :=
  ["req", "wr_en", "rd_en", "ack", "err"]

/-- The signals of the interface and the error wires have the widths of their declarations. -/
structure Sized (widths : Widths) : Prop where
  bit : ∀ name ∈ bits, widths name = 1
  error : ∀ name ∈ [writeError, readError], widths name = 1

variable {config : Config} {widths : Widths} {e e' : Env}

theorem sized (provenance : Provenance) (hprotocol : config.protocol = .custom) :
    Sized (Hardware.ofConfig config provenance).widths := by
  constructor
  · refine Hardware.widths_of_port (by decide) ?_
    simp only [Config.interface, hprotocol, interface, ports, responsePort, bits,
      List.forall_mem_cons]
    cases config.options.registeredRead <;>
      exact ⟨rfl, rfl, rfl, rfl, rfl, List.forall_mem_nil _⟩
  · exact fun name hname => Hardware.widths_error hname

/-! ### Within a cycle -/

theorem interfaceItems_eq (hprotocol : config.protocol = .custom) :
    interfaceItems config = declarations config ++ handshake config := by
  rw [interfaceItems, Config.interface, hprotocol]
  rfl

theorem enabled_eq (hprotocol : config.protocol = .custom)
    (hregistered : config.options.registeredRead = true) (hsized : Sized widths) (e : Env) :
    writeEnabled config widths e =
        (e.high widths "req" && e.high widths "wr_en" && !e.high widths "ack") ∧
      readEnabled config widths e =
        (e.high widths "req" && e.high widths "rd_en" && !e.high widths "ack") := by
  have hrequest : (Expr.signal "req").width widths = 1 := hsized.bit _ (by decide)
  have hterms (name : String) (hname : name ∈ bits) :
      ∀ term ∈ [Expr.signal name, .invertSignal "ack"], term.width widths = 1 :=
    List.forall_mem_cons.mpr ⟨hsized.bit name hname,
      List.forall_mem_singleton.mpr (hsized.bit "ack" (by decide))⟩
  rw [writeEnabled, readEnabled, Config.interface, hprotocol]
  simp only [interface, signals, idleTerms, hregistered, if_true]
  rw [Expr.holds_ands hrequest (hterms _ (by decide)),
    Expr.holds_ands hrequest (hterms _ (by decide))]
  simp [Expr.holds_signal_eq_high, Expr.holds_invertSignal (hsized.bit "ack" (by decide)),
    Bool.and_assoc]

/-! ### Over a clock edge -/

/-- Whether the error wire of the current direction is high. -/
def refused (widths : Widths) (e : Env) : Bool :=
  e.high widths "wr_en" && e.high widths writeError ||
    e.high widths "rd_en" && e.high widths readError

/-- The registers of the response. -/
def registers : List String :=
  ["ack", "err", "rdata"]

/-- The response to a cycle. -/
structure Answer (widths : Widths) (e e' : Env) : Prop where
  ack : e'.high widths "ack" = (e.high widths "req" && !e.high widths "ack")
  err : e'.high widths "err" = (e.high widths "req" && !e.high widths "ack" && refused widths e)

theorem holds_error (hsized : Sized widths) :
    error.width widths = 1 ∧ error.holds widths e = refused widths e := by
  have hwrite : (Expr.signal "wr_en").width widths = 1 := hsized.bit _ (by decide)
  have hread : (Expr.signal "rd_en").width widths = 1 := hsized.bit _ (by decide)
  have hwriteError : ∀ term ∈ [Expr.signal writeError], term.width widths = 1 :=
    List.forall_mem_singleton.mpr (hsized.error writeError (by decide))
  have hreadError : ∀ term ∈ [Expr.signal readError], term.width widths = 1 :=
    List.forall_mem_singleton.mpr (hsized.error readError (by decide))
  have hleft : (Expr.group (.ands (.signal "wr_en") [.signal writeError])).width widths = 1 :=
    Expr.width_ands hwrite hwriteError
  have hright : (Expr.group (.ands (.signal "rd_en") [.signal readError])).width widths = 1 :=
    Expr.width_ands hread hreadError
  constructor
  · simp only [error, Expr.width] at hleft hright ⊢
    rw [hleft, hright, Nat.max_self]
  · rw [error, Expr.holds_group, Expr.holds_or hleft hright, Expr.holds_group, Expr.holds_group,
      Expr.holds_ands hwrite hwriteError, Expr.holds_ands hread hreadError]
    simp [Expr.holds_signal_eq_high, refused]

theorem answer (hregistered : config.options.registeredRead = true) (hsized : Sized widths)
    (hsteps : ∀ item ∈ declarations config ++ handshake config, item.Steps widths e e')
    (hreleased : (Reset.ofSync config.syncReset).active.holds widths e = false) :
    Answer widths e e' := by
  have hblock : (responseBlock config).Steps widths e e' :=
    hsteps _ (by simp [handshake, hregistered])
  have hnext (name : String) (hname : name ∈ registers) :=
    hblock.value_sequential rfl rfl hname
  have hrequest : (Expr.signal "req").width widths = 1 := hsized.bit _ (by decide)
  have hidle : (Expr.invertSignal "ack").width widths = 1 := hsized.bit "ack" (by decide)
  obtain ⟨herrorWidth, herror⟩ := holds_error (e := e) hsized
  have hack : (Expr.ands (.signal "req") [.invertSignal "ack"]).stored widths e "ack" =
      flag (e.high widths "req" && !e.high widths "ack") := by
    have hterms : ∀ term ∈ [Expr.invertSignal "ack"], term.width widths = 1 :=
      List.forall_mem_singleton.mpr hidle
    rw [Expr.stored_condition (hsized.bit _ (by decide)) (Expr.width_ands hrequest hterms),
      Expr.holds_ands hrequest hterms]
    simp [Expr.holds_signal_eq_high, Expr.holds_invertSignal (hsized.bit "ack" (by decide))]
  have herr : (Expr.ands (.signal "req") [.invertSignal "ack", error]).stored widths e "err" =
      flag (e.high widths "req" && !e.high widths "ack" && refused widths e) := by
    have hterms : ∀ term ∈ [Expr.invertSignal "ack", error], term.width widths = 1 :=
      List.forall_mem_cons.mpr ⟨hidle, List.forall_mem_singleton.mpr herrorWidth⟩
    rw [Expr.stored_condition (hsized.bit _ (by decide)) (Expr.width_ands hrequest hterms),
      Expr.holds_ands hrequest hterms]
    simp [Expr.holds_signal_eq_high, Expr.holds_invertSignal (hsized.bit "ack" (by decide)),
      herror, Bool.and_assoc]
  simp only [hreleased, Bool.false_eq_true, if_false] at hnext
  constructor
  · apply Env.high_of_value
    rw [hnext _ (by decide)]
    simp [Stmt.assigned, Stmt.ofList, Stmt.when, Stmt.store, hack]
  · apply Env.high_of_value
    rw [hnext _ (by decide)]
    simp [Stmt.assigned, Stmt.ofList, Stmt.when, Stmt.store, herr]

/-- Under reset nothing is acknowledged. -/
theorem quiet_of_reset (hregistered : config.options.registeredRead = true) (hsized : Sized widths)
    (hsteps : ∀ item ∈ declarations config ++ handshake config, item.Steps widths e e')
    (hactive : (Reset.ofSync config.syncReset).active.holds widths e = true) :
    e'.high widths "ack" = false ∧ e'.high widths "err" = false := by
  have hblock : (responseBlock config).Steps widths e e' :=
    hsteps _ (by simp [handshake, hregistered])
  have hnext (name : String) (hname : name ∈ registers) :=
    hblock.value_sequential rfl rfl hname
  simp only [hactive, if_true] at hnext
  constructor
  · apply Env.high_of_value
    rw [hnext _ (by decide)]
    simp [Stmt.assigned, Stmt.ofList, Stmt.stores, Stmt.store,
      Expr.stored_bit (hsized.bit "ack" (by decide))]
  · apply Env.high_of_value
    rw [hnext _ (by decide)]
    simp [Stmt.assigned, Stmt.ofList, Stmt.stores, Stmt.store,
      Expr.stored_bit (hsized.bit "err" (by decide))]

/-! ### Runs -/

section Runs

variable {length : Nat} {values : Nat → Env} {t : Nat}

/-- A request is either a write or a read. -/
def OneDirection (widths : Widths) (length : Nat) (values : Nat → Env) : Prop :=
  ∀ t < length, (values t).high widths "req" = true →
    ((values t).high widths "wr_en" != (values t).high widths "rd_en") = true

/-- Whether exactly one of a write and a read is made. -/
def makesOne (config : Config) (widths : Widths) (e : Env) : Bool :=
  writeEnabled config widths e != readEnabled config widths e

/-- What a request makes, and how the next cycle acknowledges it. -/
structure Transfers (config : Config) (widths : Widths) (values : Nat → Env) (t : Nat) : Prop where
  /-- A write and a read are never made together. -/
  apart : (writeEnabled config widths (values t) && readEnabled config widths (values t)) = false
  /-- There is an acknowledge exactly after a cycle that makes a write or a read. -/
  answered : (values (t + 1)).high widths "ack" = makesOne config widths (values t)
  /-- An acknowledge is withdrawn after its cycle, and nothing is made while it is given. -/
  single : (values t).high widths "ack" = true →
    makesOne config widths (values t) = false ∧ (values (t + 1)).high widths "ack" = false
  refused : (values (t + 1)).high widths "err" =
    (makesOne config widths (values t) && refused widths (values t))

/-- What a run does: no acknowledge comes without a transfer, and every transfer has one. -/
structure AcknowledgedOnce (config : Config) (widths : Widths) (values : Nat → Env)
    (length : Nat) : Prop where
  start : (values 0).high widths "ack" = false
  transfers : ∀ t < length, Transfers config widths values t
  once : ∀ t, t + 1 < length → makesOne config widths (values t) = true →
    (values (t + 1)).high widths "ack" = true ∧ (values (t + 2)).high widths "ack" = false
  errors : ∀ t ≤ length, (values t).high widths "err" = true →
    (values t).high widths "ack" = true

/-- A request in one direction makes one transfer, unless it is being acknowledged. -/
theorem one_of_request : ∀ request write read ack : Bool,
    (request = true → (write != read) = true) →
      ((request && write && !ack) != (request && read && !ack)) = (request && !ack) ∧
        (request && write && !ack && (request && read && !ack)) = false := by
  decide

variable (hsized : Sized widths) (hprotocol : config.protocol = .custom)
  (hregistered : config.options.registeredRead = true)
  (hrun : Run config widths length values)

include hsized hprotocol hregistered hrun

theorem transfers_of_run (hmaster : OneDirection widths length values) (ht : t < length) :
    Transfers config widths values t := by
  obtain ⟨hwrite, hread⟩ := enabled_eq hprotocol hregistered hsized (values t)
  have hanswer := answer hregistered hsized (interfaceItems_eq hprotocol ▸ hrun.steps t ht)
    (hrun.released t ht)
  obtain ⟨hone, hapart⟩ := one_of_request _ _ _ ((values t).high widths "ack") (hmaster t ht)
  have hmakes : makesOne config widths (values t) =
      ((values t).high widths "req" && !(values t).high widths "ack") := by
    rw [makesOne, hwrite, hread, hone]
  refine ⟨?_, hanswer.ack.trans hmakes.symm, fun hack => ?_, ?_⟩
  · rw [hwrite, hread, hapart]
  · rw [hmakes, hanswer.ack, hack, Bool.not_true, Bool.and_false]
    exact ⟨rfl, rfl⟩
  · rw [hanswer.err, hmakes]

theorem quiet_zero :
    (values 0).high widths "ack" = false ∧ (values 0).high widths "err" = false := by
  obtain ⟨e, hactive, hsteps⟩ := hrun.reset
  exact quiet_of_reset hregistered hsized (interfaceItems_eq hprotocol ▸ hsteps) hactive

theorem acknowledgedOnce_of_run (hmaster : OneDirection widths length values) :
    AcknowledgedOnce config widths values length := by
  have htransfers {t : Nat} (ht : t < length) :=
    transfers_of_run hsized hprotocol hregistered hrun hmaster ht
  obtain ⟨hack, herr⟩ := quiet_zero hsized hprotocol hregistered hrun
  refine ⟨hack, fun t ht => htransfers ht, fun t ht hmakes => ?_, fun t ht herror => ?_⟩
  · have hnext := (htransfers (Nat.lt_of_succ_lt ht)).answered.trans hmakes
    exact ⟨hnext, ((htransfers ht).single hnext).2⟩
  · cases t with
    | zero =>
      rw [herr] at herror
      cases herror
    | succ t =>
      have hcycle := htransfers ht
      rw [hcycle.refused, Bool.and_eq_true] at herror
      exact hcycle.answered.trans herror.1

end Runs

/-! ### Traffic -/

/-- A register behind registered read data. -/
def registered : Config where
  moduleName := "regs"
  protocol := .custom
  syncReset := true
  options := { registeredRead := true }
  registers := [{ name := "A", address := some 4 }]

/-- The signals that are not zero in a cycle of a write, which is held until it is acknowledged, and
    of a read in error. -/
def trafficSignals : Nat → List (String × Word)
  | 0 => [("req", 1), ("wr_en", 1), ("addr", 4), ("wdata", 5)]
  | 1 => [("req", 1), ("wr_en", 1), ("addr", 4), ("wdata", 5), ("ack", 1)]
  | 2 => [("req", 1), ("rd_en", 1), ("addr", 8), ("custom_rd_data", 9), ("bus_rd_err", 1)]
  | _ => [("ack", 1), ("err", 1), ("rdata", 9)]

def traffic (t : Nat) : Env := fun name =>
  ((trafficSignals t).lookup name).getD 0

theorem run_traffic :
    Run registered (Hardware.ofConfig registered ⟨"regforge", "unspecified", ""⟩).widths 3
      traffic where
  reset := ⟨fun _ => 1, by decide +kernel, by decide +kernel⟩
  released := by decide +kernel
  settled := by decide +kernel
  steps := by decide +kernel

end RegisterFile.Bus.Custom
