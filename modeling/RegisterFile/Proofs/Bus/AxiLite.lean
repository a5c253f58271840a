import RegisterFile.Proofs.Bus.Run

/-!
The AXI4-Lite interface signal by signal: the widths of its signals, its wires within a cycle, and
its registers after a clock edge.
-/

namespace RegisterFile.Bus.AxiLite

open Verilog

/-- The signals of one bit. -/
def bits : List String :=
  ["s_axi_awvalid", "s_axi_awready", "s_axi_wvalid", "s_axi_wready", "s_axi_bvalid",
    "s_axi_bready", "s_axi_arvalid", "s_axi_arready", "s_axi_rvalid", "s_axi_rready",
    "axi_aw_seen", "axi_w_seen", "axi_wr_fire", "axi_rd_fire"]

/-- The signals of the interface and the error wires have the widths of their declarations. -/
structure Sized (config : Config) (widths : Widths) : Prop where
  bit : ∀ name ∈ bits, widths name = 1
  addr : ∀ name ∈ ["s_axi_awaddr", "axi_awaddr_q"], widths name = config.addrWidth.toNat
  data : ∀ name ∈ ["s_axi_wdata", "axi_wdata_q", "s_axi_rdata", "axi_rd_data"],
    widths name = config.dataWidth.toNat
  strobe : ∀ name ∈ ["s_axi_wstrb", "axi_wstrb_q"], widths name = config.byteLanes
  response : ∀ name ∈ ["s_axi_bresp", "s_axi_rresp"], widths name = 2

variable {config : Config} {widths : Widths} {e e' : Env}

theorem sized (provenance : Provenance) (hprotocol : config.protocol = .axi4Lite) :
    Sized config (Hardware.ofConfig config provenance).widths := by
  have hbus : Hardware.busDeclarations config =
      (ports config).map Port.declares ++ (declarations config).filterMap Item.declares? := by
    rw [Hardware.busDeclarations, Config.interface, hprotocol]
    rfl
  have hbits : bits.all fun name =>
      ((ports config).map Port.declares ++
        (declarations config).filterMap Item.declares?).lookup name == some 1 := rfl
  constructor <;> apply Hardware.widths_of_lookup (by decide) <;> rw [hbus]
  · exact fun name hname => beq_iff_eq.mp (List.all_eq_true.mp hbits name hname)
  · exact List.forall_mem_cons.mpr ⟨rfl, List.forall_mem_singleton.mpr rfl⟩
  · simp only [List.forall_mem_cons]
    exact ⟨rfl, rfl, rfl, rfl, List.forall_mem_nil _⟩
  · exact List.forall_mem_cons.mpr ⟨rfl, List.forall_mem_singleton.mpr rfl⟩
  · exact List.forall_mem_cons.mpr ⟨rfl, List.forall_mem_singleton.mpr rfl⟩

/-! ### Within a cycle -/

theorem interfaceItems_eq (hprotocol : config.protocol = .axi4Lite) :
    interfaceItems config = declarations config ++ handshake config := by
  rw [interfaceItems, Config.interface, hprotocol]
  rfl

theorem holds_both {first second : String} (hsized : Sized config widths) (hfirst : first ∈ bits)
    (hsecond : second ∈ bits) :
    (Expr.ands (.signal first) [.signal second]).holds widths e =
      (e.high widths first && e.high widths second) := by
  have hwidth : (Expr.signal first).width widths = 1 := hsized.bit first hfirst
  have hrest : ∀ term ∈ [Expr.signal second], term.width widths = 1 :=
    List.forall_mem_singleton.mpr (hsized.bit second hsecond)
  rw [Expr.holds_ands hwidth hrest, List.all_cons, List.all_nil, Bool.and_true,
    Expr.holds_signal_eq_high, Expr.holds_signal_eq_high]

/-- The wires of the interface follow its registers and its inputs. -/
structure Wired (widths : Widths) (e : Env) : Prop where
  awready : e.high widths "s_axi_awready" = !e.high widths "axi_aw_seen"
  wready : e.high widths "s_axi_wready" = !e.high widths "axi_w_seen"
  arready : e.high widths "s_axi_arready" = !e.high widths "s_axi_rvalid"
  writeFire : e.high widths "axi_wr_fire" =
    (e.high widths "axi_aw_seen" && e.high widths "axi_w_seen" && !e.high widths "s_axi_bvalid")
  readFire : e.high widths "axi_rd_fire" =
    (e.high widths "s_axi_arvalid" && e.high widths "s_axi_arready")

theorem wired (hsized : Sized config widths)
    (hsettled : ∀ item ∈ declarations config ++ handshake config, item.Holds widths e) :
    Wired widths e := by
  have hready {name seen : String} (hname : name ∈ bits) (hseen : seen ∈ bits)
      (hitem : .assign 13 name (.invertSignal seen) ∈ handshake config) :
      e.high widths name = !e.high widths seen := by
    have hwidth : (Expr.invertSignal seen).width widths = 1 := hsized.bit seen hseen
    have hholds := hsettled _ (List.mem_append_right _ hitem)
    rw [hholds.high_assign (hsized.bit name hname) hwidth,
      Expr.holds_invertSignal (hsized.bit seen hseen)]
  have hfire {name : String} {x : Expr} (hname : name ∈ bits)
      (hwidth : x.width widths = 1) (hitem : .wire 8 name x ∈ declarations config) :
      e.high widths name = x.holds widths e := by
    have hholds := hsettled _ (List.mem_append_left _ hitem)
    exact Env.high_of_value (hholds.value_wire (hsized.bit name hname) hwidth)
  refine ⟨?_, ?_, ?_, ?_, ?_⟩
  · exact hready (by decide) (by decide) List.mem_cons_self
  · exact hready (by decide) (by decide) (List.mem_cons_of_mem _ List.mem_cons_self)
  · exact hready (by decide) (by decide)
      (List.mem_cons_of_mem _ (List.mem_cons_of_mem _ List.mem_cons_self))
  · have haw : (Expr.signal "axi_aw_seen").width widths = 1 := hsized.bit _ (by decide)
    have hrest : ∀ term ∈ [Expr.signal "axi_w_seen", .invertSignal "s_axi_bvalid"],
        term.width widths = 1 :=
      List.forall_mem_cons.mpr ⟨hsized.bit "axi_w_seen" (by decide),
        List.forall_mem_singleton.mpr (hsized.bit "s_axi_bvalid" (by decide))⟩
    rw [hfire (by decide) (Expr.width_ands haw hrest) (by simp [declarations]),
      Expr.holds_ands haw hrest, List.all_cons, List.all_cons, List.all_nil, Bool.and_true,
      Expr.holds_invertSignal (hsized.bit _ (by decide)), ← Bool.and_assoc,
      Expr.holds_signal_eq_high, Expr.holds_signal_eq_high]
  · have hwidth :
        (Expr.ands (.signal "s_axi_arvalid") [.signal "s_axi_arready"]).width widths = 1 :=
      Expr.width_ands (hsized.bit "s_axi_arvalid" (by decide))
        (List.forall_mem_singleton.mpr (hsized.bit "s_axi_arready" (by decide)))
    rw [hfire (by decide) hwidth (by simp [declarations]),
      holds_both hsized (by decide) (by decide)]

/-! ### Over a clock edge -/

/-- The registers of the write channels. -/
def writeRegisters : List String :=
  ["axi_aw_seen", "axi_w_seen", "axi_awaddr_q", "axi_wdata_q", "axi_wstrb_q", "s_axi_bvalid",
    "s_axi_bresp"]

/-- The registers of the read channel. -/
def readRegisters : List String :=
  ["s_axi_rvalid", "s_axi_rdata", "s_axi_rresp"]

/-- The code of a response: a slave error or okay. -/
def responseCode (refused : Bool) : Word :=
  if refused then 2 else 0

theorem stored_response {name : String} {error : String} (hname : widths name = 2) :
    (response error).stored widths e name = responseCode (e.high widths error) := by
  have hliteral (value : Nat) : (Expr.binary 2 value).width widths ≤ widths name :=
    Nat.le_of_eq hname.symm
  rw [response, Expr.stored_choose (hliteral 2) (hliteral 0), Expr.holds_signal_eq_high,
    Expr.binary, Expr.stored_literal hname, Expr.binary, Expr.stored_literal hname]
  rfl

/-- The registers of the write channels after a clock edge out of reset. -/
structure WriteStep (widths : Widths) (e e' : Env) : Prop where
  awSeen : e'.value widths "axi_aw_seen" =
    if e.high widths "axi_wr_fire" then 0
    else if e.high widths "s_axi_awvalid" && e.high widths "s_axi_awready" then 1
    else e.value widths "axi_aw_seen"
  wSeen : e'.value widths "axi_w_seen" =
    if e.high widths "axi_wr_fire" then 0
    else if e.high widths "s_axi_wvalid" && e.high widths "s_axi_wready" then 1
    else e.value widths "axi_w_seen"
  addr : e'.value widths "axi_awaddr_q" =
    if e.high widths "s_axi_awvalid" && e.high widths "s_axi_awready" then
      e.value widths "s_axi_awaddr"
    else e.value widths "axi_awaddr_q"
  data : e'.value widths "axi_wdata_q" =
    if e.high widths "s_axi_wvalid" && e.high widths "s_axi_wready" then
      e.value widths "s_axi_wdata"
    else e.value widths "axi_wdata_q"
  strobe : e'.value widths "axi_wstrb_q" =
    if e.high widths "s_axi_wvalid" && e.high widths "s_axi_wready" then
      e.value widths "s_axi_wstrb"
    else e.value widths "axi_wstrb_q"
  bvalid : e'.value widths "s_axi_bvalid" =
    if e.high widths "axi_wr_fire" then 1
    else if e.high widths "s_axi_bvalid" && e.high widths "s_axi_bready" then 0
    else e.value widths "s_axi_bvalid"
  bresp : e'.value widths "s_axi_bresp" =
    if e.high widths "axi_wr_fire" then responseCode (e.high widths writeError)
    else e.value widths "s_axi_bresp"

theorem writeStep (hsized : Sized config widths)
    (hsteps : ∀ item ∈ declarations config ++ handshake config, item.Steps widths e e')
    (hreleased : (Reset.ofSync config.syncReset).active.holds widths e = false) :
    WriteStep widths e e' := by
  have hblock : (writeBlock config).Steps widths e e' := hsteps _ (by simp [handshake])
  have hnext (name : String) (hname : name ∈ writeRegisters) :=
    hblock.value_sequential rfl rfl hname
  have haw : (Expr.ands (.signal "s_axi_awvalid") [.signal "s_axi_awready"]).holds widths e = _ :=
    holds_both hsized (by decide) (by decide)
  have hw : (Expr.ands (.signal "s_axi_wvalid") [.signal "s_axi_wready"]).holds widths e = _ :=
    holds_both hsized (by decide) (by decide)
  have hb : (Expr.ands (.signal "s_axi_bvalid") [.signal "s_axi_bready"]).holds widths e = _ :=
    holds_both hsized (by decide) (by decide)
  have haddr : (Expr.signal "s_axi_awaddr").stored widths e "axi_awaddr_q" = _ :=
    Expr.stored_signal ((hsized.addr _ (by decide)).trans (hsized.addr _ (by decide)).symm)
  have hdata : (Expr.signal "s_axi_wdata").stored widths e "axi_wdata_q" = _ :=
    Expr.stored_signal ((hsized.data _ (by decide)).trans (hsized.data _ (by decide)).symm)
  have hstrobe : (Expr.signal "s_axi_wstrb").stored widths e "axi_wstrb_q" = _ :=
    Expr.stored_signal ((hsized.strobe _ (by decide)).trans (hsized.strobe _ (by decide)).symm)
  have hresponse : (response writeError).stored widths e "s_axi_bresp" = _ :=
    stored_response (hsized.response _ (by decide))
  have hbit (name : String) (hname : name ∈ bits) (b : Bool) :
      (Expr.bit b).stored widths e name = flag b :=
    Expr.stored_bit (hsized.bit name hname) b
  simp only [hreleased, Bool.false_eq_true, if_false] at hnext
  constructor
  all_goals
    rw [hnext _ (by decide)]
    simp [captureAddress, captureData, respondWrite, Stmt.assigned, Stmt.ofList, Stmt.stores,
      Stmt.when, Stmt.store, Expr.holds_signal_eq_high, haw, hw, hb, haddr, hdata, hstrobe,
      hresponse, hbit "axi_aw_seen" (by decide), hbit "axi_w_seen" (by decide),
      hbit "s_axi_bvalid" (by decide), flag]

/-- The registers of the read channel after a clock edge out of reset. -/
structure ReadStep (widths : Widths) (e e' : Env) : Prop where
  rvalid : e'.value widths "s_axi_rvalid" =
    if e.high widths "axi_rd_fire" then 1
    else if e.high widths "s_axi_rvalid" && e.high widths "s_axi_rready" then 0
    else e.value widths "s_axi_rvalid"
  rdata : e'.value widths "s_axi_rdata" =
    if e.high widths "axi_rd_fire" then e.value widths "axi_rd_data"
    else e.value widths "s_axi_rdata"
  rresp : e'.value widths "s_axi_rresp" =
    if e.high widths "axi_rd_fire" then responseCode (e.high widths readError)
    else e.value widths "s_axi_rresp"

theorem readStep (hsized : Sized config widths)
    (hsteps : ∀ item ∈ declarations config ++ handshake config, item.Steps widths e e')
    (hreleased : (Reset.ofSync config.syncReset).active.holds widths e = false) :
    ReadStep widths e e' := by
  have hblock : (readBlock config).Steps widths e e' := hsteps _ (by simp [handshake])
  have hnext (name : String) (hname : name ∈ readRegisters) :=
    hblock.value_sequential rfl rfl hname
  have hr : (Expr.ands (.signal "s_axi_rvalid") [.signal "s_axi_rready"]).holds widths e = _ :=
    holds_both hsized (by decide) (by decide)
  have hdata : (Expr.signal "axi_rd_data").stored widths e "s_axi_rdata" = _ :=
    Expr.stored_signal ((hsized.data _ (by decide)).trans (hsized.data _ (by decide)).symm)
  have hresponse : (response readError).stored widths e "s_axi_rresp" = _ :=
    stored_response (hsized.response _ (by decide))
  have hbit (b : Bool) : (Expr.bit b).stored widths e "s_axi_rvalid" = flag b :=
    Expr.stored_bit (hsized.bit _ (by decide)) b
  simp only [hreleased, Bool.false_eq_true, if_false] at hnext
  constructor
  all_goals
    rw [hnext _ (by decide)]
    simp [Stmt.assigned, Stmt.ofList, Stmt.stores, Stmt.when, Stmt.store,
      Expr.holds_signal_eq_high, hr, hdata, hresponse, hbit, flag]

/-- Under reset nothing is held and no response is given. -/
theorem low_of_reset (hsized : Sized config widths)
    (hsteps : ∀ item ∈ declarations config ++ handshake config, item.Steps widths e e')
    (hactive : (Reset.ofSync config.syncReset).active.holds widths e = true) :
    ∀ name ∈ ["axi_aw_seen", "axi_w_seen", "s_axi_bvalid", "s_axi_rvalid"],
      e'.high widths name = false := by
  have hwrite : (writeBlock config).Steps widths e e' := hsteps _ (by simp [handshake])
  have hread : (readBlock config).Steps widths e e' := hsteps _ (by simp [handshake])
  have hwriteNext (name : String) (hname : name ∈ writeRegisters) :=
    hwrite.value_sequential rfl rfl hname
  have hreadNext (name : String) (hname : name ∈ readRegisters) :=
    hread.value_sequential rfl rfl hname
  have hbit (name : String) (hname : name ∈ bits) :
      (Expr.bit false).stored widths e name = flag false :=
    Expr.stored_bit (hsized.bit name hname) false
  simp only [hactive, if_true] at hwriteNext hreadNext
  simp only [List.forall_mem_cons]
  refine ⟨?_, ?_, ?_, ?_, List.forall_mem_nil _⟩ <;> apply Env.high_of_value
  · rw [hwriteNext _ (by decide)]
    simp [clearWrite, Stmt.assigned, Stmt.ofList, Stmt.stores, Stmt.store,
      hbit "axi_aw_seen" (by decide)]
  · rw [hwriteNext _ (by decide)]
    simp [clearWrite, Stmt.assigned, Stmt.ofList, Stmt.stores, Stmt.store,
      hbit "axi_w_seen" (by decide)]
  · rw [hwriteNext _ (by decide)]
    simp [clearWrite, Stmt.assigned, Stmt.ofList, Stmt.stores, Stmt.store,
      hbit "s_axi_bvalid" (by decide)]
  · rw [hreadNext _ (by decide)]
    simp [Stmt.assigned, Stmt.ofList, Stmt.stores, Stmt.store, hbit "s_axi_rvalid" (by decide)]

/-! ### Runs -/

section Runs

variable {length : Nat} {values : Nat → Env} {t : Nat}

theorem wired_of_run (hsized : Sized config widths) (hprotocol : config.protocol = .axi4Lite)
    (hrun : Run config widths length values) (ht : t < length) : Wired widths (values t) :=
  wired hsized (interfaceItems_eq hprotocol ▸ hrun.settled t ht)

theorem writeStep_of_run (hsized : Sized config widths) (hprotocol : config.protocol = .axi4Lite)
    (hrun : Run config widths length values) (ht : t < length) :
    WriteStep widths (values t) (values (t + 1)) :=
  writeStep hsized (interfaceItems_eq hprotocol ▸ hrun.steps t ht) (hrun.released t ht)

theorem readStep_of_run (hsized : Sized config widths) (hprotocol : config.protocol = .axi4Lite)
    (hrun : Run config widths length values) (ht : t < length) :
    ReadStep widths (values t) (values (t + 1)) :=
  readStep hsized (interfaceItems_eq hprotocol ▸ hrun.steps t ht) (hrun.released t ht)

theorem low_of_run (hsized : Sized config widths) (hprotocol : config.protocol = .axi4Lite)
    (hrun : Run config widths length values) :
    ∀ name ∈ ["axi_aw_seen", "axi_w_seen", "s_axi_bvalid", "s_axi_rvalid"],
      (values 0).high widths name = false := by
  obtain ⟨e, hactive, hsteps⟩ := hrun.reset
  exact low_of_reset hsized (interfaceItems_eq hprotocol ▸ hsteps) hactive

end Runs

end RegisterFile.Bus.AxiLite
