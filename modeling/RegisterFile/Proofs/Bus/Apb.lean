import RegisterFile.Proofs.Bus.Run

/-!
APB with wait states. The counter tells how many cycles of an access phase are over, so a phase
is ready in the cycle in which it has reached the number of wait states, and there alone.
-/

namespace RegisterFile.Bus.Apb

open Verilog

/-- The signals of one bit. -/
def bits : List String :=
  ["psel", "penable", "pwrite", "pready"]

/-- The signals of the interface have the widths of their declarations. -/
structure Sized (widths : Widths) : Prop where
  bit : ∀ name ∈ bits, widths name = 1
  counter : ∀ name ∈ ["apb_wait_cnt"], widths name = 4

/-- A transfer is in its access phase. -/
def access (widths : Widths) (e : Env) : Bool :=
  e.high widths "psel" && e.high widths "penable"

/-- The number of cycles of the access phase that are over. -/
def waited (widths : Widths) (e : Env) : Nat :=
  (e.value widths "apb_wait_cnt").toNat

variable {config : Config} {widths : Widths} {e e' : Env}

theorem sized (provenance : Provenance) (hprotocol : config.protocol = .apb)
    (hwaits : 0 < waitStates config) : Sized (Hardware.ofConfig config provenance).widths := by
  constructor
  · refine Hardware.widths_of_port (by decide) ?_
    simp only [Config.interface, hprotocol, interface, ports, bits, List.forall_mem_cons]
    cases config.byteEnable <;>
      simp [Port.declares, Port.input, Port.output, Port.outputReg, List.lookup_cons]
  · refine Hardware.widths_of_lookup (by decide) ?_
    simp only [Hardware.busDeclarations, Config.interface, hprotocol, interface, ports,
      declarations, if_pos hwaits, List.forall_mem_singleton]
    cases config.byteEnable <;>
      simp [Port.declares, Port.input, Port.output, Port.outputReg, Item.declares?,
        List.lookup_cons]

/-! ### Within a cycle -/

theorem interfaceItems_eq (hprotocol : config.protocol = .apb) :
    interfaceItems config = declarations config ++ handshake config := by
  rw [interfaceItems, Config.interface, hprotocol]
  rfl

/-- The code of a number of wait states. -/
theorem eval_decimal {n : Nat} (hn : n ≤ maxWaitStates) (context : Nat) :
    (Expr.decimal 4 n).eval widths e context = BitVec.ofNat 128 n := by
  have hfits : n < 2 ^ 4 := Nat.lt_of_le_of_lt hn (by decide)
  rw [Expr.decimal, Expr.eval, (Word.fitsIn_ofNat hfits).and_lowMask]

theorem eq_ofNat_iff {word : Word} {n : Nat} (hn : n ≤ maxWaitStates) :
    word = BitVec.ofNat 128 n ↔ word.toNat = n := by
  have hword : n < 2 ^ 128 := Nat.lt_of_le_of_lt hn (by decide)
  rw [← BitVec.toNat_inj, BitVec.toNat_ofNat, Nat.mod_eq_of_lt hword]

/-- What a cycle of the interface shows: whether the phase is ready, and what completes in it. -/
structure Wired (config : Config) (widths : Widths) (e : Env) : Prop where
  ready : e.high widths "pready" = decide (waited widths e = waitStates config)
  write : writeEnabled config widths e =
    (access widths e && e.high widths "pwrite" && e.high widths "pready")
  read : readEnabled config widths e =
    (access widths e && !e.high widths "pwrite" && e.high widths "pready")

theorem wired (hprotocol : config.protocol = .apb) (hwaits : 0 < waitStates config)
    (hsized : Sized widths)
    (hsettled : ∀ item ∈ declarations config ++ handshake config, item.Holds widths e) :
    Wired config widths e := by
  have hwaitStates : waitStates config ≤ maxWaitStates := Nat.min_le_right _ _
  have hready : (Item.assign 7 "pready" (.isEqual (.signal "apb_wait_cnt")
      (.decimal 4 (waitStates config)))).Holds widths e :=
    hsettled _ (by simp [handshake, hwaits])
  have hbit (name : String) (hname : name ∈ bits) : (Expr.signal name).width widths = 1 :=
    hsized.bit name hname
  have hwrite : (Expr.invertSignal "pwrite").width widths = 1 := hsized.bit "pwrite" (by decide)
  refine ⟨?_, ?_, ?_⟩
  · rw [hready.high_assign (hsized.bit _ (by decide)) rfl, Expr.isEqual, Expr.holds_group,
      Expr.holds_equal, eval_decimal hwaitStates, Expr.signal, Expr.eval, Env.read_whole,
      beq_eq_decide, decide_eq_decide, eq_ofNat_iff hwaitStates, waited]
  · rw [writeEnabled, Config.interface, hprotocol]
    simp only [interface, signals, readyTerms, if_pos hwaits, List.cons_append, List.nil_append]
    rw [Expr.holds_ands (hbit "psel" (by decide))]
    · simp [Expr.holds_signal_eq_high, access, Bool.and_assoc]
    · simp only [List.forall_mem_cons]
      exact ⟨hbit "penable" (by decide), hbit "pwrite" (by decide), hbit "pready" (by decide),
        List.forall_mem_nil _⟩
  · rw [readEnabled, Config.interface, hprotocol]
    simp only [interface, signals, readyTerms, if_pos hwaits, List.cons_append, List.nil_append]
    rw [Expr.holds_ands (hbit "psel" (by decide))]
    · simp [Expr.holds_signal_eq_high, Expr.holds_invertSignal (hsized.bit "pwrite" (by decide)),
        access, Bool.and_assoc]
    · simp only [List.forall_mem_cons]
      exact ⟨hbit "penable" (by decide), hwrite, hbit "pready" (by decide),
        List.forall_mem_nil _⟩

/-! ### Over a clock edge -/

theorem stored_decimal {n : Nat} (hn : n ≤ maxWaitStates) (hsized : Sized widths) :
    (Expr.decimal 4 n).stored widths e "apb_wait_cnt" = BitVec.ofNat 128 n := by
  have hfits : n < 2 ^ 4 := Nat.lt_of_le_of_lt hn (by decide)
  rw [Expr.stored, Expr.evalFor, eval_decimal hn, hsized.counter _ (by decide),
    (Word.fitsIn_ofNat hfits).and_lowMask]

theorem stored_successor (hsized : Sized widths) (hbelow : waited widths e < maxWaitStates) :
    (Expr.add (.signal "apb_wait_cnt") (.decimal 4 1)).stored widths e "apb_wait_cnt" =
      BitVec.ofNat 128 (waited widths e + 1) := by
  have hcontext : max ((Ref.mk "apb_wait_cnt" .whole).width widths)
      ((Expr.add (.signal "apb_wait_cnt") (.decimal 4 1)).width widths) = 4 := by
    simp [Ref.width, Expr.width, Expr.signal, Expr.decimal, hsized.counter]
  have hvalue : e.value widths "apb_wait_cnt" = BitVec.ofNat 128 (waited widths e) := by
    rw [waited, BitVec.ofNat_toNat, BitVec.setWidth_eq]
  have hfits : waited widths e + 1 < 2 ^ 4 := by
    simp only [maxWaitStates] at hbelow
    omega
  rw [Expr.stored, Expr.evalFor, hcontext, Expr.eval, eval_decimal (by decide), Expr.signal,
    Expr.eval, Env.read_whole, hsized.counter _ (by decide), hvalue, ← BitVec.ofNat_add,
    (Word.fitsIn_ofNat hfits).and_lowMask, (Word.fitsIn_ofNat hfits).and_lowMask]

/-- The counter goes on through the cycles that are not ready and starts again after any other. -/
theorem waited_next (hwaits : 0 < waitStates config) (hsized : Sized widths)
    (hbelow : e.high widths "pready" = false → waited widths e < maxWaitStates)
    (hsteps : ∀ item ∈ declarations config ++ handshake config, item.Steps widths e e')
    (hreleased : (Reset.ofSync config.syncReset).active.holds widths e = false) :
    waited widths e' =
      if access widths e && !e.high widths "pready" then waited widths e + 1 else 0 := by
  have hcounter : (counter config).Steps widths e e' := hsteps _ (by simp [handshake, hwaits])
  have hnext : e'.value widths "apb_wait_cnt" = _ :=
    hcounter.value_sequential rfl rfl (by decide)
  have hselect : (Expr.signal "psel").width widths = 1 := hsized.bit "psel" (by decide)
  have hterms : ∀ term ∈ [Expr.signal "penable", .invertSignal "pready"],
      term.width widths = 1 :=
    List.forall_mem_cons.mpr ⟨hsized.bit "penable" (by decide),
      List.forall_mem_singleton.mpr (hsized.bit "pready" (by decide))⟩
  have hcondition : (Expr.ands (.signal "psel") [.signal "penable", .invertSignal "pready"]).holds
      widths e = (access widths e && !e.high widths "pready") := by
    rw [Expr.holds_ands hselect hterms]
    simp [Expr.holds_signal_eq_high, Expr.holds_invertSignal (hsized.bit "pready" (by decide)),
      access, Bool.and_assoc]
  rw [hreleased, if_neg Bool.false_ne_true] at hnext
  simp only [Stmt.assigned, hcondition, Stmt.store, if_true, getD_ite_some, Option.getD_some,
    stored_decimal (Nat.zero_le _) hsized] at hnext
  split at hnext
  · next hgoes =>
    have hstalled : e.high widths "pready" = false := by
      simpa using (Bool.and_eq_true_iff.mp hgoes).2
    rw [stored_successor hsized (hbelow hstalled)] at hnext
    have hword : waited widths e + 1 < 2 ^ 128 :=
      Nat.lt_of_le_of_lt (hbelow hstalled) (by decide)
    rw [if_pos hgoes, waited, hnext, BitVec.toNat_ofNat, Nat.mod_eq_of_lt hword]
  · next hstops =>
    rw [if_neg hstops, waited, hnext]
    rfl

/-- Under reset no cycle is counted. -/
theorem waited_of_reset (hwaits : 0 < waitStates config) (hsized : Sized widths)
    (hsteps : ∀ item ∈ declarations config ++ handshake config, item.Steps widths e e')
    (hactive : (Reset.ofSync config.syncReset).active.holds widths e = true) :
    waited widths e' = 0 := by
  have hcounter : (counter config).Steps widths e e' := hsteps _ (by simp [handshake, hwaits])
  have hnext : e'.value widths "apb_wait_cnt" = _ :=
    hcounter.value_sequential rfl rfl (by decide)
  rw [hactive, if_pos rfl] at hnext
  simp only [Stmt.assigned, Stmt.store, if_true, Option.getD_some,
    stored_decimal (Nat.zero_le _) hsized] at hnext
  rw [waited, hnext]
  rfl

/-! ### Access phases -/

section Runs

variable {length : Nat} {values : Nat → Env} {t start : Nat}

/-- What a master owes an access phase: it goes on with the same transfer until it is ready, and
    then it is over. -/
structure Conforms (widths : Widths) (length : Nat) (values : Nat → Env) : Prop where
  waits : ∀ t < length, access widths (values t) = true →
    (values t).high widths "pready" = false →
      access widths (values (t + 1)) = true ∧
        (values (t + 1)).high widths "pwrite" = (values t).high widths "pwrite"
  ends : ∀ t < length, access widths (values t) = true →
    (values t).high widths "pready" = true → access widths (values (t + 1)) = false

/-- An access phase starts in a cycle. -/
def Begins (widths : Widths) (values : Nat → Env) (start : Nat) : Prop :=
  access widths (values start) = true ∧ ∀ s, start = s + 1 → access widths (values s) = false

/-- What happens in cycle `k` of an access phase with `waits` wait states: only the last one makes
    the write or the read. -/
structure PhaseCycle (config : Config) (widths : Widths) (values : Nat → Env)
    (waits start k : Nat) : Prop where
  lasts : access widths (values (start + k)) = true
  counted : waited widths (values (start + k)) = k
  write : writeEnabled config widths (values (start + k)) =
    (decide (k = waits) && (values start).high widths "pwrite")
  read : readEnabled config widths (values (start + k)) =
    (decide (k = waits) && !(values start).high widths "pwrite")

/-- The access phases of a run: each has one cycle more than there are wait states, and nothing is
    made outside of them. -/
structure InPhases (config : Config) (widths : Widths) (values : Nat → Env)
    (waits length : Nat) : Prop where
  counter : ∀ t ≤ length, waited widths (values t) ≤ waits
  phase : ∀ start, Begins widths values start → ∀ k ≤ waits, start + k < length →
    PhaseCycle config widths values waits start k
  finished : ∀ start, Begins widths values start → start + waits < length →
    access widths (values (start + waits + 1)) = false
  /-- Every access cycle belongs to such a phase. -/
  covered : ∀ t < length, access widths (values t) = true →
    ∃ start k, t = start + k ∧ k ≤ waits ∧ Begins widths values start
  idle : ∀ t < length, access widths (values t) = false →
    writeEnabled config widths (values t) = false ∧ readEnabled config widths (values t) = false

variable (hprotocol : config.protocol = .apb) (hwaits : 0 < waitStates config)
  (hsized : Sized widths) (hrun : Run config widths length values)

include hprotocol hwaits hsized hrun

theorem wired_of_run (ht : t < length) : Wired config widths (values t) :=
  wired hprotocol hwaits hsized (interfaceItems_eq hprotocol ▸ hrun.settled t ht)

theorem waited_zero : waited widths (values 0) = 0 := by
  obtain ⟨e, hactive, hsteps⟩ := hrun.reset
  exact waited_of_reset hwaits hsized (interfaceItems_eq hprotocol ▸ hsteps) hactive

theorem waited_succ (ht : t < length) (hle : waited widths (values t) ≤ waitStates config) :
    waited widths (values (t + 1)) =
      if access widths (values t) && !(values t).high widths "pready" then
        waited widths (values t) + 1
      else 0 := by
  refine waited_next hwaits hsized (fun hstalled => ?_)
    (interfaceItems_eq hprotocol ▸ hrun.steps t ht) (hrun.released t ht)
  rw [(wired_of_run hprotocol hwaits hsized hrun ht).ready, decide_eq_false_iff_not] at hstalled
  have hmost : waitStates config ≤ maxWaitStates := Nat.min_le_right _ _
  omega

/-- The counter never passes the number of wait states, whatever the master does. -/
theorem waited_le (ht : t ≤ length) : waited widths (values t) ≤ waitStates config := by
  induction t with
  | zero =>
    rw [waited_zero hprotocol hwaits hsized hrun]
    exact Nat.zero_le _
  | succ t ih =>
    have hle := ih (Nat.le_of_lt ht)
    rw [waited_succ hprotocol hwaits hsized hrun ht hle]
    split
    · next hgoes =>
      rw [(wired_of_run hprotocol hwaits hsized hrun ht).ready, Bool.and_eq_true,
        Bool.not_eq_true', decide_eq_false_iff_not] at hgoes
      omega
    · exact Nat.zero_le _

theorem waited_begins (hstart : start ≤ length) (hbegins : Begins widths values start) :
    waited widths (values start) = 0 := by
  cases start with
  | zero => exact waited_zero hprotocol hwaits hsized hrun
  | succ s =>
    have hle := waited_le hprotocol hwaits hsized hrun (Nat.le_of_succ_le hstart)
    rw [waited_succ hprotocol hwaits hsized hrun hstart hle, hbegins.2 s rfl, Bool.false_and,
      if_neg Bool.false_ne_true]

variable (hmaster : Conforms widths length values)

include hmaster

/-- A phase goes on, and is counted, up to the last wait state. -/
theorem access_of_begins (hbegins : Begins widths values start) {k : Nat}
    (hk : k ≤ waitStates config) (hend : start + k ≤ length) :
    access widths (values (start + k)) = true ∧ waited widths (values (start + k)) = k ∧
      (values (start + k)).high widths "pwrite" = (values start).high widths "pwrite" := by
  induction k with
  | zero => exact ⟨hbegins.1, waited_begins hprotocol hwaits hsized hrun hend hbegins, rfl⟩
  | succ k ih =>
    have ht : start + k < length := by omega
    obtain ⟨haccess, hwaited, hwrite⟩ := ih (by omega) (by omega)
    have hstalled : (values (start + k)).high widths "pready" = false := by
      rw [(wired_of_run hprotocol hwaits hsized hrun ht).ready, decide_eq_false_iff_not]
      omega
    obtain ⟨hnext, hsame⟩ := hmaster.waits _ ht haccess hstalled
    refine ⟨hnext, ?_, hsame.trans hwrite⟩
    rw [← Nat.add_assoc, waited_succ hprotocol hwaits hsized hrun ht (by omega), haccess, hstalled,
      hwaited]
    rfl

theorem phaseCycle_of_begins (hbegins : Begins widths values start) {k : Nat}
    (hk : k ≤ waitStates config) (hend : start + k < length) :
    PhaseCycle config widths values (waitStates config) start k := by
  obtain ⟨haccess, hwaited, hwrite⟩ :=
    access_of_begins hprotocol hwaits hsized hrun hmaster hbegins hk (Nat.le_of_lt hend)
  have hwired := wired_of_run hprotocol hwaits hsized hrun hend
  refine ⟨haccess, hwaited, ?_, ?_⟩
  · rw [hwired.write, haccess, hwrite, hwired.ready, hwaited, Bool.true_and, Bool.and_comm]
  · rw [hwired.read, haccess, hwrite, hwired.ready, hwaited, Bool.true_and, Bool.and_comm]

/-- Looking back from an access cycle, the phase it belongs to has begun no earlier than the
    counter says. -/
theorem exists_begins (ht : t < length) (haccess : access widths (values t) = true) :
    ∃ start k, t = start + k ∧ k ≤ waitStates config ∧ Begins widths values start := by
  induction t with
  | zero => exact ⟨0, 0, rfl, Nat.zero_le _, haccess, fun s hs => by cases hs⟩
  | succ t ih =>
    have hbefore : t < length := Nat.lt_of_succ_lt ht
    cases hprevious : access widths (values t) with
    | false =>
      refine ⟨t + 1, 0, rfl, Nat.zero_le _, haccess, fun s hs => ?_⟩
      obtain rfl := Nat.succ.inj hs
      exact hprevious
    | true =>
      obtain ⟨start, k, rfl, hk, hbegins⟩ := ih hbefore hprevious
      refine ⟨start, k + 1, Nat.add_assoc _ _ _, ?_, hbegins⟩
      -- A phase that was ready is over, so this one still had to wait.
      by_contra hnot
      obtain ⟨-, hwaited, -⟩ :=
        access_of_begins hprotocol hwaits hsized hrun hmaster hbegins hk (Nat.le_of_lt hbefore)
      have hready : (values (start + k)).high widths "pready" = true := by
        rw [(wired_of_run hprotocol hwaits hsized hrun hbefore).ready, decide_eq_true_iff]
        omega
      rw [hmaster.ends _ hbefore hprevious hready] at haccess
      cases haccess

theorem inPhases_of_run : InPhases config widths values (waitStates config) length where
  counter _ ht := waited_le hprotocol hwaits hsized hrun ht
  phase _ hbegins _ hk hend :=
    phaseCycle_of_begins hprotocol hwaits hsized hrun hmaster hbegins hk hend
  finished start hbegins hend := by
    obtain ⟨haccess, hwaited, -⟩ := access_of_begins hprotocol hwaits hsized hrun hmaster hbegins
      (Nat.le_refl _) (Nat.le_of_lt hend)
    refine hmaster.ends _ hend haccess ?_
    rw [(wired_of_run hprotocol hwaits hsized hrun hend).ready, hwaited, decide_eq_true rfl]
  covered _ ht haccess := exists_begins hprotocol hwaits hsized hrun hmaster ht haccess
  idle t ht hidle := by
    have hwired := wired_of_run hprotocol hwaits hsized hrun ht
    rw [hwired.write, hwired.read, hidle]
    exact ⟨rfl, rfl⟩

end Runs

/-! ### Traffic -/

/-- A register behind two wait states. -/
def register : Config where
  moduleName := "regs"
  syncReset := true
  options := { waitStates := 2 }
  registers := [{ name := "A", address := some 4 }]

/-- The signals that are not zero in a cycle of a write and, after a gap, a read. -/
def trafficSignals : Nat → List (String × Word)
  | 0 => [("psel", 1), ("pwrite", 1), ("paddr", 4), ("pwdata", 5)]
  | 1 => [("psel", 1), ("penable", 1), ("pwrite", 1), ("paddr", 4), ("pwdata", 5)]
  | 2 => [("psel", 1), ("penable", 1), ("pwrite", 1), ("paddr", 4), ("pwdata", 5),
      ("apb_wait_cnt", 1)]
  | 3 => [("psel", 1), ("penable", 1), ("pwrite", 1), ("paddr", 4), ("pwdata", 5),
      ("apb_wait_cnt", 2), ("pready", 1)]
  | 5 => [("psel", 1), ("paddr", 4)]
  | 6 => [("psel", 1), ("penable", 1), ("paddr", 4)]
  | 7 => [("psel", 1), ("penable", 1), ("paddr", 4), ("apb_wait_cnt", 1)]
  | 8 => [("psel", 1), ("penable", 1), ("paddr", 4), ("apb_wait_cnt", 2), ("pready", 1)]
  | _ => []

def traffic (t : Nat) : Env := fun name =>
  ((trafficSignals t).lookup name).getD 0

theorem run_traffic :
    Run register (Hardware.ofConfig register ⟨"regforge", "unspecified", ""⟩).widths 9
      traffic where
  reset := ⟨fun _ => 1, by decide +kernel, by decide +kernel⟩
  released := by decide +kernel
  settled := by decide +kernel
  steps := by decide +kernel

theorem conforms_traffic :
    Conforms (Hardware.ofConfig register ⟨"regforge", "unspecified", ""⟩).widths 9 traffic where
  waits := by decide +kernel
  ends := by decide +kernel

end RegisterFile.Bus.Apb
