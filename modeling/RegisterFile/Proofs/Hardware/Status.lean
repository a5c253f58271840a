import RegisterFile.Proofs.Hardware.Simulation

/-!
What the bus is told within a cycle. The error wires and the read multiplexer of values at rest
answer a transfer as the model does.
-/

namespace RegisterFile.Hardware

open Verilog

variable {config : Config} {widths : Widths} {e : Env} {state : Model.State}
  {register : RegisterLayout} {cell : Model.Cell} {addr : String} {address : UInt64}

/-! ### Error wires -/

/-- Addresses are unknown to the module exactly if no register has them. -/
theorem holds_unknownAddress (haddressed : ∀ register ∈ (Layout.ofConfig config).registers,
      ((addressed addr register).holds widths e = true ↔ register.address = address)) :
    (unknownAddress addr (Layout.ofConfig config)).holds widths e = true ↔
      ∀ register ∈ (Layout.ofConfig config).registers, register.address ≠ address := by
  have hwidths : ∀ term ∈ (Layout.ofConfig config).registers.map (addressed addr),
      term.width widths = 1 := List.forall_mem_map.mpr fun _ _ => width_addressed
  unfold unknownAddress
  split
  · next hit hjoined =>
    have hhit : hit.width widths = 1 := Expr.width_join? hwidths hjoined
    have hgroup : (Expr.group hit).width widths = 1 := hhit
    rw [Expr.holds_invert hgroup, Expr.holds_group, Expr.holds_join? hwidths hjoined,
      Bool.not_eq_true', List.any_eq_false, List.forall_mem_map]
    exact forall₂_congr fun register hmem => not_congr (haddressed register hmem)
  · next hnone =>
    rw [Expr.holds_bit, List.map_eq_nil_iff.mp (Expr.join?_eq_none hnone)]
    simp

theorem width_unknownAddress :
    (unknownAddress addr (Layout.ofConfig config)).width widths = 1 := by
  have hwidths : ∀ term ∈ (Layout.ofConfig config).registers.map (addressed addr),
      term.width widths = 1 := List.forall_mem_map.mpr fun _ _ => width_addressed
  unfold unknownAddress
  split
  · next hit hjoined =>
    have hhit : hit.width widths = 1 := Expr.width_join? hwidths hjoined
    exact hhit
  · rfl

/-- The terms of a locked write, one for each segment with locks. -/
def lockHits (addr : String) (layout : Layout) : List Expr :=
  layout.registers.flatMap fun register =>
    (register.segments.filter Segment.swWrite).filterMap (lockHit? addr register)

theorem mem_lockHits {term : Expr} :
    term ∈ lockHits addr (Layout.ofConfig config) ↔
      ∃ register ∈ (Layout.ofConfig config).registers, ∃ segment ∈ register.segments,
        segment.swWrite = true ∧ lockHit? addr register segment = some term := by
  simp only [lockHits, List.mem_flatMap, List.mem_filterMap, List.mem_filter, and_assoc]

theorem width_lockHit {segment : Segment} {term : Expr}
    (hterm : lockHit? addr register segment = some term) : term.width widths = 1 := by
  obtain ⟨active, hactive, rfl⟩ := Option.map_eq_some_iff.mp hterm
  have hwidth : (addressed addr register).width widths = 1 := width_addressed
  simp only [Expr.width, hwidth, width_lockActive? hactive, Nat.max_self]

theorem holds_lockHit (hwf : config.WellFormed) (hsignals : Signals config widths)
    (hfits : (Model.ofConfig config).Fits state)
    (hshows : Shows widths e (Model.ofConfig config) state)
    (hmem : register ∈ (Layout.ofConfig config).registers) {segment : Segment}
    (hsegment : segment ∈ register.segments) :
    (∃ term, lockHit? addr register segment = some term ∧ term.holds widths e = true) ↔
      (addressed addr register).holds widths e = true ∧
        (Model.ofConfig config).Locked state segment := by
  rw [locked_iff hwf hsignals hfits hshows hmem hsegment]
  cases hactive : lockActive? segment.locks with
  | none =>
    have hnone : lockHit? addr register segment = none := by rw [lockHit?, hactive, Option.map_none]
    simp [hnone, lockActive?_eq_none hactive]
  | some active =>
    have hsome : lockHit? addr register segment =
        some (.group (.and (addressed addr register) active)) := by
      rw [lockHit?, hactive, Option.map_some]
    simp [hsome, Expr.holds_and width_addressed (width_lockActive? hactive),
      holds_lockActive? hactive]

theorem width_lockHits : ∀ term ∈ lockHits addr (Layout.ofConfig config),
    term.width widths = 1 := by
  intro term hterm
  obtain ⟨register, -, segment, -, -, hsome⟩ := mem_lockHits.mp hterm
  exact width_lockHit hsome

theorem lockedWrite_eq (layout : Layout) :
    lockedWrite addr layout = (Expr.join? .or (lockHits addr layout)).getD (.bit false) :=
  rfl

theorem width_lockedWrite : (lockedWrite addr (Layout.ofConfig config)).width widths = 1 := by
  rw [lockedWrite_eq]
  cases hjoined : Expr.join? .or (lockHits addr (Layout.ofConfig config)) with
  | none => rfl
  | some joined => exact Expr.width_join? width_lockHits hjoined

/-- A write is locked exactly if a lock holds a segment of the register that it goes to. -/
theorem holds_lockedWrite (hwf : config.WellFormed) (hsignals : Signals config widths)
    (hfits : (Model.ofConfig config).Fits state)
    (hshows : Shows widths e (Model.ofConfig config) state)
    (haddressed : ∀ register ∈ (Layout.ofConfig config).registers,
      ((addressed addr register).holds widths e = true ↔ register.address = address)) :
    (lockedWrite addr (Layout.ofConfig config)).holds widths e = true ↔
      ∃ register ∈ (Layout.ofConfig config).registers, register.address = address ∧
        ∃ segment ∈ register.segments, segment.swWrite = true ∧
          (Model.ofConfig config).Locked state segment := by
  have hany : (lockedWrite addr (Layout.ofConfig config)).holds widths e = true ↔
      ∃ term ∈ lockHits addr (Layout.ofConfig config), term.holds widths e = true := by
    rw [lockedWrite_eq]
    cases hjoined : Expr.join? .or (lockHits addr (Layout.ofConfig config)) with
    | none =>
      rw [Expr.join?_eq_none hjoined, Option.getD_none, Expr.holds_bit]
      simp
    | some joined =>
      rw [Option.getD_some, Expr.holds_join? width_lockHits hjoined, List.any_eq_true]
  rw [hany]
  constructor
  · rintro ⟨term, hterm, hholds⟩
    obtain ⟨register, hmem, segment, hsegment, hwritable, hsome⟩ := mem_lockHits.mp hterm
    obtain ⟨haddress, hlocked⟩ :=
      (holds_lockHit hwf hsignals hfits hshows hmem hsegment).mp ⟨term, hsome, hholds⟩
    exact ⟨register, hmem, (haddressed register hmem).mp haddress, segment, hsegment, hwritable,
      hlocked⟩
  · rintro ⟨register, hmem, haddress, segment, hsegment, hwritable, hlocked⟩
    obtain ⟨term, hsome, hholds⟩ := (holds_lockHit hwf hsignals hfits hshows hmem hsegment).mpr
      ⟨(haddressed register hmem).mpr haddress, hlocked⟩
    exact ⟨term, mem_lockHits.mpr ⟨register, hmem, segment, hsegment, hwritable, hsome⟩, hholds⟩

/-! ### The answer to a write -/

theorem width_writeErrorExpr (hsignals : Signals config widths) :
    (writeErrorExpr config).width widths = 1 := by
  have hdecode : (Expr.signal writeDecodeError).width widths = 1 :=
    hsignals.errors writeDecodeError (by simp [errorNames])
  have hlock : (Expr.signal writeLockError).width widths = 1 :=
    hsignals.errors writeLockError (by simp [errorNames])
  unfold writeErrorExpr
  split
  · rfl
  · split
    · simp only [Expr.width, hdecode, hlock, Nat.max_self]
    · exact hdecode

theorem holds_writeErrorExpr (hsignals : Signals config widths) :
    (writeErrorExpr config).holds widths e = true ↔
      config.options.errorResponse = .slverr ∧
        ((e.value widths writeDecodeError != 0) = true ∨
          config.options.lockError = true ∧ (e.value widths writeLockError != 0) = true) := by
  have hdecode : (Expr.signal writeDecodeError).width widths = 1 :=
    hsignals.errors writeDecodeError (by simp [errorNames])
  have hlock : (Expr.signal writeLockError).width widths = 1 :=
    hsignals.errors writeLockError (by simp [errorNames])
  unfold writeErrorExpr
  cases config.options.errorResponse with
  | okay =>
    rw [Expr.holds_bit]
    constructor
    · exact fun hfalse => absurd hfalse Bool.false_ne_true
    · rintro ⟨hslverr, -⟩
      cases hslverr
  | slverr =>
    cases config.options.lockError with
    | false =>
      rw [if_neg Bool.false_ne_true, Expr.holds_signal]
      exact ⟨fun herror => ⟨rfl, Or.inl herror⟩,
        fun h => h.2.resolve_right fun hlocked => Bool.false_ne_true hlocked.1⟩
    | true =>
      rw [if_pos rfl, Expr.holds_or hdecode hlock, Bool.or_eq_true, Expr.holds_signal,
        Expr.holds_signal]
      simp only [true_and]

theorem value_errorWire (hsignals : Signals config widths) (hsettled : Settled config widths e)
    {name : String} {x : Expr} (hname : name ∈ errorNames) (hwidth : x.width widths = 1)
    (hwire : Item.wire 1 name x ∈ errorWires config (Layout.ofConfig config)) :
    e.value widths name = flag (x.holds widths e) := by
  have hitem : Item.wire 1 name x ∈ statusItems config :=
    List.mem_append_left _ (List.mem_append_right _ hwire)
  exact (hsettled _ hitem).value_wire (hsignals.errors name hname) hwidth

/-- The write error is up exactly if the model answers a write with an error. -/
theorem answers_write (hsingle : SinglePorted config widths) (hsettled : Settled config widths e)
    (hfits : (Model.ofConfig config).Fits state)
    (hshows : Shows widths e (Model.ofConfig config) state) {data strobe : Word}
    (hpresents : Presents config widths e (.write address data strobe)) :
    Answers config widths e state (.write address data strobe) := by
  have hsignals := hsingle.signals
  have hwf := hsingle.wellFormed
  have haddr := hpresents.2.2.1
  have haddressed : ∀ register ∈ (Layout.ofConfig config).registers,
      ((addressed config.interface.signals.writeAddr register).holds widths e = true ↔
        register.address = address) :=
    fun register hmem => holds_addressed_iff hwf hsignals hsettled hmem haddr
  have hdecode : e.value widths writeDecodeError = flag ((unknownAddress
      config.interface.signals.writeAddr (Layout.ofConfig config)).holds widths e) :=
    value_errorWire hsignals hsettled (by simp [errorNames]) width_unknownAddress
      (by simp [errorWires, busWritePort])
  have hlock : e.value widths writeLockError = flag ((lockedWrite
      config.interface.signals.writeAddr (Layout.ofConfig config)).holds widths e) :=
    value_errorWire hsignals hsettled (by simp [errorNames]) width_lockedWrite
      (by simp [errorWires, busWritePort])
  have herror : e.value widths Bus.writeError = flag ((writeErrorExpr config).holds widths e) :=
    value_errorWire hsignals hsettled (by simp [errorNames]) (width_writeErrorExpr hsignals)
      (by simp [errorWires])
  have hanswer := (Model.written_write hwf.regular_model hfits address data strobe).answer
  have hunknown := holds_unknownAddress haddressed
  have hlocked := holds_lockedWrite hwf hsignals hfits hshows haddressed
  rw [Answers, herror]
  congr 1
  rw [Bool.eq_iff_iff, beq_iff_eq, hanswer, holds_writeErrorExpr hsignals, hdecode, hlock,
    flag_bne_zero, flag_bne_zero, hunknown, hlocked]
  rfl

end RegisterFile.Hardware
