import RegisterFile.Proofs.Hardware.Cycle

/-!
Gates and addresses of the module against those of the model. A generated condition is one bit
wide, and it holds exactly if what it stands for holds of the state that the signals show.
-/

namespace RegisterFile.Hardware

open Verilog

variable {config : Config} {widths : Widths} {e : Env} {state : Model.State}
  {register : RegisterLayout} {segment : Segment}

/-! ### Addresses -/

theorem width_addressed {addr : String} : (addressed addr register).width widths = 1 :=
  rfl

theorem holds_addressed {addr : String} :
    (addressed addr register).holds widths e = true ↔
      e.value widths addr = e.value widths (addressName register) := by
  rw [addressed, Expr.isEqual, Expr.holds_group, Expr.holds_equal, Expr.signal, Expr.signal,
    Expr.eval, Expr.eval, Env.read_whole, Env.read_whole, beq_iff_eq]

theorem ofNat_address_inj {a b : UInt64} :
    BitVec.ofNat 128 a.toNat = BitVec.ofNat 128 b.toNat ↔ a = b := by
  have ha := a.toNat_lt
  have hb := b.toNat_lt
  rw [← UInt64.toNat_inj]
  constructor
  · intro heq
    have hnat := congrArg BitVec.toNat heq
    rw [BitVec.toNat_ofNat, BitVec.toNat_ofNat, Nat.mod_eq_of_lt (by omega),
      Nat.mod_eq_of_lt (by omega)] at hnat
    exact hnat
  · intro heq
    rw [heq]

/-- The constants of a settled module hold the addresses. -/
theorem value_addressName (hwf : config.WellFormed) (hsignals : Signals config widths)
    (hsettled : Settled config widths e) (hmem : register ∈ (Layout.ofConfig config).registers) :
    e.value widths (addressName register) = BitVec.ofNat 128 register.address.toNat := by
  have hitem : addressConstant config register ∈ statusItems config :=
    List.mem_append_left _ (List.mem_append_left _ (List.mem_map_of_mem hmem))
  have hconstant := hsettled _ hitem
  obtain ⟨declared, hdeclared, rfl⟩ := List.mem_map.mp hmem
  obtain ⟨address, haddress, hfits, -⟩ := hwf.addressed declared hdeclared
  have hwidth := hsignals.address _ hmem
  have hlayout : (Layout.ofRegister config declared).address = address := by
    simp [Layout.ofRegister, haddress]
  have hword := (Word.fitsIn_ofNat hfits).and_lowMask
  rw [hlayout]
  simp only [addressConstant, Item.Holds, Expr.evalFor, Expr.hex, Expr.eval, hwidth, hlayout,
    hword] at hconstant
  exact hconstant

theorem holds_addressed_iff (hwf : config.WellFormed) (hsignals : Signals config widths)
    (hsettled : Settled config widths e) (hmem : register ∈ (Layout.ofConfig config).registers)
    {addr : String} {address : UInt64}
    (hvalue : e.value widths addr = BitVec.ofNat 128 address.toNat) :
    (addressed addr register).holds widths e = true ↔ register.address = address := by
  rw [holds_addressed, hvalue, value_addressName hwf hsignals hsettled hmem, ofNat_address_inj]
  exact eq_comm

/-! ### Values of registers -/

theorem hasValue_iff (hfits : (Model.ofConfig config).Fits state)
    (hshows : Shows widths e (Model.ofConfig config) state)
    (hmem : register ∈ (Layout.ofConfig config).registers) {value : Word} :
    (Model.ofConfig config).HasValue state register.ident value ↔
      e.value widths (storageName register.ident) = value := by
  constructor
  · rintro ⟨other, cell, hholds, hident, rfl⟩
    rw [← hident]
    exact (hshows other cell hholds).storage
  · rintro rfl
    obtain ⟨cell, hholds⟩ := hfits.exists_holds hmem
    exact ⟨register, cell, hholds, rfl, (hshows register cell hholds).storage.symm⟩

/-! ### Locks -/

theorem width_tapExpr (tap : LockTap) : (tapExpr tap).width widths = 1 := by
  rw [tapExpr]
  split <;> rfl

/-- The bits of a tap are read from the storage of its register. -/
theorem holds_tapExpr {tap : LockTap}
    (hinside : tap.bits.Inside (widths (storageName tap.register)))
    (hwide : widths (storageName tap.register) ≤ 128) :
    (tapExpr tap).holds widths e = true ↔
      ∃ i ∈ tap.bits, (e.value widths (storageName tap.register)).getLsbD i = true := by
  have hle := tap.bits.low_le_high
  have hhigh := hinside.high_lt
  rw [tapExpr]
  split
  · next hsingle =>
    have hsame : tap.bits.high = tap.bits.low := beq_iff_eq.mp hsingle
    rw [Expr.holds_iff_bit rfl, Expr.eval, Env.getLsbD_read Nat.one_pos (by decide)]
    constructor
    · exact fun hbit => ⟨tap.bits.low, ⟨Nat.le_refl _, hle⟩, hbit⟩
    · rintro ⟨i, hin, hbit⟩
      obtain ⟨hlow, hi⟩ := BitRange.mem_iff.mp hin
      obtain rfl : i = tap.bits.low := by omega
      exact hbit
  · rw [Expr.holds_group, Expr.holds_any, Expr.holds, bne_iff_ne, Expr.eval, Word.ne_zero_iff]
    constructor
    · rintro ⟨j, hbit⟩
      have hj : j < (Ref.mk (storageName tap.register) (.bits tap.bits.high tap.bits.low)).width
          widths := by
        by_contra hout
        rw [Env.fitsIn_read j (Nat.le_of_not_lt hout)] at hbit
        cases hbit
      rw [Env.getLsbD_read hj (BitVec.lt_of_getLsbD hbit)] at hbit
      simp only [Ref.width] at hj
      refine ⟨tap.bits.low + j, BitRange.mem_iff.mpr ⟨Nat.le_add_right _ _, by omega⟩, hbit⟩
    · rintro ⟨i, hin, hbit⟩
      obtain ⟨hlow, hi⟩ := BitRange.mem_iff.mp hin
      refine ⟨i - tap.bits.low, ?_⟩
      rw [Env.getLsbD_read (by simp only [Ref.width]; omega) (by omega)]
      simp only [Ref.low, Nat.add_sub_cancel' hlow]
      exact hbit

theorem width_lockActive? {locks : List LockTap} {active : Expr}
    (hactive : lockActive? locks = some active) : active.width widths = 1 := by
  cases locks with
  | nil => cases hactive
  | cons first rest =>
    cases rest with
    | nil =>
      obtain rfl : tapExpr first = active := Option.some.inj hactive
      exact width_tapExpr first
    | cons second rest =>
      obtain rfl : Expr.group (((second :: rest).map tapExpr).foldl .or (tapExpr first)) = active :=
        Option.some.inj hactive
      exact Expr.width_foldl_or (width_tapExpr first)
        (List.forall_mem_map.mpr fun tap _ => width_tapExpr tap)

theorem holds_lockActive? {locks : List LockTap} {active : Expr}
    (hactive : lockActive? locks = some active) :
    active.holds widths e = locks.any fun tap => (tapExpr tap).holds widths e := by
  cases locks with
  | nil => cases hactive
  | cons first rest =>
    cases rest with
    | nil =>
      obtain rfl : tapExpr first = active := Option.some.inj hactive
      exact (Bool.or_false _).symm
    | cons second rest =>
      obtain rfl : Expr.group (((second :: rest).map tapExpr).foldl .or (tapExpr first)) = active :=
        Option.some.inj hactive
      have hwidths : ∀ term ∈ (second :: rest).map tapExpr, term.width widths = 1 :=
        List.forall_mem_map.mpr fun tap _ => width_tapExpr tap
      rw [Expr.holds_group, Expr.holds_foldl_or (width_tapExpr first) hwidths, List.any_map]
      rfl

theorem lockActive?_eq_none {locks : List LockTap} (hnone : lockActive? locks = none) :
    locks = [] := by
  cases locks with
  | nil => rfl
  | cons first rest =>
    cases rest with
    | nil => cases hnone
    | cons second rest => cases hnone

theorem locked_iff (hwf : config.WellFormed) (hsignals : Signals config widths)
    (hfits : (Model.ofConfig config).Fits state)
    (hshows : Shows widths e (Model.ofConfig config) state)
    (hmem : register ∈ (Layout.ofConfig config).registers)
    (hsegment : segment ∈ register.segments) :
    (Model.ofConfig config).Locked state segment ↔
      ∃ tap ∈ segment.locks, (tapExpr tap).holds widths e = true := by
  refine exists_congr fun tap => and_congr_right fun htap => ?_
  obtain ⟨locker, hlocker, hident, hinside⟩ :=
    hwf.regular.taps register hmem segment hsegment tap htap
  have hwidth := hsignals.storage locker hlocker
  rw [hident] at hwidth
  have hwide := (hwf.regular.registers locker hlocker).width_le
  rw [holds_tapExpr (hwidth ▸ hinside) (hwidth ▸ hwide)]
  constructor
  · rintro ⟨value, hvalue, hbit⟩
    rw [← hident] at hvalue ⊢
    rw [(hasValue_iff hfits hshows hlocker).mp hvalue]
    exact hbit
  · intro hbit
    refine ⟨_, ?_, hbit⟩
    rw [← hident]
    exact (hasValue_iff hfits hshows hlocker).mpr rfl

/-! ### Magic values -/

theorem holds_gateExpr (hwf : config.WellFormed) (hfits : (Model.ofConfig config).Fits state)
    (hshows : Shows widths e (Model.ofConfig config) state)
    (hmem : register ∈ (Layout.ofConfig config).registers) (hsegment : segment ∈ register.segments)
    {gate : MagicGate} (hgate : gate ∈ segment.gates) :
    (gateExpr gate).holds widths e = true ↔
      (Model.ofConfig config).HasValue state gate.register gate.value := by
  obtain ⟨source, hsource, hident, -, hvalue⟩ :=
    hwf.regular.gates register hmem segment hsegment gate hgate
  rw [← hident, hasValue_iff hfits hshows hsource, hident, gateExpr, Expr.isEqual,
    Expr.holds_group, Expr.holds_equal, Expr.signal, Expr.eval, Env.read_whole, Expr.hex, Expr.eval,
    hvalue.and_lowMask, beq_iff_eq]

/-! ### Writes -/

theorem width_gateTerms (hsignals : Signals config widths)
    (hmem : register ∈ (Layout.ofConfig config).registers)
    (hsegment : segment ∈ register.segments) :
    ∀ term ∈ gateTerms segment, term.width widths = 1 := by
  intro term hterm
  simp only [gateTerms, List.mem_append, Option.mem_toList, Option.map_eq_some_iff,
    List.mem_map] at hterm
  rcases hterm with (⟨active, hactive, rfl⟩ | ⟨gate, -, rfl⟩) | ⟨flag, hflag, rfl⟩
  · have hwidth : active.width widths = 1 := width_lockActive? hactive
    exact hwidth
  · rfl
  · exact hsignals.flag register hmem segment hsegment flag hflag

theorem holds_lockTerm (hwf : config.WellFormed) (hsignals : Signals config widths)
    (hfits : (Model.ofConfig config).Fits state)
    (hshows : Shows widths e (Model.ofConfig config) state)
    (hmem : register ∈ (Layout.ofConfig config).registers)
    (hsegment : segment ∈ register.segments) :
    (∀ term ∈ ((lockActive? segment.locks).map Expr.invert).toList,
      term.holds widths e = true) ↔
      ¬ (Model.ofConfig config).Locked state segment := by
  rw [locked_iff hwf hsignals hfits hshows hmem hsegment]
  cases hactive : lockActive? segment.locks with
  | none => simp [lockActive?_eq_none hactive]
  | some active =>
    simp [Expr.holds_invert (width_lockActive? hactive), holds_lockActive? hactive]

/-- A bus write gets through the gates of a segment exactly if the model admits it. -/
theorem holds_gateTerms (hwf : config.WellFormed) (hsignals : Signals config widths)
    (hfits : (Model.ofConfig config).Fits state)
    (hshows : Shows widths e (Model.ofConfig config) state) {cell : Model.Cell}
    (hholds : (Model.ofConfig config).Holds state register cell) {written : Bool}
    (hentry : (segment, written) ∈ register.segments.zip cell.written)
    (hwritable : segment.swWrite = true) :
    (∀ term ∈ gateTerms segment, term.holds widths e = true) ↔
      (Model.ofConfig config).Admits state segment written := by
  have hmem := hholds.mem
  have hsegment := (List.of_mem_zip hentry).1
  have hlocks := holds_lockTerm hwf hsignals hfits hshows hmem hsegment
  have hgates : (∀ term ∈ segment.gates.map gateExpr, term.holds widths e = true) ↔
      ∀ gate ∈ segment.gates, (Model.ofConfig config).HasValue state gate.register gate.value := by
    rw [List.forall_mem_map]
    exact forall₂_congr fun gate hgate => holds_gateExpr hwf hfits hshows hmem hsegment hgate
  have hflag : (∀ term ∈ (segment.writtenFlag.map Expr.invertSignal).toList,
      term.holds widths e = true) ↔ written = false := by
    cases hsome : segment.writtenFlag with
    | none =>
      have hfresh : written = false := by
        rw [Bool.eq_false_iff]
        rintro rfl
        have hflagged := (hfits.cells register cell hholds).flagged segment hentry
        rw [hsome] at hflagged
        cases hflagged
      simp [hfresh]
    | some flag =>
      have hvalue := (hshows register cell hholds).flags segment written hentry flag hsome
      have hwidth : (Expr.signal flag).width widths = 1 :=
        hsignals.flag register hmem segment hsegment flag hsome
      have hterm : (Expr.invertSignal flag).holds widths e = !written := by
        rw [Expr.invertSignal, Expr.holds_invert hwidth, Expr.holds_signal, hvalue, flag_bne_zero]
      simp [hterm]
  simp only [gateTerms, List.forall_mem_append, hlocks, hgates, hflag]
  constructor
  · rintro ⟨⟨hunlocked, hungated⟩, hfresh⟩
    exact ⟨hwritable, hunlocked, hungated, hfresh⟩
  · rintro ⟨-, hunlocked, hungated, hfresh⟩
    exact ⟨⟨hunlocked, hungated⟩, hfresh⟩

end RegisterFile.Hardware
