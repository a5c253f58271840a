import RegisterFile.Proofs.Hardware.Cycle
import RegisterFile.Proofs.Hardware.Update

/-!
One step of the module against one cycle of the model. If the signals show what the registers hold
before the clock edge, they show after it what the model makes of that.
-/

namespace RegisterFile.Hardware

open Verilog

/-- A valid register file with one write port, and the widths of its signals. -/
structure OneWritePort (config : Config) (widths : Widths) : Prop where
  wellFormed : config.WellFormed
  signals : Signals config widths
  flags : config.writtenFlags.Nodup
  writePorts : config.writePorts = 1

/-- A valid register file with one port of each kind, and the widths of its signals. -/
structure SinglePorted (config : Config) (widths : Widths) : Prop
    extends OneWritePort config widths where
  readPorts : config.readPorts = 1

variable {config : Config} {widths : Widths} {e e' : Env} {state : Model.State}
  {register : RegisterLayout} {segment : Segment} {cell after : Model.Cell} {name : String}
  {i j : Nat}

/-! ### Single ports -/

theorem extraPorts_one : extraPorts 1 = [] :=
  rfl

section OneWritePort

variable (hone : OneWritePort config widths)

include hone

theorem OneWritePort.allWritePorts_eq : allWritePorts config = [busWritePort config] := by
  rw [allWritePorts, extraWritePorts, hone.writePorts, extraPorts_one, List.map_nil]

theorem OneWritePort.wired : Wired config widths where
  wellFormed := hone.wellFormed
  signals := hone.signals
  flags := hone.flags
  writePorts := by
    rw [hone.allWritePorts_eq, List.forall_mem_singleton]
    exact regular_busWritePort hone.signals.toBusSignals

/-- Registers follow the bus if it writes them, and nothing otherwise. -/
theorem OneWritePort.leader?_eq :
    leader? config widths e register =
      if (busWritePort config).targets widths e register then some (busWritePort config)
      else none := by
  rw [leader?, hone.allWritePorts_eq, List.find?_cons]
  cases (busWritePort config).targets widths e register <;> rfl

theorem OneWritePort.leader?_of_not_enabled
    (henable : config.interface.signals.writeEnable.holds widths e = false) :
    leader? config widths e register = none := by
  have hidle : (busWritePort config).targets widths e register = false :=
    Bool.and_eq_false_imp.mpr fun hfires => absurd (henable.symm.trans hfires) Bool.false_ne_true
  rw [hone.leader?_eq, hidle, if_neg Bool.false_ne_true]

end OneWritePort

theorem SinglePorted.holds_anyRead (hsingle : SinglePorted config widths) :
    (anyRead config register).holds widths e =
      (config.interface.signals.readEnable.holds widths e &&
        (addressed config.interface.signals.readAddr register).holds widths e) := by
  have hports : allReadPorts config = [busReadPort config] := by
    rw [allReadPorts, extraReadPorts, hsingle.readPorts, extraPorts_one, List.map_nil]
  have hwidths : ∀ port ∈ allReadPorts config, port.enable.width widths = 1 := by
    rw [hports, List.forall_mem_singleton]
    exact hsingle.signals.readEnable
  rw [Hardware.holds_anyRead hwidths, hports]
  exact Bool.or_false _

/-! ### The next value of a signal -/

/-- The bits of a signal after a step are what the update block makes of them. -/
theorem StepsTo.getLsbD_value (hsteps : StepsTo config widths e e')
    (hmem : register ∈ (Layout.ofConfig config).registers) (hname : name ∈ registerSignals register)
    (hi : i < widths name) (hword : i < 128) :
    (e'.value widths name).getLsbD i =
      ((updateBody config).effect widths e name i).getD ((e.value widths name).getLsbD i) := by
  have hold : (e.value widths name).getLsbD i = (e name).getLsbD i := by
    rw [Env.getLsbD_value hword, decide_eq_true hi, Bool.and_true]
  rw [hsteps name (registerSignals_subset_targets hmem hname), Env.getLsbD_value hword,
    decide_eq_true hi, Bool.and_true, Stmt.getLsbD_step isClocked_updateBody hword, ← hold]

/-- So a signal has a value after a step if its bits do. -/
theorem StepsTo.value_eq (hsteps : StepsTo config widths e e')
    (hmem : register ∈ (Layout.ofConfig config).registers) (hname : name ∈ registerSignals register)
    {now : Word} (hnow : now.FitsIn (widths name))
    (hbits : ∀ i < widths name, i < 128 →
      ((updateBody config).effect widths e name i).getD ((e.value widths name).getLsbD i) =
        now.getLsbD i) :
    e'.value widths name = now := by
  apply Env.fitsIn_value.ext hnow
  intro i hi hword
  rw [hsteps.getLsbD_value hmem hname hi hword, hbits i hi hword]

theorem storage_mem : storageName register.ident ∈ registerSignals register :=
  List.mem_cons_self

theorem signal_mem (hsegment : segment ∈ register.segments)
    (hname : name ∈ segmentSignals segment) :
    name ∈ registerSignals register :=
  List.mem_cons_of_mem _ (List.mem_flatMap.mpr ⟨segment, hsegment, hname⟩)

/-- Reads and hardware only touch what is stored. -/
theorem effect_updateBody_signal (hwired : Wired config widths)
    (hreleased : (Reset.ofSync config.syncReset).active.holds widths e = false)
    (hmem : register ∈ (Layout.ofConfig config).registers) (hsegment : segment ∈ register.segments)
    (hname : name ∈ segmentSignals segment) :
    (updateBody config).effect widths e name i =
      if segment.swWrite then (busWrite config register segment).effect widths e name i
      else none := by
  have hne : name ∉ [storageName register.ident] := by
    intro hstorage
    rw [List.mem_singleton.mp hstorage] at hname
    exact storageName_not_mem hmem hmem hsegment hname
  rw [effect_updateBody_clock hwired.wellFormed hwired.flags hmem (signal_mem hsegment hname)
      hreleased,
    Stmt.effects_eq_none_of_updates updates_readEffects hne,
    Stmt.effects_eq_none_of_updates updates_hardwareWrites hne, Option.none_or, Option.or_none,
    effects_busWrites_signal hwired.wellFormed hwired.flags hmem hsegment hname]

/-- A signal of a segment that the bus does not write stays as it is. -/
theorem signal_undriven (hwired : Wired config widths) (hsteps : StepsTo config widths e e')
    (hreleased : (Reset.ofSync config.syncReset).active.holds widths e = false)
    (hmem : register ∈ (Layout.ofConfig config).registers) (hsegment : segment ∈ register.segments)
    (hname : name ∈ segmentSignals segment) (hreadOnly : segment.swWrite = false) :
    e'.value widths name = e.value widths name := by
  apply hsteps.value_eq hmem (signal_mem hsegment hname) Env.fitsIn_value
  intro i _ _
  rw [effect_updateBody_signal hwired hreleased hmem hsegment hname, hreadOnly,
    if_neg Bool.false_ne_true, Option.getD_none]

theorem takeFrom_eq_zero {value : Word} {bits : BitRange}
    (hclear : ∀ i ∈ bits, value.getLsbD i = false) :
    value.takeFrom bits.low &&& Word.lowMask bits.width = 0 := by
  apply (Word.fitsIn_and_lowMask _ _).ext (Word.fitsIn_zero bits.width)
  intro i hi _
  have hspan := bits.low_add_width
  rw [BitVec.getLsbD_and, Word.getLsbD_takeFrom, hclear _ (BitRange.mem_iff.mpr (by omega)),
    Word.getLsbD_zero, Bool.false_and]

/-! ### Reset -/

/-- Under reset the signals take up what the registers start with. -/
theorem shows_reset (hwired : Wired config widths) (hsteps : StepsTo config widths e e')
    (hactive : (Reset.ofSync config.syncReset).active.holds widths e = true) :
    Shows widths e' (Model.ofConfig config) (Model.ofConfig config).reset := by
  have hwf := hwired.wellFormed
  have hflags := hwired.flags
  rintro register cell ⟨index, hindex, hcell⟩
  rw [Model.reset, List.getElem?_map, hindex] at hcell
  obtain rfl := Option.some.inj hcell
  have hmem := List.mem_of_getElem? hindex
  refine ⟨?_, ?_, ?_⟩
  · have hwidth := hwired.signals.storage register hmem
    have hreset := (hwf.regular.registers register hmem).reset
    apply hsteps.value_eq hmem storage_mem (hwidth ▸ hreset)
    intro i hi _
    rw [effect_updateBody_reset hwf hflags hmem storage_mem hactive,
      effects_resetRegister_storage hwf hwired.signals hmem (hwidth ▸ hi)]
    rfl
  · intro segment written hentry flag hflag
    have hsegment := (List.of_mem_zip hentry).1
    have hname := mem_segmentSignals.mpr (Or.inl hflag)
    have hwidth := hwired.signals.flag register hmem segment hsegment flag hflag
    have hwritten : written = false := by
      obtain ⟨-, -, hfalse⟩ := List.mem_map.mp (List.of_mem_zip hentry).2
      exact hfalse.symm
    rw [hwritten]
    apply hsteps.value_eq hmem (signal_mem hsegment hname) (Word.fitsIn_zero _)
    intro i hi _
    obtain rfl : i = 0 := by omega
    rw [effect_updateBody_reset hwf hflags hmem (signal_mem hsegment hname) hactive,
      effects_resetRegister_signal hwf hflags hmem hsegment hname,
      effects_resetSegment_flag hwired.signals hmem hsegment hflag]
    rfl
  · intro segment hsegment pulse hpulse
    have hname := mem_segmentSignals.mpr (Or.inr hpulse)
    have hquiet : (Model.resetCell register).pulse.takeFrom segment.bits.low &&&
        Word.lowMask segment.bits.width = 0 :=
      takeFrom_eq_zero fun i _ => Word.getLsbD_zero i
    rw [hquiet]
    apply hsteps.value_eq hmem (signal_mem hsegment hname) (Word.fitsIn_zero _)
    intro i hi _
    rw [effect_updateBody_reset hwf hflags hmem (signal_mem hsegment hname) hactive,
      effects_resetRegister_signal hwf hflags hmem hsegment hname,
      effects_resetSegment_pulse hpulse hi, Word.getLsbD_zero]
    rfl

/-! ### Registers that the bus does not write -/

section Unwritten

variable (hwired : Wired config widths) (hsteps : StepsTo config widths e e')
  (hreleased : (Reset.ofSync config.syncReset).active.holds widths e = false)
  (hmem : register ∈ (Layout.ofConfig config).registers)
  (hleader : leader? config widths e register = none)

include hwired hsteps hreleased hmem hleader

theorem flag_unwritten (hsegment : segment ∈ register.segments)
    (hflag : segment.writtenFlag = some name) : e'.value widths name = e.value widths name := by
  have hname : name ∈ segmentSignals segment := mem_segmentSignals.mpr (Or.inl hflag)
  apply hsteps.value_eq hmem (signal_mem hsegment hname) Env.fitsIn_value
  intro i _ _
  rw [effect_updateBody_signal hwired hreleased hmem hsegment hname,
    effect_busWrite_of_none hwired hmem hsegment hleader,
    effect_unwritten_flag hmem hsegment hflag, ite_self]
  rfl

theorem pulse_unwritten (hsegment : segment ∈ register.segments)
    (hpulse : segment.pulsePort = some name) (hquiet : segment.swWrite = false →
      e.value widths name = 0) : e'.value widths name = 0 := by
  have hname : name ∈ segmentSignals segment := mem_segmentSignals.mpr (Or.inr hpulse)
  apply hsteps.value_eq hmem (signal_mem hsegment hname) (Word.fitsIn_zero _)
  intro i hi _
  rw [effect_updateBody_signal hwired hreleased hmem hsegment hname,
    effect_busWrite_of_none hwired hmem hsegment hleader,
    effect_unwritten_pulse hpulse hi, Word.getLsbD_zero]
  cases hwritable : segment.swWrite with
  | true => rfl
  | false =>
    rw [hquiet hwritable, Word.getLsbD_zero]
    rfl

theorem storage_unwritten {now : Word} (hnow : now.FitsIn register.width.toNat)
    (hbits : ∀ i < register.width.toNat,
      ((Stmt.effects widths e (readEffects config register) (storageName register.ident) i).or
        (Stmt.effects widths e (hardwareWrites register) (storageName register.ident) i)).getD
          ((e.value widths (storageName register.ident)).getLsbD i) = now.getLsbD i) :
    e'.value widths (storageName register.ident) = now := by
  have hwidth := hwired.signals.storage register hmem
  apply hsteps.value_eq hmem storage_mem (hwidth ▸ hnow)
  intro i hi _
  rw [effect_updateBody_clock hwired.wellFormed hwired.flags hmem storage_mem hreleased,
    effects_busWrites_storage_unled hwired hmem hleader, Option.none_or, hbits i (by omega)]

/-- Without a bus write, flags stay and pulses end. -/
theorem cellShown_unwritten (hshown : CellShown widths e register cell)
    (hquiet : ∀ segment ∈ register.segments, segment.swWrite = false →
      ∀ i ∈ segment.bits, cell.pulse.getLsbD i = false)
    (hvalue : e'.value widths (storageName register.ident) = after.value)
    (hwritten : after.written = cell.written) (hpulse : after.pulse = 0) :
    CellShown widths e' register after where
  storage := hvalue
  flags := by
    intro segment written hentry flag hflag
    rw [hwritten] at hentry
    rw [flag_unwritten hwired hsteps hreleased hmem hleader (List.of_mem_zip hentry).1 hflag]
    exact hshown.flags segment written hentry flag hflag
  pulses := by
    intro segment hsegment pulse hport
    rw [hpulse, takeFrom_eq_zero fun i _ => Word.getLsbD_zero i]
    apply pulse_unwritten hwired hsteps hreleased hmem hleader hsegment hport
    intro hreadOnly
    rw [hshown.pulses segment hsegment pulse hport,
      takeFrom_eq_zero (hquiet segment hsegment hreadOnly)]

end Unwritten

/-! ### What a cycle asks for -/

theorem effects_readEffects_idle (hsingle : SinglePorted config widths)
    (henable : config.interface.signals.readEnable.holds widths e = false) :
    Stmt.effects widths e (readEffects config register) name i = none := by
  rw [effects_readEffects, hsingle.holds_anyRead, henable,
    Bool.false_and, if_neg Bool.false_ne_true]

/-- An enable is high exactly if its stem is written. -/
theorem BringsHardware.holds_enable {writes : List (String × Word)}
    (hbrings : BringsHardware config widths e writes)
    (hmem : register ∈ (Layout.ofConfig config).registers) {hw : HwField}
    (hhw : hw ∈ register.hwFields) (hinput : hw.input = true) :
    (Expr.signal s!"{hw.stem}_we").holds widths e = true ↔ ∃ data, (hw.stem, data) ∈ writes := by
  rw [Expr.holds_signal, (hbrings register hmem hw hhw hinput).1, flag_bne_zero, List.any_eq_true]
  constructor
  · rintro ⟨⟨stem, data⟩, hwrite, hstem⟩
    rw [← beq_iff_eq.mp hstem]
    exact ⟨data, hwrite⟩
  · rintro ⟨data, hwrite⟩
    exact ⟨_, hwrite, beq_self_eq_true _⟩

/-- What hardware does to a stored bit is what the model makes of its writes. -/
theorem hardwareWrites_driven (hone : OneWritePort config widths)
    (hmem : register ∈ (Layout.ofConfig config).registers) {writes : List (String × Word)}
    (hbrings : BringsHardware config widths e writes) {driven : Model.Cell}
    (hdriven : Model.CellDriven register writes cell driven) (hi : i < register.width.toNat) :
    (Stmt.effects widths e (hardwareWrites register) (storageName register.ident) i).getD
        (cell.value.getLsbD i) =
      driven.value.getLsbD i := by
  have hregister := hone.wellFormed.regular.registers register hmem
  have hword := hregister.width_le
  by_cases hfield : ∃ hw ∈ register.hwFields, hw.input = true ∧ i ∈ hw.bits
  · obtain ⟨hw, hhw, hinput, hin⟩ := hfield
    rcases hdriven.driven hw hhw hinput i hin with ⟨data, hdata, hbit⟩ | ⟨hnone, hkept⟩
    · have henable := (hbrings.holds_enable hmem hhw hinput).mpr ⟨data, hdata⟩
      have hport := (hbrings register hmem hw hhw hinput).2 _ hdata rfl
      have hspan := hw.bits.low_add_width
      obtain ⟨hlow, hhigh⟩ := BitRange.mem_iff.mp hin
      rw [effects_hardwareWrites_hit hone.wellFormed hone.signals hmem hhw hinput hin henable,
        hport, BitVec.getLsbD_and, Word.getLsbD_lowMask, decide_eq_true (by omega),
        decide_eq_true (by omega), hbit]
      exact Bool.and_true _
    · rw [effects_hardwareWrites_miss hone.wellFormed hone.signals hmem, hkept]
      · rfl
      · intro other hother hotherInput hotherIn
        obtain rfl := hregister.hw_eq hhw hother hin hotherIn
        rw [Bool.eq_false_iff, ne_eq, hbrings.holds_enable hmem hhw hinput]
        rintro ⟨data, hdata⟩
        exact hnone data hdata
  · have hmiss : ∀ hw ∈ register.hwFields, hw.input = true → i ∉ hw.bits :=
      fun hw hhw hinput hin => hfield ⟨hw, hhw, hinput, hin⟩
    rw [effects_hardwareWrites_miss hone.wellFormed hone.signals hmem
      fun hw hhw hinput hin => absurd hin (hmiss hw hhw hinput), hdriven.kept i hmiss]
    rfl

theorem effects_hardwareWrites_idle (hwired : Wired config widths)
    (hmem : register ∈ (Layout.ofConfig config).registers)
    (hbrings : BringsHardware config widths e []) :
    Stmt.effects widths e (hardwareWrites register) (storageName register.ident) i = none := by
  apply effects_hardwareWrites_miss hwired.wellFormed hwired.signals hmem
  intro hw hhw hinput _
  rw [Bool.eq_false_iff, ne_eq, hbrings.holds_enable hmem hhw hinput]
  rintro ⟨data, hdata⟩
  cases hdata

/-! ### Cycles without a bus write -/

section Steps

variable (hsingle : SinglePorted config widths) (hsteps : StepsTo config widths e e')
  (hreleased : (Reset.ofSync config.syncReset).active.holds widths e = false)
  (hsettled : Settled config widths e) (hfits : (Model.ofConfig config).Fits state)
  (hquiet : (Model.ofConfig config).Quiet state)
  (hshows : Shows widths e (Model.ofConfig config) state)

include hsingle hsteps hreleased hfits hquiet hshows

/-- A register that a cycle passes over keeps what it holds, and its pulses end. -/
theorem cellShown_kept (hholds : (Model.ofConfig config).Holds state register cell)
    (hleader : leader? config widths e register = none)
    (hread : ∀ i, Stmt.effects widths e (readEffects config register)
      (storageName register.ident) i = none)
    (hhardware : ∀ i, Stmt.effects widths e (hardwareWrites register)
      (storageName register.ident) i = none) :
    CellShown widths e' register { cell with pulse := 0 } := by
  have hshown := hshows register cell hholds
  have hvalue := (hfits.cells register cell hholds).value
  refine cellShown_unwritten hsingle.wired hsteps hreleased hholds.mem hleader hshown
    (hquiet register cell hholds) ?_ rfl rfl
  apply storage_unwritten hsingle.wired hsteps hreleased hholds.mem hleader hvalue
  intro i _
  rw [hread, hhardware, hshown.storage]
  rfl

theorem shows_idle (hpresents : Presents config widths e .idle) :
    Shows widths e' (Model.ofConfig config) (Model.tick state) := by
  obtain ⟨hwrite, hread, hbrings⟩ := hpresents
  intro register after hholds
  obtain ⟨cell, hcell, rfl⟩ := Model.holds_tick_iff.mp hholds
  exact cellShown_kept hsingle hsteps hreleased hfits hquiet hshows hcell
    (hsingle.leader?_of_not_enabled hwrite)
    (fun _ => effects_readEffects_idle hsingle hread)
    (fun _ => effects_hardwareWrites_idle hsingle.wired hcell.mem hbrings)

theorem shows_hardware {writes : List (String × Word)}
    (hstems : (Model.ofConfig config).StemsDistinct)
    (hpresents : Presents config widths e (.hardware writes)) :
    Shows widths e' (Model.ofConfig config)
      (Model.tick ((Model.ofConfig config).hwWrites state writes)) := by
  obtain ⟨hwrite, hread, hbrings⟩ := hpresents
  have hregular := hsingle.wellFormed.regular
  intro register after hholds
  obtain ⟨driven, hdriven, rfl⟩ := Model.holds_tick_iff.mp hholds
  obtain ⟨cell, hcell, hcellDriven⟩ := Model.holds_hwWrites hregular hstems writes hdriven
  have hmem := hcell.mem
  have hshown := hshows register cell hcell
  have hleader : leader? config widths e register = none :=
    hsingle.leader?_of_not_enabled hwrite
  have hvalue := ((Model.fits_hwWrites hregular hfits writes).cells register driven hdriven).value
  refine cellShown_unwritten hsingle.wired hsteps hreleased hmem hleader hshown
    (hquiet register cell hcell) ?_ hcellDriven.written rfl
  apply storage_unwritten hsingle.wired hsteps hreleased hmem hleader hvalue
  intro i hi
  rw [effects_readEffects_idle hsingle hread, Option.none_or, hshown.storage,
    hardwareWrites_driven hsingle.toOneWritePort hmem hbrings hcellDriven hi]

include hsettled

theorem shows_read {address : UInt64} (hpresents : Presents config widths e (.read address)) :
    Shows widths e' (Model.ofConfig config) ((Model.ofConfig config).read state address).1 := by
  obtain ⟨hwrite, hread, haddr, hbrings⟩ := hpresents
  have hregular := hsingle.wellFormed.regular
  have hfitsAfter := hfits.read address
  intro register after hholds
  obtain ⟨cell, hcell, helsewhere, hhere⟩ := Model.holds_read hregular hfits hholds
  have hmem := hcell.mem
  have hshown := hshows register cell hcell
  have hleader : leader? config widths e register = none :=
    hsingle.leader?_of_not_enabled hwrite
  have hhardware (i : Nat) := effects_hardwareWrites_idle (i := i) hsingle.wired hmem hbrings
  have haddressed := holds_addressed_iff hsingle.wellFormed hsingle.signals hsettled hmem haddr
  by_cases haddress : register.address = address
  · have hafter := hhere haddress
    have hvalue := (hfitsAfter.cells register after hholds).value
    refine cellShown_unwritten hsingle.wired hsteps hreleased hmem hleader hshown
      (hquiet register cell hcell) ?_ (by rw [hafter]) (by rw [hafter])
    apply storage_unwritten hsingle.wired hsteps hreleased hmem hleader hvalue
    intro i hi
    rw [hhardware, Option.or_none, effects_readEffects,
      hsingle.holds_anyRead, hread, haddressed.mpr haddress,
      Bool.true_and, if_pos rfl, hshown.storage, hafter,
      effects_readStmts hsingle.wellFormed hsingle.signals hmem hi (List.Subset.refl _)]
  · rw [helsewhere haddress]
    refine cellShown_kept hsingle hsteps hreleased hfits hquiet hshows hcell hleader ?_ hhardware
    intro i
    have hnot : (addressed config.interface.signals.readAddr register).holds widths e = false := by
      rw [Bool.eq_false_iff, ne_eq, haddressed]
      exact haddress
    rw [effects_readEffects, hsingle.holds_anyRead, hnot, Bool.and_false,
      if_neg Bool.false_ne_true]

end Steps

end RegisterFile.Hardware
