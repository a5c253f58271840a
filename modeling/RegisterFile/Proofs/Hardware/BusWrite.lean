import RegisterFile.Proofs.Hardware.Simulation

/-!
A bus write of the module against that of the model. The condition of a segment and the strobe of a
lane hold together exactly where the model's write reaches a bit, and there the statements for the
segment and the model apply the same bit function.
-/

namespace RegisterFile.Hardware

open Verilog

variable {config : Config} {widths : Widths} {e e' : Env} {state : Model.State}
  {register : RegisterLayout} {segment : Segment} {cell after : Model.Cell} {name : String}
  {port : WritePort} {write : PortWrite} {address : UInt64} {data strobe : Word} {i j : Nat}

/-! ### Where a write reaches -/

theorem writeEffect_ne_ignore (hmem : register ∈ (Layout.ofConfig config).registers)
    (hsegment : segment ∈ register.segments) (hwritable : segment.swWrite = true) :
    segment.writeEffect ≠ .ignore := by
  obtain ⟨source, -, rfl⟩ := List.mem_map.mp hmem
  exact Layout.writeEffect_ne_ignore hsegment hwritable

/-- The lanes that the strobes of a port open are those that the model enables. -/
theorem WritePort.Brings.opensLane_iff (hbrings : port.Brings config widths e write)
    (hport : port.Regular config widths) (hlane : i / 8 < config.byteLanes) (hword : i < 128) :
    opensLane widths e port.strobe (i / 8) = true ↔
      (Model.ofConfig config).Enables write.strobe i := by
  have hsome := hport.strobe
  change _ ↔ (config.byteEnable = true → write.strobe.getLsbD (i / 8) = true)
  cases hname : port.strobe with
  | none =>
    rw [hname] at hsome
    rw [← hsome]
    exact ⟨fun _ hfalse => absurd hfalse Bool.false_ne_true, fun _ => rfl⟩
  | some name =>
    rw [hname] at hsome
    rw [← hsome, opensLane, Option.all_some, hbrings.strobe name hname, BitVec.getLsbD_and,
      Word.getLsbD_lowMask, decide_eq_true (by omega), decide_eq_true hlane, Bool.and_true,
      Bool.and_true]
    exact ⟨fun hbit _ => hbit, fun hbit => hbit rfl⟩

/-- A port brings the bits of a segment as they are. -/
theorem WritePort.Brings.getLsbD_data (hbrings : port.Brings config widths e write)
    (hwf : config.WellFormed) (hmem : register ∈ (Layout.ofConfig config).registers)
    (hsegment : segment ∈ register.segments) (hin : i ∈ segment.bits) :
    (e.value widths port.data).getLsbD i = write.data.getLsbD i := by
  rw [hbrings.data, BitVec.getLsbD_and, Word.getLsbD_lowMask,
    decide_eq_true (lt_dataWidth_of_mem_segment hwf hmem hsegment hin),
    decide_eq_true (lt_word_of_mem_segment hwf hmem hsegment hin), Bool.and_true, Bool.and_true]

/-! ### A register that follows a port -/

section Led

variable (hwired : Wired config widths) (hfits : (Model.ofConfig config).Fits state)
  (hshows : Shows widths e (Model.ofConfig config) state)
  (hholds : (Model.ofConfig config).Holds state register cell)
  (hleader : leader? config widths e register = some port)

include hwired hfits hshows hholds hleader

theorem flag_written (hsteps : StepsTo config widths e e')
    (hreleased : (Reset.ofSync config.syncReset).active.holds widths e = false)
    (hwritten : (Model.ofConfig config).CellWritten state register cell data strobe after)
    {written : Bool} (hlength : cell.written.length = register.segments.length)
    (hentry : (segment, written) ∈ register.segments.zip after.written)
    (hflag : segment.writtenFlag = some name) : e'.value widths name = flag written := by
  have hmem := hholds.mem
  have hsegment := (List.of_mem_zip hentry).1
  have hregister := hwired.wellFormed.regular.registers register hmem
  have hname : name ∈ segmentSignals segment := mem_segmentSignals.mpr (Or.inl hflag)
  have hwidth := hwired.signals.flag register hmem segment hsegment name hflag
  obtain ⟨was, hbefore, hmarks⟩ := hwritten.exists_before hlength hentry
  have honce : segment.type.behavior.writeOnce = true := by
    rw [← hregister.flags segment hsegment, hflag]
    rfl
  have hopens (hwritable : segment.swWrite = true) :=
    opensGates_iff hwired hfits hshows hholds hbefore hwritable
  have hkept (hnot : ¬ (Model.ofConfig config).Admits state segment was) : was = written := by
    rw [Bool.eq_iff_iff, hmarks]
    exact ⟨Or.inl, fun h => h.resolve_right fun hopen => hnot hopen.2⟩
  have hshown := (hshows register cell hholds).flags segment _ hbefore name hflag
  apply hsteps.value_eq hmem (signal_mem hsegment hname) (hwidth ▸ fitsIn_flag written)
  intro i hi _
  obtain rfl : i = 0 := by omega
  rw [effect_updateBody_signal hwired hreleased hmem hsegment hname,
    effect_busWrite_of_some hwired hmem hsegment hleader,
    effect_unwritten_flag hmem hsegment hflag, hshown, getLsbD_flag, getLsbD_flag]
  cases hwritable : segment.swWrite with
  | false =>
    apply hkept
    intro hadmits
    rw [hadmits.writable] at hwritable
    cases hwritable
  | true =>
    rw [if_pos rfl]
    split
    · next hgates =>
      rw [effect_writeBody_flag hwired.signals hmem hsegment hflag]
      exact (hmarks.mpr (Or.inr ⟨honce, (hopens hwritable).mp hgates⟩)).symm
    · next hgates =>
      apply hkept
      intro hadmits
      exact hgates ((hopens hwritable).mpr hadmits)

variable (hbrings : port.Brings config widths e write)

include hbrings

theorem reaches_iff (segment : Segment) (i : Nat) :
    (Model.ofConfig config).Reaches state register cell write.strobe segment i ↔
      segment ∈ register.segments ∧ segment.swWrite = true ∧ i ∈ segment.bits ∧
        opensGates widths e segment = true ∧ opensLane widths e port.strobe (i / 8) = true := by
  have hmem := hholds.mem
  have hlane (hsegment : segment ∈ register.segments) (hin : i ∈ segment.bits) :=
    hbrings.opensLane_iff (hwired.writePorts port (mem_of_leader? hleader))
      (lane_lt_of_mem_segment hwired.wellFormed hmem hsegment hin)
      (lt_word_of_mem_segment hwired.wellFormed hmem hsegment hin)
  constructor
  · rintro ⟨written, hentry, hadmits, hin, henables⟩
    have hsegment := (List.of_mem_zip hentry).1
    have hopens := opensGates_iff hwired hfits hshows hholds hentry hadmits.writable
    exact ⟨hsegment, hadmits.writable, hin, hopens.mpr hadmits, (hlane hsegment hin).mpr henables⟩
  · rintro ⟨hsegment, hwritable, hin, hgates, hopens⟩
    obtain ⟨written, hentry⟩ := (hfits.cells register cell hholds).exists_entry hsegment
    have hadmits := (opensGates_iff hwired hfits hshows hholds hentry hwritable).mp hgates
    exact ⟨written, hentry, hadmits, hin, (hlane hsegment hin).mp hopens⟩

/-- A bit that the write reaches is stored by the statement for its segment. -/
theorem busWrites_reached
    (hreach : (Model.ofConfig config).Reaches state register cell write.strobe segment i) :
    Stmt.effects widths e (busWrites config register) (storageName register.ident) i =
      some (segment.type.behavior.writeEffect.bit (cell.value.getLsbD i)
        (write.data.getLsbD i)) := by
  have hmem := hholds.mem
  have hport := hwired.writePorts port (mem_of_leader? hleader)
  obtain ⟨hsegment, hwritable, hin, hgates, hopens⟩ :=
    (reaches_iff hwired hfits hshows hholds hleader hbrings segment i).mp hreach
  have hstores := writeEffect_ne_ignore hmem hsegment hwritable
  rw [effects_busWrites_storage_hit hwired hmem hsegment hwritable hin,
    effect_busWrite_of_some hwired hmem hsegment hleader, hgates, if_pos rfl,
    effect_writeBody_storage_hit hwired.wellFormed hwired.signals hmem hsegment hport hin hstores,
    hopens, if_pos rfl, (hshows register cell hholds).storage,
    hbrings.getLsbD_data hwired.wellFormed hmem hsegment hin]
  rfl

/-- The other bits are left alone, in a segment of the bus and outside one. -/
theorem busWrites_kept
    (hnone : ∀ segment,
      ¬ (Model.ofConfig config).Reaches state register cell write.strobe segment i) :
    Stmt.effects widths e (busWrites config register) (storageName register.ident) i = none := by
  have hmem := hholds.mem
  have hport := hwired.writePorts port (mem_of_leader? hleader)
  by_cases hsegments : ∃ segment ∈ register.segments, segment.swWrite = true ∧ i ∈ segment.bits
  · obtain ⟨segment, hsegment, hwritable, hin⟩ := hsegments
    have hstores := writeEffect_ne_ignore hmem hsegment hwritable
    rw [effects_busWrites_storage_hit hwired hmem hsegment hwritable hin,
      effect_busWrite_of_some hwired hmem hsegment hleader, effect_unwritten_storage hmem hsegment,
      effect_writeBody_storage_hit hwired.wellFormed hwired.signals hmem hsegment hport hin
        hstores]
    split
    · next hgates =>
      -- The statement for the segment runs, but it leaves out the lane of the bit.
      have hclosed : opensLane widths e port.strobe (i / 8) = false := by
        rw [Bool.eq_false_iff]
        intro hopens
        exact hnone segment ((reaches_iff hwired hfits hshows hholds hleader hbrings segment i).mpr
          ⟨hsegment, hwritable, hin, hgates, hopens⟩)
      rw [hclosed, if_neg Bool.false_ne_true]
    · rfl
  · apply effects_busWrites_storage_miss hwired hmem
    intro segment hsegment hwritable hin
    exact hsegments ⟨segment, hsegment, hwritable, hin⟩

/-- What the bus writes do to a stored bit is what the model makes of the write. -/
theorem busWrites_written
    (hwritten : (Model.ofConfig config).CellWritten state register cell write.data write.strobe
      after) :
    (Stmt.effects widths e (busWrites config register) (storageName register.ident) i).getD
        (cell.value.getLsbD i) =
      after.value.getLsbD i := by
  by_cases hreached : ∃ segment,
      (Model.ofConfig config).Reaches state register cell write.strobe segment i
  · obtain ⟨segment, hreach⟩ := hreached
    rw [busWrites_reached hwired hfits hshows hholds hleader hbrings hreach, Option.getD_some,
      (hwritten.reached segment i hreach).1]
  · have hnone := not_exists.mp hreached
    rw [busWrites_kept hwired hfits hshows hholds hleader hbrings hnone, Option.getD_none,
      (hwritten.kept i hnone).1]

theorem pulse_written (hsteps : StepsTo config widths e e')
    (hreleased : (Reset.ofSync config.syncReset).active.holds widths e = false)
    (hwritten : (Model.ofConfig config).CellWritten state register cell write.data write.strobe
      after)
    (hsegment : segment ∈ register.segments)
    (hpulse : segment.pulsePort = some name)
    (hquiet : segment.swWrite = false → e.value widths name = 0) :
    e'.value widths name =
      after.pulse.takeFrom segment.bits.low &&& Word.lowMask segment.bits.width := by
  have hmem := hholds.mem
  have hname : name ∈ segmentSignals segment := mem_segmentSignals.mpr (Or.inr hpulse)
  have hwidth := hwired.signals.pulse register hmem segment hsegment name hpulse
  have hspan := segment.bits.low_add_width
  have hport := hwired.writePorts port (mem_of_leader? hleader)
  have hreaches := reaches_iff hwired hfits hshows hholds hleader hbrings
  have hregister := hwired.wellFormed.regular.registers register hmem
  apply hsteps.value_eq hmem (signal_mem hsegment hname) (hwidth ▸ Word.fitsIn_and_lowMask _ _)
  intro j hj hword
  have hin : segment.bits.low + j ∈ segment.bits := BitRange.mem_iff.mpr (by omega)
  have hdata := hbrings.getLsbD_data hwired.wellFormed hmem hsegment hin
  have hbits (pulses : Word) : (pulses.takeFrom segment.bits.low &&&
      Word.lowMask segment.bits.width).getLsbD j = pulses.getLsbD (segment.bits.low + j) := by
    rw [BitVec.getLsbD_and, Word.getLsbD_takeFrom, Word.getLsbD_lowMask, decide_eq_true hword,
      decide_eq_true (hwidth ▸ hj), Bool.and_true, Bool.and_true]
  -- Pulses last for one cycle, so a bit that the write does not reach is zero and not what it was.
  have hkept (hnot : ¬ (Model.ofConfig config).Reaches state register cell write.strobe
      segment (segment.bits.low + j)) : after.pulse.getLsbD (segment.bits.low + j) = false := by
    apply (hwritten.kept _ ?_).2
    intro other hreach
    obtain ⟨hother, -, hotherIn, -⟩ := (hreaches other _).mp hreach
    rw [hregister.segment_eq hother hsegment hotherIn hin] at hreach
    exact hnot hreach
  rw [effect_updateBody_signal hwired hreleased hmem hsegment hname,
    effect_busWrite_of_some hwired hmem hsegment hleader, effect_unwritten_pulse hpulse hj, hbits]
  cases hwritable : segment.swWrite with
  | false =>
    rw [if_neg Bool.false_ne_true, Option.getD_none, hquiet hwritable, Word.getLsbD_zero, hkept]
    intro hreach
    rw [((hreaches segment _).mp hreach).2.1] at hwritable
    cases hwritable
  | true =>
    rw [if_pos rfl]
    split
    · next hgates =>
      rw [effect_writeBody_pulse hwired.wellFormed hwired.signals hmem hsegment hport hpulse
        (hwidth ▸ hj), Option.getD_some, hdata]
      cases hopens : opensLane widths e port.strobe ((segment.bits.low + j) / 8) with
      | true =>
        have hreach := (hreaches segment _).mpr ⟨hsegment, hwritable, hin, hgates, hopens⟩
        rw [(hwritten.reached segment _ hreach).2, Bool.true_and]
        rfl
      | false =>
        rw [Bool.false_and, hkept]
        intro hreach
        rw [((hreaches segment _).mp hreach).2.2.2.2] at hopens
        cases hopens
    · next hgates =>
      rw [Option.getD_some, hkept]
      intro hreach
      exact hgates ((hreaches segment _).mp hreach).2.2.2.1

end Led

/-! ### A single port -/

theorem BringsWrite.brings (hbus : BringsWrite config widths e address data strobe) :
    (busWritePort config).Brings config widths e ⟨address, data, strobe⟩ :=
  ⟨hbus.enable, hbus.addr, hbus.data, hbus.strobe⟩

/-- With one write port, the bus alone decides which register is written. -/
theorem OneWritePort.leader?_of_bus (hone : OneWritePort config widths)
    (hsettled : Settled config widths e)
    (hbus : BringsWrite config widths e address data strobe)
    (hmem : register ∈ (Layout.ofConfig config).registers) :
    leader? config widths e register =
      if register.address = address then some (busWritePort config) else none := by
  rw [hone.leader?_eq, hbus.brings.targets_eq hone.wellFormed hone.signals hsettled hmem]
  simp only [beq_iff_eq]

theorem storage_written (hsingle : SinglePorted config widths) (hsettled : Settled config widths e)
    (hfits : (Model.ofConfig config).Fits state)
    (hshows : Shows widths e (Model.ofConfig config) state)
    (hpresents : Presents config widths e (.write address data strobe))
    (hholds : (Model.ofConfig config).Holds state register cell)
    (haddress : register.address = address) (hsteps : StepsTo config widths e e')
    (hreleased : (Reset.ofSync config.syncReset).active.holds widths e = false)
    (hwritten : (Model.ofConfig config).CellWritten state register cell data strobe after)
    (hvalue : after.value.FitsIn register.width.toNat) :
    e'.value widths (storageName register.ident) = after.value := by
  have hmem := hholds.mem
  have hwidth := hsingle.signals.storage register hmem
  have hbus := bringsWrite_of_presents hpresents
  have hleader := (hsingle.leader?_of_bus hsettled hbus hmem).trans (if_pos haddress)
  have hread := hpresents.2.1
  have hbrings := hpresents.2.2.2.2.2
  apply hsteps.value_eq hmem storage_mem (hwidth ▸ hvalue)
  intro i hi _
  rw [effect_updateBody_clock hsingle.wellFormed hsingle.flags hmem storage_mem hreleased,
    effects_readEffects_idle hsingle hread, effects_hardwareWrites_idle hsingle.wired hmem hbrings,
    Option.none_or, Option.or_none, (hshows register cell hholds).storage]
  exact busWrites_written hsingle.wired hfits hshows hholds hleader hbus.brings hwritten

theorem shows_write (hsingle : SinglePorted config widths) (hsteps : StepsTo config widths e e')
    (hreleased : (Reset.ofSync config.syncReset).active.holds widths e = false)
    (hfits : (Model.ofConfig config).Fits state) (hquiet : (Model.ofConfig config).Quiet state)
    (hshows : Shows widths e (Model.ofConfig config) state) (hsettled : Settled config widths e)
    (hpresents : Presents config widths e (.write address data strobe)) :
    Shows widths e' (Model.ofConfig config)
      ((Model.ofConfig config).write state address data strobe).1 := by
  have hmodel := hsingle.wellFormed.regular_model
  have hfitsAfter := hfits.write address data strobe
  intro register after hholds
  obtain ⟨cell, hcell, helsewhere, hhere⟩ := Model.holds_write hmodel hfits hholds
  have hmem := hcell.mem
  have hlength := (hfits.cells register cell hcell).written
  have hbus := bringsWrite_of_presents hpresents
  have hleader := hsingle.leader?_of_bus hsettled hbus hmem
  by_cases haddress : register.address = address
  · have hwritten := hhere haddress
    have hvalue := (hfitsAfter.cells register after hholds).value
    have hshown := hshows register cell hcell
    rw [if_pos haddress] at hleader
    refine ⟨?_, ?_, ?_⟩
    · exact storage_written hsingle hsettled hfits hshows hpresents hcell haddress hsteps hreleased
        hwritten hvalue
    · intro segment written hentry flag hflag
      exact flag_written hsingle.wired hfits hshows hcell hleader hsteps hreleased hwritten hlength
        hentry hflag
    · intro segment hsegment pulse hpulse
      apply pulse_written hsingle.wired hfits hshows hcell hleader hbus.brings hsteps hreleased
        hwritten hsegment hpulse
      intro hreadOnly
      rw [hshown.pulses segment hsegment pulse hpulse,
        takeFrom_eq_zero (hquiet register cell hcell segment hsegment hreadOnly)]
  · rw [helsewhere haddress]
    rw [if_neg haddress] at hleader
    obtain ⟨-, hread, -, -, -, hbrings⟩ := hpresents
    exact cellShown_kept hsingle hsteps hreleased hfits hquiet hshows hcell hleader
      (fun _ => effects_readEffects_idle hsingle hread)
      (fun _ => effects_hardwareWrites_idle hsingle.wired hmem hbrings)

end RegisterFile.Hardware
