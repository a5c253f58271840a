import RegisterFile.Proofs.Hardware.Refines

/-!
A cycle in which several ports write and read at once. A register follows the first port that
brings its address, and writes to it are judged by the locks and gates from before the cycle,
whatever the other ports do to them. Reads come last, and happen once however many ports read.
-/

namespace RegisterFile

open Verilog

/-- What the registers hold after the first write of a cycle to an address, and after the end of
    the cycle if there is none. -/
def Model.afterFirst (model : Model) (state : Model.State) (writes : List (Option PortWrite))
    (address : UInt64) : Model.State :=
  match firstWrite? writes address with
  | some write => (model.write state write.address write.data write.strobe).1
  | none => Model.tick state

theorem firstWrite?_address {writes : List (Option PortWrite)} {address : UInt64}
    {write : PortWrite} (hfirst : firstWrite? writes address = some write) :
    write.address = address := by
  obtain ⟨brought, -, hfilter⟩ := List.exists_of_findSome?_eq_some hfirst
  exact beq_iff_eq.mp (Option.filter_eq_some_iff.mp hfilter).2

namespace Hardware

/-- A cycle in which each port brings a write or a read or nothing, and hardware writes nothing. -/
structure PortsBring (config : Config) (widths : Widths) (e : Env)
    (writes : List (Option PortWrite)) (reads : List (Option UInt64)) : Prop where
  writes : List.Forall₂ (WritePort.Presents config widths e) (allWritePorts config) writes
  reads : List.Forall₂ (ReadPort.Presents widths e) (allReadPorts config) reads
  hardware : BringsHardware config widths e []

/-- What a register stores where it would hold a value but for a read. -/
structure ReadOver (register : RegisterLayout) (read : Prop) (value stored : Word) : Prop where
  /-- A read leaves zeros or ones in every segment with an effect of reads. -/
  overridden : read → ∀ segment ∈ register.segments, ∀ effect, segment.readEffect = some effect →
    ∀ i ∈ segment.bits, stored.getLsbD i = decide (effect = .set)
  kept : ∀ i < register.width.toNat,
    (read → ∀ segment ∈ register.segments, i ∈ segment.bits → segment.readEffect = none) →
      stored.getLsbD i = value.getLsbD i

/-- What a register shows after a step where the write that counts leaves `after` behind. -/
structure Arbitrated (widths : Widths) (e e' : Env) (register : RegisterLayout) (read : Prop)
    (after : Model.Cell) : Prop where
  storage : ReadOver register read after.value (e'.value widths (storageName register.ident))
  flags : ∀ segment written, (segment, written) ∈ register.segments.zip after.written →
    ∀ name, segment.writtenFlag = some name → e'.value widths name = flag written
  /-- The pulses are those of the write, if an output that the bus cannot drive is quiet before. -/
  pulses : ∀ segment ∈ register.segments, ∀ name, segment.pulsePort = some name →
    (segment.swWrite = false → e.value widths name = 0) →
      e'.value widths name =
        after.pulse.takeFrom segment.bits.low &&& Word.lowMask segment.bits.width
  /-- Such an output stays as it is, so it is quiet in every cycle from reset on. -/
  undriven : ∀ segment ∈ register.segments, ∀ name, segment.pulsePort = some name →
    segment.swWrite = false → e'.value widths name = e.value widths name

variable {config : Config} {widths : Widths} {e e' : Env} {state : Model.State}
  {register : RegisterLayout} {cell after : Model.Cell} {port : WritePort} {write : PortWrite}
  {writes : List (Option PortWrite)} {reads : List (Option UInt64)} {i : Nat}

section Step

variable (hwired : Wired config widths) (hsteps : StepsTo config widths e e')
  (hreleased : (Reset.ofSync config.syncReset).active.holds widths e = false)
  (hbrings : PortsBring config widths e writes reads)
  (hshows : Shows widths e (Model.ofConfig config) state)
  (hholds : (Model.ofConfig config).Holds state register cell)

include hwired hsteps hreleased hbrings hshows hholds

/-- Reads override what the bus writes leave behind. -/
theorem getLsbD_arbitrated {value : Word} (hi : i < register.width.toNat)
    (hbus : (Stmt.effects widths e (busWrites config register) (storageName register.ident) i).getD
      (cell.value.getLsbD i) = value.getLsbD i) :
    (e'.value widths (storageName register.ident)).getLsbD i =
      if (anyRead config register).holds widths e then
        (register.segments.foldl (Model.afterRead register) value).getLsbD i
      else value.getLsbD i := by
  have hmem := hholds.mem
  have hwidth := hwired.signals.storage register hmem
  have hword := (hwired.wellFormed.regular.registers register hmem).width_le
  rw [hsteps.getLsbD_value hmem storage_mem (by omega) (by omega),
    effect_updateBody_clock hwired.wellFormed hwired.flags hmem storage_mem hreleased,
    effects_hardwareWrites_idle hwired hmem hbrings.hardware, Option.or_none,
    (hshows register cell hholds).storage, Option.getD_or, hbus, effects_readEffects]
  split
  · exact effects_readStmts hwired.wellFormed hwired.signals hmem hi (List.Subset.refl _) _
  · rfl

variable {read : Prop} (hread : (anyRead config register).holds widths e = true ↔ read)

include hread

/-- What the storage shows, from what the bus writes leave behind. -/
theorem readOver_storage {value : Word} (hbus : ∀ i < register.width.toNat,
      (Stmt.effects widths e (busWrites config register) (storageName register.ident) i).getD
        (cell.value.getLsbD i) = value.getLsbD i) :
    ReadOver register read value (e'.value widths (storageName register.ident)) := by
  have hmem := hholds.mem
  have hregister := hwired.wellFormed.regular.registers register hmem
  have hword := hregister.width_le
  have hbits (i : Nat) (hi : i < register.width.toNat) :=
    getLsbD_arbitrated hwired hsteps hreleased hbrings hshows hholds hi (hbus i hi)
  constructor
  · intro hreads segment hsegment effect heffect i hin
    have hi := lt_width_of_mem_segment hwired.wellFormed hmem hsegment hin
    rw [hbits i hi, if_pos (hread.mpr hreads)]
    apply Model.getLsbD_foldl_afterRead_of_mem hi (by omega) hsegment _ hin heffect
    exact fun other hother hotherIn => hregister.segment_eq hother hsegment hotherIn hin
  · intro i hi hkept
    rw [hbits i hi]
    split
    · next hreads =>
      exact Model.getLsbD_foldl_afterRead_of_kept hi (by omega) (hkept (hread.mp hreads)) _
    · rfl

/-- A register that no port writes keeps its value and its flags, and its pulses end. -/
theorem arbitrated_of_unled (hleader : leader? config widths e register = none) :
    Arbitrated widths e e' register read { cell with pulse := 0 } := by
  have hmem := hholds.mem
  have hshown := hshows register cell hholds
  have hbus (i : Nat) : (Stmt.effects widths e (busWrites config register)
      (storageName register.ident) i).getD (cell.value.getLsbD i) = cell.value.getLsbD i := by
    rw [effects_busWrites_storage_unled hwired hmem hleader, Option.getD_none]
  refine ⟨?_, ?_, ?_, ?_⟩
  · exact readOver_storage hwired hsteps hreleased hbrings hshows hholds hread fun i _ => hbus i
  · intro segment written hentry name hflag
    rw [flag_unwritten hwired hsteps hreleased hmem hleader (List.of_mem_zip hentry).1 hflag]
    exact hshown.flags segment written hentry name hflag
  · intro segment hsegment name hpulse hquiet
    rw [takeFrom_eq_zero fun i _ => Word.getLsbD_zero i]
    exact pulse_unwritten hwired hsteps hreleased hmem hleader hsegment hpulse hquiet
  · intro segment hsegment name hpulse hreadOnly
    exact signal_undriven hwired hsteps hreleased hholds.mem hsegment
      (mem_segmentSignals.mpr (Or.inr hpulse)) hreadOnly

/-- A register that follows a port takes what the port brings. -/
theorem arbitrated_of_led (hfits : (Model.ofConfig config).Fits state)
    (hleader : leader? config widths e register = some port)
    (hwrite : port.Brings config widths e write)
    (hwritten : (Model.ofConfig config).CellWritten state register cell write.data write.strobe
      after) :
    Arbitrated widths e e' register read after := by
  have hlength := (hfits.cells register cell hholds).written
  refine ⟨?_, ?_, ?_, ?_⟩
  · apply readOver_storage hwired hsteps hreleased hbrings hshows hholds hread
    exact fun i _ => busWrites_written hwired hfits hshows hholds hleader hwrite hwritten
  · intro segment written hentry name hflag
    exact flag_written hwired hfits hshows hholds hleader hsteps hreleased hwritten hlength hentry
      hflag
  · intro segment hsegment name hpulse hquiet
    exact pulse_written hwired hfits hshows hholds hleader hwrite hsteps hreleased hwritten hsegment
      hpulse hquiet
  · intro segment hsegment name hpulse hreadOnly
    exact signal_undriven hwired hsteps hreleased hholds.mem hsegment
      (mem_segmentSignals.mpr (Or.inr hpulse)) hreadOnly

end Step

theorem arbitrated (hwired : Wired config widths)
    (hreads : ∀ port ∈ allReadPorts config, port.enable.width widths = 1)
    (hsettled : Settled config widths e) (hfits : (Model.ofConfig config).Fits state)
    (hshows : Shows widths e (Model.ofConfig config) state)
    (hreleased : (Reset.ofSync config.syncReset).active.holds widths e = false)
    (hsteps : StepsTo config widths e e')
    (hbrings : PortsBring config widths e writes reads)
    (hmem : register ∈ (Layout.ofConfig config).registers) :
    ∃ after, (Model.ofConfig config).Holds
        ((Model.ofConfig config).afterFirst state writes register.address) register after ∧
      Arbitrated widths e e' register (some register.address ∈ reads) after := by
  have hwf := hwired.wellFormed
  have hread : (anyRead config register).holds widths e = true ↔
      some register.address ∈ reads := by
    rw [holds_anyRead hreads]
    exact any_targets_iff hwf hwired.signals hsettled hmem hbrings.reads
  have hrel : Option.Rel (WritePort.Brings config widths e) (leader? config widths e register)
      (firstWrite? writes register.address) :=
    rel_find?_targets hwf hwired.signals hsettled hmem hbrings.writes
  unfold Model.afterFirst
  cases hfirst : firstWrite? writes register.address with
  | none =>
    obtain ⟨cell, hholds⟩ := hfits.exists_holds hmem
    have hleader : leader? config widths e register = none := by
      rw [hfirst] at hrel
      generalize leader? config widths e register = leader at hrel ⊢
      cases hrel
      rfl
    exact ⟨{ cell with pulse := 0 }, Model.holds_tick_iff.mpr ⟨cell, hholds, rfl⟩,
      arbitrated_of_unled hwired hsteps hreleased hbrings hshows hholds hread hleader⟩
  | some write =>
    obtain ⟨after, hafter⟩ :=
      (hfits.write write.address write.data write.strobe).exists_holds hmem
    obtain ⟨cell, hholds, -, hhere⟩ := Model.holds_write hwf.regular_model hfits hafter
    obtain ⟨port, hleader, hwrite⟩ : ∃ port, leader? config widths e register = some port ∧
        port.Brings config widths e write := by
      rw [hfirst] at hrel
      generalize leader? config widths e register = leader at hrel ⊢
      cases hrel with
      | some hwrite => exact ⟨_, rfl, hwrite⟩
    exact ⟨after, hafter, arbitrated_of_led hwired hsteps hreleased hbrings hshows hholds hread
      hfits hleader hwrite (hhere (firstWrite?_address hfirst).symm)⟩

end Hardware

/-- A cycle in which any of the ports of a valid register file write and read. Each register holds
    what the model makes of the first write to its address, from the state before the cycle, or of
    no write at all; then a read, through whichever port, overrides the segments that it affects. -/
theorem arbitrated_of_isValid (config : Config) (provenance : Provenance)
    (hvalid : (validate config).isValid = true)
    (hnodup : (Hardware.ofConfig config provenance).declared.Nodup) (state : Model.State)
    (e e' : Env) (writes : List (Option PortWrite)) (reads : List (Option UInt64))
    (hfits : (Model.ofConfig config).Fits state)
    (hshows : Hardware.Shows (Hardware.ofConfig config provenance).widths e
      (Model.ofConfig config) state)
    (hsettled : Hardware.Settled config (Hardware.ofConfig config provenance).widths e)
    (hreleased : (Reset.ofSync config.syncReset).active.holds
      (Hardware.ofConfig config provenance).widths e = false)
    (hsteps : Hardware.StepsTo config (Hardware.ofConfig config provenance).widths e e')
    (hbrings : Hardware.PortsBring config (Hardware.ofConfig config provenance).widths e writes
      reads) :
    ∀ register ∈ (Layout.ofConfig config).registers, ∃ after,
      (Model.ofConfig config).Holds
        ((Model.ofConfig config).afterFirst state writes register.address) register after ∧
      Hardware.Arbitrated (Hardware.ofConfig config provenance).widths e e' register
        (some register.address ∈ reads) after := by
  intro register hmem
  have hwf := Validate.wellFormed_of_isValid hvalid
  exact Hardware.arbitrated (Hardware.wired_of_nodup hwf hnodup) (Hardware.width_readEnable hnodup)
    hsettled hfits hshows hreleased hsteps hbrings hmem

/-- A control that a lock guards. -/
def Register.control : Register where
  name := "CTRL"
  address := some 4
  lockedBy := [⟨"LOCK", .bit 0⟩]

/-- A lock, the control, and a status that a read clears, behind three write ports and two read
    ports. -/
def Config.contended : Config where
  moduleName := "regs"
  syncReset := true
  writePorts := 3
  readPorts := 2
  registers :=
    [{ name := "LOCK", address := some 0, type := .lockField }, .control,
      { name := "STAT", address := some 8, type := .readClean, resetValue := 7 }]

namespace Hardware

/-- The widths of the signals of that file. -/
def contendedWidths : Widths :=
  (ofConfig Config.contended ⟨"regforge", "unspecified", ""⟩).widths

/-- The bus sets the lock while the other write ports both write the control, and the further read
    port reads the status. -/
def contendedWrites : List (Option PortWrite) :=
  [some ⟨0, 1, 0⟩, some ⟨4, 5, 0⟩, some ⟨4, 9, 0⟩]

def contendedReads : List (Option UInt64) :=
  [none, some 8]

/-- The signals of that cycle, after reset. -/
def contendedValues : Env := fun name =>
  ([("psel", 1), ("penable", 1), ("pwrite", 1), ("pwdata", 1), ("wp1_en", 1), ("wp1_addr", 4),
    ("wp1_wdata", 5), ("wp2_en", 1), ("wp2_addr", 4), ("wp2_wdata", 9), ("rp1_en", 1),
    ("rp1_addr", 8), ("stat_reg", 7), ("ADDR_CTRL", 4), ("ADDR_STAT", 8)].lookup name).getD 0

def contendedAfter : Env := fun name =>
  ([("lock_reg", 1), ("ctrl_reg", 5)].lookup name).getD 0

theorem isValid_contended : (validate Config.contended).isValid = true := by
  decide +kernel

theorem nodup_contended :
    (ofConfig Config.contended ⟨"regforge", "unspecified", ""⟩).declared.Nodup := by
  decide +kernel

theorem shows_contendedValues :
    Shows contendedWidths contendedValues (Model.ofConfig Config.contended)
      (Model.ofConfig Config.contended).reset := by
  have hwired : Wired Config.contended contendedWidths :=
    wired_of_nodup (Validate.wellFormed_of_isValid isValid_contended) nodup_contended
  have hsteps : StepsTo Config.contended contendedWidths (fun _ => 1) contendedValues := by
    decide +kernel
  exact shows_reset hwired hsteps (by decide +kernel)

theorem portsBring_contended :
    PortsBring Config.contended contendedWidths contendedValues contendedWrites
      contendedReads where
  writes := by decide +kernel
  reads := by decide +kernel
  hardware := by decide +kernel

end Hardware

/-- The control takes the write of the lower port, although the bus sets its lock in this cycle. -/
theorem arbitrated_of_isValid_contended :
    (validate Config.contended).isValid = true ∧
      (Hardware.ofConfig Config.contended ⟨"regforge", "unspecified", ""⟩).declared.Nodup ∧
      Hardware.PortsBring Config.contended Hardware.contendedWidths Hardware.contendedValues
        Hardware.contendedWrites Hardware.contendedReads ∧
      Hardware.Arbitrated Hardware.contendedWidths Hardware.contendedValues Hardware.contendedAfter
        (Layout.ofRegister Config.contended .control) (some 4 ∈ Hardware.contendedReads)
        ⟨5, [false], 0⟩ := by
  have hregular := (Validate.wellFormed_of_isValid Hardware.isValid_contended).regular
  obtain ⟨after, hholds, harbitrated⟩ := arbitrated_of_isValid Config.contended
    ⟨"regforge", "unspecified", ""⟩ Hardware.isValid_contended Hardware.nodup_contended
    (Model.ofConfig Config.contended).reset Hardware.contendedValues Hardware.contendedAfter
    Hardware.contendedWrites Hardware.contendedReads (Model.fits_reset hregular)
    Hardware.shows_contendedValues (by decide +kernel) (by decide +kernel) (by decide +kernel)
    Hardware.portsBring_contended (Layout.ofRegister Config.contended .control)
    (List.mem_cons_of_mem _ List.mem_cons_self)
  have hwritten : (Model.ofConfig Config.contended).Holds
      ((Model.ofConfig Config.contended).afterFirst (Model.ofConfig Config.contended).reset
        Hardware.contendedWrites 4) (Layout.ofRegister Config.contended .control)
      ⟨5, [false], 0⟩ := ⟨1, rfl, by decide +kernel⟩
  obtain ⟨-, rfl⟩ := Model.Holds.unique hregular hwritten hholds rfl
  exact ⟨Hardware.isValid_contended, Hardware.nodup_contended, Hardware.portsBring_contended,
    harbitrated⟩

end RegisterFile
