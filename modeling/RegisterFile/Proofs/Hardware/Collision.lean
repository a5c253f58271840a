import RegisterFile.Proofs.Hardware.Refines

/-!
A cycle in which hardware and the bus both write. The bus write is made from what the registers held
before the cycle and judged by the locks and gates of that time, and the writes of hardware show
only where it does not reach. Hardware writes before a bus write would give something else where
the type of a segment makes the new bits from the old ones.
-/

namespace RegisterFile

open Verilog

namespace Hardware

/-- Hardware and the bus both write in a cycle in which nothing is read. -/
structure Collides (config : Config) (widths : Widths) (e : Env) (writes : List (String × Word))
    (address : UInt64) (data strobe : Word) : Prop where
  bus : BringsWrite config widths e address data strobe
  hardware : BringsHardware config widths e writes
  unread : ∀ register ∈ (Layout.ofConfig config).registers,
    (anyRead config register).holds widths e = false

/-- What a register stores after such a cycle. It held `before`; the writes of hardware alone leave
    `driven` behind, and a bus write after them `ordered`. -/
structure Collided (model : Model) (state hardware : Model.State) (register : RegisterLayout)
    (before driven ordered : Model.Cell) (address : UInt64) (data strobe stored : Word) :
    Prop where
  /-- Where the bus write reaches, the new bit is made from the old one. -/
  reached : register.address = address → ∀ segment i,
    model.Reaches state register before strobe segment i →
      stored.getLsbD i =
        segment.type.behavior.writeEffect.bit (before.value.getLsbD i) (data.getLsbD i)
  /-- The other bits are those of hardware. -/
  missed : ∀ i < register.width.toNat,
    (register.address = address → ∀ segment,
      ¬ model.Reaches state register before strobe segment i) →
    stored.getLsbD i = driven.value.getLsbD i
  /-- While hardware leaves the gates of the register alone, this is a bus write after the writes
      of hardware exactly if no bit that it makes comes out differently for them. -/
  follows : (∀ segment ∈ register.segments, ∀ written,
      model.Admits hardware segment written ↔ model.Admits state segment written) →
    (stored = ordered.value ↔ (register.address = address → ∀ segment i,
      model.Reaches state register before strobe segment i →
        segment.type.behavior.writeEffect.bit (before.value.getLsbD i) (data.getLsbD i) =
          segment.type.behavior.writeEffect.bit (driven.value.getLsbD i) (data.getLsbD i)))

variable {config : Config} {widths : Widths} {e e' : Env} {state : Model.State}
  {register : RegisterLayout} {segment : Segment} {before driven ordered : Model.Cell}
  {writes : List (String × Word)} {address : UInt64} {data strobe : Word} {i : Nat}

section Cycle

variable (hone : OneWritePort config widths) (hsettled : Settled config widths e)
  (hfits : (Model.ofConfig config).Fits state)
  (hshows : Shows widths e (Model.ofConfig config) state)
  (hreleased : (Reset.ofSync config.syncReset).active.holds widths e = false)
  (hsteps : StepsTo config widths e e')
  (hcollides : Collides config widths e writes address data strobe)
  (hbefore : (Model.ofConfig config).Holds state register before)

include hone hshows hreleased hsteps hcollides hbefore

/-- The bus comes after hardware for each bit, and nothing comes after the bus. -/
theorem getLsbD_collided (hi : i < register.width.toNat) :
    (e'.value widths (storageName register.ident)).getLsbD i =
      ((Stmt.effects widths e (busWrites config register) (storageName register.ident) i).or
        (Stmt.effects widths e (hardwareWrites register) (storageName register.ident) i)).getD
          (before.value.getLsbD i) := by
  have hmem := hbefore.mem
  have hwidth := hone.signals.storage register hmem
  have hword := (hone.wellFormed.regular.registers register hmem).width_le
  have hreads : Stmt.effects widths e (readEffects config register)
      (storageName register.ident) i = none := by
    rw [effects_readEffects, hcollides.unread register hmem, if_neg Bool.false_ne_true]
  rw [hsteps.getLsbD_value hmem storage_mem (by omega) (by omega),
    effect_updateBody_clock hone.wellFormed hone.flags hmem storage_mem hreleased, hreads,
    Option.none_or, (hshows register before hbefore).storage]

include hsettled hfits

theorem collided_reached (haddress : register.address = address)
    (hreach : (Model.ofConfig config).Reaches state register before strobe segment i) :
    (e'.value widths (storageName register.ident)).getLsbD i =
      segment.type.behavior.writeEffect.bit (before.value.getLsbD i) (data.getLsbD i) := by
  have hmem := hbefore.mem
  have hbrings := hcollides.bus.brings
  have hleader := (hone.leader?_of_bus hsettled hcollides.bus hmem).trans (if_pos haddress)
  obtain ⟨hsegment, -, hin, -, -⟩ :=
    (reaches_iff hone.wired hfits hshows hbefore hleader hbrings segment i).mp hreach
  rw [getLsbD_collided hone hshows hreleased hsteps hcollides hbefore
      (lt_width_of_mem_segment hone.wellFormed hmem hsegment hin),
    busWrites_reached hone.wired hfits hshows hbefore hleader hbrings hreach]
  rfl

theorem collided_driven (hdriven : Model.CellDriven register writes before driven)
    (hi : i < register.width.toNat)
    (hnone : register.address = address → ∀ segment,
      ¬ (Model.ofConfig config).Reaches state register before strobe segment i) :
    (e'.value widths (storageName register.ident)).getLsbD i = driven.value.getLsbD i := by
  have hmem := hbefore.mem
  have hleader := hone.leader?_of_bus hsettled hcollides.bus hmem
  have hbus : Stmt.effects widths e (busWrites config register) (storageName register.ident) i =
      none := by
    by_cases haddress : register.address = address
    · rw [if_pos haddress] at hleader
      exact busWrites_kept hone.wired hfits hshows hbefore hleader hcollides.bus.brings
        (hnone haddress)
    · rw [if_neg haddress] at hleader
      exact effects_busWrites_storage_unled hone.wired hmem hleader
  rw [getLsbD_collided hone hshows hreleased hsteps hcollides hbefore hi, hbus, Option.none_or,
    hardwareWrites_driven hone hmem hcollides.hardware hdriven hi]

end Cycle

/-- A bus write reaches the same bits after writes of hardware that leave its gates alone. -/
theorem reaches_hardware_iff {model : Model} {hardware : Model.State}
    (hdriven : Model.CellDriven register writes before driven)
    (hgates : ∀ segment ∈ register.segments, ∀ written,
      model.Admits hardware segment written ↔ model.Admits state segment written) :
    model.Reaches hardware register driven strobe segment i ↔
      model.Reaches state register before strobe segment i := by
  simp only [Model.Reaches, hdriven.written]
  refine exists_congr fun written => and_congr_right fun hentry => ?_
  rw [hgates segment (List.of_mem_zip hentry).1 written]

/-- Words that differ in bits reached by a write at most are equal if those bits are. -/
theorem eq_iff_of_reached {stored ordered : Word} {width : Nat} {Reached : Segment → Nat → Prop}
    {first second : Segment → Nat → Bool} (hstored : stored.FitsIn width)
    (hordered : ordered.FitsIn width)
    (hfirst : ∀ segment i, Reached segment i → stored.getLsbD i = first segment i)
    (hsecond : ∀ segment i, Reached segment i → ordered.getLsbD i = second segment i)
    (hrest : ∀ i < width, (∀ segment, ¬ Reached segment i) →
      stored.getLsbD i = ordered.getLsbD i) :
    stored = ordered ↔ ∀ segment i, Reached segment i → first segment i = second segment i := by
  constructor
  · rintro rfl segment i hreach
    rw [← hfirst segment i hreach, hsecond segment i hreach]
  · intro hsame
    apply hstored.ext hordered
    intro i hi _
    by_cases hreached : ∃ segment, Reached segment i
    · obtain ⟨segment, hreach⟩ := hreached
      rw [hfirst segment i hreach, hsecond segment i hreach, hsame segment i hreach]
    · exact hrest i hi (not_exists.mp hreached)

theorem collided (hone : OneWritePort config widths) (hsettled : Settled config widths e)
    (hfits : (Model.ofConfig config).Fits state)
    (hshows : Shows widths e (Model.ofConfig config) state)
    (hreleased : (Reset.ofSync config.syncReset).active.holds widths e = false)
    (hsteps : StepsTo config widths e e')
    (hcollides : Collides config widths e writes address data strobe)
    (hbefore : (Model.ofConfig config).Holds state register before)
    (hdriven : (Model.ofConfig config).Holds ((Model.ofConfig config).hwWrites state writes)
      register driven)
    (hordered : (Model.ofConfig config).Holds ((Model.ofConfig config).write
      ((Model.ofConfig config).hwWrites state writes) address data strobe).1 register ordered) :
    Collided (Model.ofConfig config) state ((Model.ofConfig config).hwWrites state writes) register
      before driven ordered address data strobe
      (e'.value widths (storageName register.ident)) := by
  have hmodel := hone.wellFormed.regular_model
  have hhardware := Model.fits_hwWrites hmodel.layout hfits writes
  have hcell : Model.CellDriven register writes before driven := by
    obtain ⟨cell, hholds, hcell⟩ := Model.holds_hwWrites hmodel.layout
      (stemsDistinct hone.wellFormed) writes hdriven
    rwa [(Model.Holds.unique hmodel.layout hbefore hholds rfl).2]
  have hreached (haddress : register.address = address) (segment : Segment) (i : Nat)
      (hreach : (Model.ofConfig config).Reaches state register before strobe segment i) :=
    collided_reached hone hsettled hfits hshows hreleased hsteps hcollides hbefore haddress hreach
  have hmissed (i : Nat) (hi : i < register.width.toNat)
      (hnone : register.address = address → ∀ segment,
        ¬ (Model.ofConfig config).Reaches state register before strobe segment i) :=
    collided_driven hone hsettled hfits hshows hreleased hsteps hcollides hbefore hcell hi hnone
  refine ⟨hreached, hmissed, fun hgates => ?_⟩
  have hstored : (e'.value widths (storageName register.ident)).FitsIn register.width.toNat :=
    hone.signals.storage register hbefore.mem ▸ Env.fitsIn_value
  have hvalue : ordered.value.FitsIn register.width.toNat :=
    ((hhardware.write address data strobe).cells register ordered hordered).value
  obtain ⟨cell, hholds, helsewhere, hhere⟩ := Model.holds_write hmodel hhardware hordered
  obtain ⟨-, rfl⟩ := Model.Holds.unique hmodel.layout hdriven hholds rfl
  have hrest (i : Nat) (hi : i < register.width.toNat) (hnone : ∀ segment,
      ¬ (register.address = address ∧
        (Model.ofConfig config).Reaches state register before strobe segment i)) :
      (e'.value widths (storageName register.ident)).getLsbD i = ordered.value.getLsbD i := by
    rw [hmissed i hi fun haddress segment hreach => hnone segment ⟨haddress, hreach⟩]
    by_cases haddress : register.address = address
    · exact ((hhere haddress).kept i fun segment hreach => hnone segment
        ⟨haddress, (reaches_hardware_iff hcell hgates).mp hreach⟩).1.symm
    · rw [helsewhere haddress]
  rw [eq_iff_of_reached hstored hvalue
    (fun segment i hreach => hreached hreach.1 segment i hreach.2)
    (fun segment i hreach => ((hhere hreach.1).reached segment i
      ((reaches_hardware_iff hcell hgates).mpr hreach.2)).1) hrest]
  exact ⟨fun hsame haddress segment i hreach => hsame segment i ⟨haddress, hreach⟩,
    fun hsame segment i hreach => hsame hreach.1 segment i hreach.2⟩

end Hardware

/-- A cycle in which hardware and the bus both write, in a valid register file with one write port
    whose module declares every name once. The bus write is made from the values before the cycle;
    it follows the writes of hardware only if they do not matter to it. -/
theorem storage_of_collision (config : Config) (provenance : Provenance)
    (hvalid : (validate config).isValid = true) (hwrite : config.writePorts = 1)
    (hnodup : (Hardware.ofConfig config provenance).declared.Nodup) (state : Model.State)
    (e e' : Env) (writes : List (String × Word)) (address : UInt64) (data strobe : Word)
    (hfits : (Model.ofConfig config).Fits state)
    (hshows : Hardware.Shows (Hardware.ofConfig config provenance).widths e
      (Model.ofConfig config) state)
    (hsettled : Hardware.Settled config (Hardware.ofConfig config provenance).widths e)
    (hreleased : (Reset.ofSync config.syncReset).active.holds
      (Hardware.ofConfig config provenance).widths e = false)
    (hsteps : Hardware.StepsTo config (Hardware.ofConfig config provenance).widths e e')
    (hcollides : Hardware.Collides config (Hardware.ofConfig config provenance).widths e writes
      address data strobe)
    (register : RegisterLayout) (before driven ordered : Model.Cell)
    (hbefore : (Model.ofConfig config).Holds state register before)
    (hdriven : (Model.ofConfig config).Holds ((Model.ofConfig config).hwWrites state writes)
      register driven)
    (hordered : (Model.ofConfig config).Holds ((Model.ofConfig config).write
      ((Model.ofConfig config).hwWrites state writes) address data strobe).1 register ordered) :
    Hardware.Collided (Model.ofConfig config) state ((Model.ofConfig config).hwWrites state writes)
      register before driven ordered address data strobe
      (e'.value (Hardware.ofConfig config provenance).widths
        (Hardware.storageName register.ident)) := by
  have hwf := Validate.wellFormed_of_isValid hvalid
  have hflags := ((Hardware.declared_nodup_iff_of_wellFormed hwf provenance).mp hnodup).1
  exact Hardware.collided ⟨hwf, Hardware.signals_of_nodup hnodup, hflags, hwrite⟩ hsettled hfits
    hshows hreleased hsteps hcollides hbefore hdriven hordered

/-- A status whose bits hardware sets and software clears by writing ones. -/
def Register.status : Register where
  name := "STAT"
  address := some 0
  type := .write1Clean
  hwAccess := some .write

/-- A register file of that status. -/
def Config.status : Config where
  moduleName := "regs"
  syncReset := true
  registers := [.status]

namespace Hardware

/-- The widths of the signals of the status. -/
def statusWidths : Widths :=
  (ofConfig Config.status ⟨"regforge", "unspecified", ""⟩).widths

/-- Hardware sets the lowest bit of the status while software writes zeros, which clear nothing. -/
def eventValues : Env := fun name =>
  ([("psel", 1), ("penable", 1), ("pwrite", 1), ("stat_we", 1), ("stat_i", 1)].lookup name).getD 0

theorem isValid_status : (validate Config.status).isValid = true := by
  decide +kernel

theorem shows_eventValues :
    Shows statusWidths eventValues (Model.ofConfig Config.status)
      (Model.ofConfig Config.status).reset := by
  have hsingle := singlePorted_of_nodup ⟨"regforge", "unspecified", ""⟩
    (Validate.wellFormed_of_isValid isValid_status) rfl rfl (by decide +kernel)
  have hsteps : StepsTo Config.status statusWidths (fun _ => 1) eventValues := by decide +kernel
  exact shows_reset hsingle.wired hsteps (by decide +kernel)

theorem collides_eventValues :
    Collides Config.status statusWidths eventValues [("stat", 1)] 0 0 0 where
  bus := ⟨by decide +kernel, by decide +kernel, by decide +kernel, by decide +kernel⟩
  hardware := by decide +kernel
  unread := by decide +kernel

end Hardware

/-- The bus write reaches the bit that hardware sets and makes it from the zero before. -/
theorem storage_of_collision_status :
    (validate Config.status).isValid = true ∧
      (Hardware.ofConfig Config.status ⟨"regforge", "unspecified", ""⟩).declared.Nodup ∧
      Hardware.Collides Config.status Hardware.statusWidths Hardware.eventValues [("stat", 1)]
        0 0 0 ∧
      Hardware.Collided (Model.ofConfig Config.status) (Model.ofConfig Config.status).reset
        ((Model.ofConfig Config.status).hwWrites (Model.ofConfig Config.status).reset
          [("stat", 1)])
        (Layout.ofRegister Config.status .status) ⟨0, [false], 0⟩ ⟨1, [false], 0⟩ ⟨1, [false], 0⟩
        0 0 0 0 := by
  have hnodup : (Hardware.ofConfig Config.status ⟨"regforge", "unspecified", ""⟩).declared.Nodup :=
    by decide +kernel
  have hregular := (Validate.wellFormed_of_isValid Hardware.isValid_status).regular
  have hcollided := storage_of_collision Config.status ⟨"regforge", "unspecified", ""⟩
    Hardware.isValid_status rfl hnodup (Model.ofConfig Config.status).reset Hardware.eventValues
    (fun _ => 0) [("stat", 1)] 0 0 0 (Model.fits_reset hregular) Hardware.shows_eventValues
    (by decide +kernel) (by decide +kernel) (by decide +kernel) Hardware.collides_eventValues
    (Layout.ofRegister Config.status .status) ⟨0, [false], 0⟩ ⟨1, [false], 0⟩ ⟨1, [false], 0⟩
    ⟨0, rfl, by decide +kernel⟩ ⟨0, rfl, by decide +kernel⟩ ⟨0, rfl, by decide +kernel⟩
  have hzero (widths : Widths) (name : String) : Env.value widths (fun _ => 0) name = 0 :=
    Word.zero_and _
  rw [hzero] at hcollided
  exact ⟨Hardware.isValid_status, hnodup, Hardware.collides_eventValues, hcollided⟩

/-- The event is lost: after the cycle the status is zero, where hardware writing before the bus
    would have left the bit set. -/
theorem event_lost :
    (validate Config.status).isValid = true ∧ Config.status.writePorts = 1 ∧
      Hardware.Shows Hardware.statusWidths Hardware.eventValues (Model.ofConfig Config.status)
        (Model.ofConfig Config.status).reset ∧
      Hardware.Settled Config.status Hardware.statusWidths Hardware.eventValues ∧
      Hardware.Collides Config.status Hardware.statusWidths Hardware.eventValues [("stat", 1)]
        0 0 0 ∧
      Hardware.StepsTo Config.status Hardware.statusWidths Hardware.eventValues (fun _ => 0) ∧
      ¬ Hardware.Shows Hardware.statusWidths (fun _ => 0) (Model.ofConfig Config.status)
        ((Model.ofConfig Config.status).write ((Model.ofConfig Config.status).hwWrites
          (Model.ofConfig Config.status).reset [("stat", 1)]) 0 0 0).1 := by
  refine ⟨Hardware.isValid_status, rfl, Hardware.shows_eventValues, by decide +kernel,
    Hardware.collides_eventValues, by decide +kernel, fun hshows => ?_⟩
  have hshown := hshows (Layout.ofRegister Config.status .status) ⟨1, [false], 0⟩
    ⟨0, rfl, by decide +kernel⟩
  have hzero := hshown.storage
  exact absurd hzero (by decide +kernel)

end RegisterFile
