import Mathlib.Data.List.Pairwise
import RegisterFile.Proofs.Validate.Accepts
import RegisterFile.Proofs.Word

/-!
What validation gives to the resolved view. Segments lie inside their register and share no bit,
registers are told apart by identifier and by address, and locks and gates refer to registers that
exist.
-/

namespace RegisterFile

/-- A register file of one register that takes a single write, byte by byte. -/
def Config.single : Config where
  moduleName := "regs"
  byteEnable := true
  registers := [{ name := "ID", address := some 0, type := .writeOnce }]

/-- Ranges that share no bit. -/
def BitRange.Apart (a b : BitRange) : Prop :=
  ∀ i, ¬ (i ∈ a ∧ i ∈ b)

/-- A range with all its bits below a width. -/
def BitRange.Inside (range : BitRange) (width : Nat) : Prop :=
  ∀ i ∈ range, i < width

namespace BitRange

theorem mem_full_iff {width : UInt32} (hwidth : 1 ≤ width.toNat) {i : Nat} :
    i ∈ full width ↔ i < width.toNat := by
  simp only [mem_iff, full]
  omega

theorem mem_bit_iff {index : UInt32} {i : Nat} : i ∈ bit index ↔ i = index.toNat := by
  simp only [mem_iff, bit]
  omega

/-- Bits past the top of a word belong to no mask. -/
theorem getLsbD_mask_iff {range : BitRange} {i : Nat} (hi : i < 128) :
    range.mask.getLsbD i = true ↔ i ∈ range := by
  rw [getLsbD_mask, mem_iff]
  simp [hi]

theorem low_mem (range : BitRange) : range.low ∈ range :=
  ⟨Nat.le_refl _, range.low_le_high⟩

theorem Inside.high_lt {range : BitRange} {width : Nat} (hinside : range.Inside width) :
    range.high < width :=
  hinside range.high ⟨range.low_le_high, Nat.le_refl _⟩

end BitRange

/-- A register whose segments and hardware fields lie inside it and share no bit. -/
structure RegisterLayout.Regular (register : RegisterLayout) : Prop where
  width_pos : 1 ≤ register.width.toNat
  width_le : register.width.toNat ≤ 128
  reset : register.reset.FitsIn register.width.toNat
  segmentsInside : ∀ segment ∈ register.segments, segment.bits.Inside register.width.toNat
  segmentsApart : register.segments.Pairwise fun a b => a.bits.Apart b.bits
  hwInside : ∀ hw ∈ register.hwFields, hw.bits.Inside register.width.toNat
  hwApart : register.hwFields.Pairwise fun a b => a.bits.Apart b.bits
  /-- Flags go with the types that take one write. -/
  flags : ∀ segment ∈ register.segments,
    segment.writtenFlag.isSome = segment.type.behavior.writeOnce
  /-- Pulse ports go with the types that pulse. -/
  pulses : ∀ segment ∈ register.segments,
    segment.pulsePort.isSome = segment.writeEffect.isPulse

namespace RegisterLayout

variable {register : RegisterLayout} {i : Nat}

/-- A bit of a register belongs to one segment at most. -/
theorem Regular.segment_eq (hregister : register.Regular) {segment other : Segment}
    (hsegment : segment ∈ register.segments) (hother : other ∈ register.segments)
    (hin : i ∈ segment.bits) (hotherIn : i ∈ other.bits) : segment = other := by
  by_contra hne
  have hsymm : Std.Symm fun a b : Segment => a.bits.Apart b.bits :=
    ⟨fun a b hapart i hboth => hapart i hboth.symm⟩
  exact hregister.segmentsApart.forall hsegment hother hne i ⟨hin, hotherIn⟩

theorem Regular.segments_nodup (hregister : register.Regular) : register.segments.Nodup := by
  refine hregister.segmentsApart.imp fun {a b} hapart hsame => ?_
  subst hsame
  exact hapart a.bits.low ⟨a.bits.low_mem, a.bits.low_mem⟩

theorem Regular.hw_eq (hregister : register.Regular) {hw other : HwField}
    (hhw : hw ∈ register.hwFields) (hother : other ∈ register.hwFields)
    (hin : i ∈ hw.bits) (hotherIn : i ∈ other.bits) : hw = other := by
  by_contra hne
  have hsymm : Std.Symm fun a b : HwField => a.bits.Apart b.bits :=
    ⟨fun a b hapart i hboth => hapart i hboth.symm⟩
  exact hregister.hwApart.forall hhw hother hne i ⟨hin, hotherIn⟩

end RegisterLayout

/-- A tap on bits of a register that exists. -/
def LockTap.Resolves (tap : LockTap) (layout : Layout) : Prop :=
  ∃ locker ∈ layout.registers, locker.ident = tap.register ∧
    tap.bits.Inside locker.width.toNat

/-- A gate on a register that exists, with a value that the register can hold. -/
def MagicGate.Resolves (gate : MagicGate) (layout : Layout) : Prop :=
  ∃ source ∈ layout.registers, source.ident = gate.register ∧ source.width = gate.width ∧
    gate.value.FitsIn gate.width.toNat

/-- A register file of regular registers with resolved references. -/
structure Layout.Regular (layout : Layout) : Prop where
  registers : ∀ register ∈ layout.registers, register.Regular
  identsDistinct : (layout.registers.map RegisterLayout.ident).Nodup
  addressesDistinct : (layout.registers.map RegisterLayout.address).Nodup
  taps : ∀ register ∈ layout.registers, ∀ segment ∈ register.segments,
    ∀ tap ∈ segment.locks, tap.Resolves layout
  gates : ∀ register ∈ layout.registers, ∀ segment ∈ register.segments,
    ∀ gate ∈ segment.gates, gate.Resolves layout

/-- Every segment comes out of `Segment.build`, with a stem made of identifiers. -/
theorem Layout.exists_build {config : Config} {register : Register} {segment : Segment}
    (hsegment : segment ∈ (Layout.ofRegister config register).segments) :
    ∃ field bits type access locks gates stem,
      segment = Segment.build field bits type access locks gates stem ∧
        (stem = ident register.name ∨
          ∃ name, stem = ident register.name ++ "_" ++ ident name) := by
  simp only [Layout.ofRegister] at hsegment
  split at hsegment
  · obtain ⟨field, _, rfl⟩ := List.mem_map.mp hsegment
    exact ⟨_, _, _, _, _, _, _, rfl, Or.inr ⟨field.name, rfl⟩⟩
  · rw [List.mem_singleton.mp hsegment]
    exact ⟨_, _, _, _, _, _, _, rfl, Or.inl rfl⟩

theorem Layout.isSome_writtenFlag {config : Config} {register : Register} {segment : Segment}
    (hsegment : segment ∈ (Layout.ofRegister config register).segments) :
    segment.writtenFlag.isSome = segment.type.behavior.writeOnce := by
  obtain ⟨field, bits, type, access, locks, gates, stem, rfl, -⟩ := Layout.exists_build hsegment
  cases honce : type.behavior.writeOnce <;> simp [Segment.build, honce]

theorem Layout.isSome_pulsePort {config : Config} {register : Register} {segment : Segment}
    (hsegment : segment ∈ (Layout.ofRegister config register).segments) :
    segment.pulsePort.isSome = segment.writeEffect.isPulse := by
  obtain ⟨field, bits, type, access, locks, gates, stem, rfl, -⟩ := Layout.exists_build hsegment
  cases hpulse : type.behavior.writeEffect.isPulse <;>
    simp [Segment.build, Segment.writeEffect, hpulse]

/-- Only types that do something on a write are written by the bus. -/
theorem Layout.writeEffect_ne_ignore {config : Config} {register : Register} {segment : Segment}
    (hsegment : segment ∈ (Layout.ofRegister config register).segments)
    (hwritable : segment.swWrite = true) : segment.writeEffect ≠ .ignore := by
  obtain ⟨field, bits, type, access, locks, gates, stem, rfl, -⟩ := Layout.exists_build hsegment
  have htype : type.behavior.writable = true := (Bool.and_eq_true_iff.mp hwritable).1
  cases type with
  | readOnly => cases htype
  | _ => exact WriteEffect.noConfusion

theorem HwField.of_build? {name : String} {bits : BitRange} {access : Option AccessHint}
    {hw : HwField} (hbuild : HwField.build? name bits access = some hw) :
    hw.bits = bits ∧ hw.stem = RegisterFile.ident name := by
  cases access with
  | none => cases hbuild
  | some access =>
    simp only [HwField.build?] at hbuild
    split at hbuild
    · cases hbuild
      exact ⟨rfl, rfl⟩
    · cases hbuild

/-- The ports of a field start with an identifier. -/
theorem Layout.exists_stem {config : Config} {register : Register} {hw : HwField}
    (hhw : hw ∈ Layout.hwFields config register) :
    ∃ name, hw.stem = RegisterFile.ident name := by
  unfold Layout.hwFields at hhw
  split at hhw
  · exact ⟨register.name, (HwField.of_build? (Option.mem_toList.mp hhw)).2⟩
  · obtain ⟨field, -, hbuild⟩ := List.mem_filterMap.mp hhw
    exact ⟨field.name, (HwField.of_build? hbuild).2⟩

/-- The bits of a lock belong to the register that the lock names. -/
theorem Layout.exists_locker {config : Config} {lock : Lock} {tap : LockTap}
    (hsome : tap? config lock = some tap) :
    ∃ locker ∈ config.registers, locker.name = lock.register ∧
      tap.register = RegisterFile.ident locker.name := by
  obtain ⟨locker, hlocker, hbuild⟩ := Option.bind_eq_some_iff.mp hsome
  have hname := List.find?_some hlocker
  refine ⟨locker, List.mem_of_find?_eq_some hlocker, beq_iff_eq.mp hname, ?_⟩
  split at hbuild
  · rw [← Option.some.inj hbuild]
  · obtain ⟨field, -, hfield⟩ := Option.bind_eq_some_iff.mp hbuild
    rw [← Option.some.inj hfield]

/-- The gate of a magic dependency is on the register that it names. -/
theorem Layout.exists_source {config : Config} {magic : MagicDependency} {gate : MagicGate}
    (hsome : gate? config magic = some gate) :
    ∃ source ∈ config.registers, source.name = magic.source ∧
      gate.register = RegisterFile.ident source.name := by
  obtain ⟨source, hsource, hbuild⟩ := Option.bind_eq_some_iff.mp hsome
  have hname := List.find?_some hsource
  refine ⟨source, List.mem_of_find?_eq_some hsource, beq_iff_eq.mp hname, ?_⟩
  rw [← Option.some.inj hbuild]

namespace Config.WellFormed

variable {config : Config} {register : Register}

theorem registerWidth_pos (hwf : config.WellFormed) (hmem : register ∈ config.registers) :
    1 ≤ (config.registerWidth register).toNat := by
  have hdata := hwf.dataWidth
  unfold Config.registerWidth
  cases hwidth : register.width with
  | none =>
    rw [Option.getD_none]
    omega
  | some width => exact (hwf.registerWidth register hmem width hwidth).1

theorem registerWidth_le (hwf : config.WellFormed) (hmem : register ∈ config.registers) :
    (config.registerWidth register).toNat ≤ config.dataWidth.toNat := by
  unfold Config.registerWidth
  cases hwidth : register.width with
  | none => exact Nat.le_refl _
  | some width => exact (hwf.registerWidth register hmem width hwidth).2

theorem full_inside (hwf : config.WellFormed) (hmem : register ∈ config.registers) :
    (BitRange.full (config.registerWidth register)).Inside
      (config.registerWidth register).toNat :=
  fun _ hi => (BitRange.mem_full_iff (hwf.registerWidth_pos hmem)).mp hi

/-! ### Segments -/

theorem segmentsInside (hwf : config.WellFormed) (hmem : register ∈ config.registers) :
    ∀ segment ∈ (Layout.ofRegister config register).segments,
      segment.bits.Inside (config.registerWidth register).toNat := by
  intro segment hsegment
  simp only [Layout.ofRegister] at hsegment
  split at hsegment
  · obtain ⟨field, hfield, rfl⟩ := List.mem_map.mp hsegment
    exact hwf.fieldsInside register hmem field hfield
  · rw [List.mem_singleton.mp hsegment]
    exact hwf.full_inside hmem

theorem segmentsApart (hwf : config.WellFormed) (hmem : register ∈ config.registers) :
    (Layout.ofRegister config register).segments.Pairwise fun a b => a.bits.Apart b.bits := by
  simp only [Layout.ofRegister]
  split
  · rw [List.pairwise_map]
    exact hwf.fieldsDisjoint register hmem
  · exact List.pairwise_singleton _ _

/-! ### The hardware side -/

theorem hwInside (hwf : config.WellFormed) (hmem : register ∈ config.registers) :
    ∀ hw ∈ Layout.hwFields config register,
      hw.bits.Inside (config.registerWidth register).toNat := by
  intro hw hhw
  unfold Layout.hwFields at hhw
  split at hhw
  · rw [(HwField.of_build? (Option.mem_toList.mp hhw)).1]
    exact hwf.full_inside hmem
  · obtain ⟨field, hfield, hbuild⟩ := List.mem_filterMap.mp hhw
    rw [(HwField.of_build? hbuild).1]
    exact hwf.fieldsInside register hmem field hfield

theorem hwApart (hwf : config.WellFormed) (hmem : register ∈ config.registers) :
    (Layout.hwFields config register).Pairwise fun a b => a.bits.Apart b.bits := by
  unfold Layout.hwFields
  split
  · cases HwField.build? register.name (BitRange.full (config.registerWidth register))
      register.hwAccess with
    | none => exact List.Pairwise.nil
    | some hw => exact List.pairwise_singleton _ _
  · refine List.Pairwise.filterMap _ ?_ (hwf.fieldsDisjoint register hmem)
    intro field other hapart hw hhw otherHw hother
    rw [(HwField.of_build? hhw).1, (HwField.of_build? hother).1]
    exact hapart

theorem regular_ofRegister (hwf : config.WellFormed) (hmem : register ∈ config.registers) :
    (Layout.ofRegister config register).Regular where
  width_pos := hwf.registerWidth_pos hmem
  width_le := Nat.le_trans (hwf.registerWidth_le hmem) hwf.dataWidth.2.2
  reset := Word.fitsIn_and_lowMask _ _
  segmentsInside := hwf.segmentsInside hmem
  segmentsApart := hwf.segmentsApart hmem
  hwInside := hwf.hwInside hmem
  hwApart := hwf.hwApart hmem
  flags _ := Layout.isSome_writtenFlag
  pulses _ := Layout.isSome_pulsePort

/-! ### References -/

theorem tap_resolves (hwf : config.WellFormed) {locks : List Lock}
    (hlocks : ∀ lock ∈ locks, lock.Resolves config) :
    ∀ tap ∈ Layout.taps config locks, tap.Resolves (Layout.ofConfig config) := by
  intro tap htap
  obtain ⟨lock, hlock, hsome⟩ := List.mem_filterMap.mp htap
  obtain ⟨locker, hlocker, hpicks⟩ := hlocks lock hlock
  have hmem : locker ∈ config.registers := List.mem_of_find?_eq_some hlocker
  refine ⟨Layout.ofRegister config locker, List.mem_map_of_mem hmem, ?_⟩
  cases hselector : lock.selector with
  | bit index =>
    rw [hselector] at hpicks
    obtain rfl : ⟨ident locker.name, BitRange.bit index⟩ = tap := by
      simpa [Layout.tap?, hlocker, hselector] using hsome
    refine ⟨rfl, fun i hi => ?_⟩
    rw [BitRange.mem_bit_iff.mp hi]
    exact hpicks.1
  | field name =>
    rw [hselector] at hpicks
    obtain ⟨field, hfield, -⟩ := hpicks
    obtain rfl : ⟨ident locker.name, field.bits⟩ = tap := by
      simpa [Layout.tap?, hlocker, hselector, hfield] using hsome
    exact ⟨rfl, hwf.fieldsInside locker hmem field (List.mem_of_find?_eq_some hfield)⟩

theorem gate_resolves {magic : MagicDependency} {gate : MagicGate}
    (hsome : Layout.gate? config magic = some gate) :
    gate.Resolves (Layout.ofConfig config) := by
  obtain ⟨source, hsource, hbuild⟩ := Option.bind_eq_some_iff.mp hsome
  obtain rfl := Option.some.inj hbuild
  exact ⟨Layout.ofRegister config source,
    List.mem_map_of_mem (List.mem_of_find?_eq_some hsource), rfl, rfl,
    Word.fitsIn_and_lowMask _ _⟩

/-- The locks and gates of a segment are those of its register and, if it is one, its field. -/
theorem locks_of_mem_segments {segment : Segment}
    (hsegment : segment ∈ (Layout.ofRegister config register).segments) :
    (∀ tap ∈ segment.locks, tap ∈ Layout.taps config register.allLocks) ∧
      ∀ gate ∈ segment.gates, ∃ magic ∈ register.allMagic,
        Layout.gate? config magic = some gate := by
  have hown {gate : MagicGate} (hgate : gate ∈ Layout.gates config register.magic) :
      ∃ magic ∈ register.allMagic, Layout.gate? config magic = some gate := by
    obtain ⟨magic, hmagic, hsome⟩ := Option.bind_eq_some_iff.mp (Option.mem_toList.mp hgate)
    exact ⟨magic, List.mem_append_left _ (Option.mem_toList.mpr hmagic), hsome⟩
  simp only [Layout.ofRegister] at hsegment
  split at hsegment
  · obtain ⟨field, hfield, rfl⟩ := List.mem_map.mp hsegment
    simp only [Layout.fieldSegment, Segment.build, Register.allLocks, Layout.taps,
      List.filterMap_append, List.mem_append]
    refine ⟨?_, ?_⟩
    · rintro tap (htap | htap)
      · exact Or.inl htap
      · obtain ⟨lock, hlock, hsome⟩ := List.mem_filterMap.mp htap
        exact Or.inr (List.mem_filterMap.mpr
          ⟨lock, List.mem_flatMap.mpr ⟨field, hfield, hlock⟩, hsome⟩)
    · rintro gate (hgate | hgate)
      · exact hown hgate
      · obtain ⟨magic, hmagic, hsome⟩ := Option.bind_eq_some_iff.mp (Option.mem_toList.mp hgate)
        exact ⟨magic, List.mem_append_right _ (List.mem_filterMap.mpr ⟨field, hfield, hmagic⟩),
          hsome⟩
  · rw [List.mem_singleton.mp hsegment]
    simp only [Layout.wholeSegment, Segment.build, Register.allLocks, Layout.taps,
      List.filterMap_append, List.mem_append]
    exact ⟨fun tap htap => Or.inl htap, fun gate hgate => hown hgate⟩

/-! ### The register file -/

theorem addressesDistinct_layout (hwf : config.WellFormed) :
    ((Layout.ofConfig config).registers.map RegisterLayout.address).Nodup := by
  have haddresses : (Layout.ofConfig config).registers.map (some ∘ RegisterLayout.address) =
      config.registers.map Register.address := by
    rw [Layout.ofConfig, List.map_map]
    refine List.map_congr_left fun register hmem => ?_
    obtain ⟨address, haddress, -⟩ := hwf.addressed register hmem
    simp [Layout.ofRegister, haddress]
  apply List.Nodup.of_map some
  rw [List.map_map, haddresses]
  exact hwf.addressesDistinct

/-- The layout of a well-formed register file is regular. -/
theorem regular (hwf : config.WellFormed) : (Layout.ofConfig config).Regular where
  registers := by
    intro layout hlayout
    obtain ⟨register, hmem, rfl⟩ := List.mem_map.mp hlayout
    exact hwf.regular_ofRegister hmem
  identsDistinct := by
    rw [Layout.ofConfig, List.map_map]
    exact hwf.registersDistinct
  addressesDistinct := hwf.addressesDistinct_layout
  taps := by
    intro layout hlayout segment hsegment tap htap
    obtain ⟨register, hmem, rfl⟩ := List.mem_map.mp hlayout
    exact hwf.tap_resolves (hwf.locks register hmem) tap
      ((locks_of_mem_segments hsegment).1 tap htap)
  gates := by
    intro layout hlayout segment hsegment gate hgate
    obtain ⟨register, -, rfl⟩ := List.mem_map.mp hlayout
    obtain ⟨magic, -, hsome⟩ := (locks_of_mem_segments hsegment).2 gate hgate
    exact gate_resolves hsome

end Config.WellFormed

end RegisterFile
