import RegisterFile.Proofs.Lockstep.Matches
import RegisterFile.Proofs.Slicing.Policy

/-!
A register that is cut although nothing sets its fields apart. Handing its locks down to its fields
makes a segment of each of them; if they leave no bit out, every bit keeps its policy.
-/

namespace RegisterFile

namespace Register

/-- The register with its locks handed down to its fields. -/
def sliced (register : Register) : Register :=
  { register with
    lockedBy := []
    fields := register.fields.map fun field => { field with lockedBy := register.lockedBy } }

/-- The register without locks. -/
def unlocked (register : Register) : Register :=
  { register with
    lockedBy := []
    fields := register.fields.map fun field => { field with lockedBy := [] } }

/-- Every bit up to a width belongs to a field. Valid fields share no bit, so they tile the
    register. -/
def Tiled (register : Register) (width : Nat) : Prop :=
  ∀ i < width, ∃ field ∈ register.fields, i ∈ field.bits

instance (register : Register) (width : Nat) : Decidable (register.Tiled width) :=
  inferInstanceAs (Decidable (∀ i < width, ∃ field ∈ register.fields, i ∈ field.bits))

end Register

namespace Config

/-- The register file with the register at an index sliced. -/
def sliced (config : Config) (index : Nat) : Config :=
  { config with registers := config.registers.modify index Register.sliced }

/-- The register file without locks. -/
def unlocked (config : Config) : Config :=
  { config with registers := config.registers.map Register.unlocked }

end Config

/-! ### References -/

theorem Register.unlocked_sliced (register : Register) :
    register.sliced.unlocked = register.unlocked := by
  simp [sliced, unlocked]

theorem Config.unlocked_sliced (config : Config) (index : Nat) :
    (config.sliced index).unlocked = config.unlocked := by
  simp only [unlocked, sliced]
  congr 1
  apply List.ext_getElem?
  intro j
  rw [List.getElem?_map, List.getElem?_map, List.getElem?_modify, Option.map_eq_map,
    Option.map_map]
  congr 1
  funext register
  simp only [Function.comp_apply]
  split
  · exact register.unlocked_sliced
  · rfl

theorem Config.register?_unlocked (config : Config) (name : String) :
    config.unlocked.register? name = (config.register? name).map Register.unlocked := by
  rw [register?, unlocked, List.find?_map]
  rfl

theorem Register.field?_unlocked (register : Register) (name : String) :
    register.unlocked.field? name =
      (register.field? name).map fun field => { field with lockedBy := [] } := by
  rw [field?, unlocked, List.find?_map]
  rfl

namespace Layout

/-- What a lock picks does not depend on locks. -/
theorem tap?_unlocked (config : Config) (lock : Lock) :
    tap? config.unlocked lock = tap? config lock := by
  unfold tap?
  rw [config.register?_unlocked]
  cases config.register? lock.register with
  | none => rfl
  | some locker =>
    cases lock.selector with
    | bit index => rfl
    | field name =>
      simp only [Option.map_some, Option.bind_eq_bind, Option.bind_some, locker.field?_unlocked]
      cases locker.field? name <;> rfl

theorem gate?_unlocked (config : Config) (magic : MagicDependency) :
    gate? config.unlocked magic = gate? config magic := by
  unfold gate?
  rw [config.register?_unlocked]
  cases config.register? magic.source <;> rfl

variable (config : Config) (index : Nat)

theorem tap?_sliced : tap? (config.sliced index) = tap? config := by
  funext lock
  rw [← tap?_unlocked, config.unlocked_sliced, tap?_unlocked]

theorem gate?_sliced : gate? (config.sliced index) = gate? config := by
  funext magic
  rw [← gate?_unlocked, config.unlocked_sliced, gate?_unlocked]

theorem ofRegister_sliced (register : Register) :
    ofRegister (config.sliced index) register = ofRegister config register := by
  have hwidth : (config.sliced index).registerWidth = config.registerWidth := rfl
  have htaps : taps (config.sliced index) = taps config := by
    funext locks
    rw [taps, tap?_sliced, taps]
  have hgates : gates (config.sliced index) = gates config := by
    funext magic
    rw [gates, gate?_sliced, gates]
  have hfield : fieldSegment (config.sliced index) register = fieldSegment config register := by
    funext field
    rw [fieldSegment, htaps, hgates, fieldSegment]
  have hwhole : wholeSegment (config.sliced index) register = wholeSegment config register := by
    rw [wholeSegment, htaps, hgates, hwidth, wholeSegment]
  rw [ofRegister, hfield, hwhole, hwidth, ofRegister]
  rfl

end Layout

/-! ### The sliced register -/

theorem Register.resetAt_sliced (register : Register) (width : Nat) :
    register.sliced.resetAt width = register.resetAt width := by
  rw [resetAt, sliced, List.foldl_map]
  rfl

theorem Layout.hwFields_sliced (config : Config) (register : Register) :
    hwFields config register.sliced = hwFields config register := by
  simp only [hwFields, Register.sliced, List.isEmpty_map, List.filterMap_map]
  rfl

theorem Register.hasOverrides_sliced {register : Register} (hfields : register.fields ≠ [])
    (hlocked : register.lockedBy ≠ []) : register.sliced.hasOverrides = true := by
  obtain ⟨field, hfield⟩ := List.exists_mem_of_ne_nil _ hfields
  refine List.any_eq_true.mpr ⟨_, List.mem_map_of_mem hfield, ?_⟩
  simp [Field.overrides, hlocked]

theorem Layout.segments_whole {config : Config} {register : Register}
    (hwhole : register.hasOverrides = false) :
    (ofRegister config register).segments = [wholeSegment config register] := by
  rw [ofRegister, if_neg (Bool.eq_false_iff.mp hwhole)]

/-- A field that inherits everything becomes a segment with the policy of the whole register. -/
theorem Field.Inherits.matches_sliced {field : Field} {register : Register}
    (hinherits : field.Inherits register) (config : Config) :
    (Layout.wholeSegment config register).Matches
      (Layout.fieldSegment config register.sliced
        { field with lockedBy := register.lockedBy }) where
  type := hinherits.type.symm
  swRead := by
    change _ = ((field.typeIn register).behavior.readable &&
      (field.swAccess.or register.swAccess).all AccessHint.canRead)
    rw [hinherits.type, hinherits.swAccess]
    rfl
  swWrite := by
    change _ = ((field.typeIn register).behavior.writable &&
      (field.swAccess.or register.swAccess).all AccessHint.canWrite)
    rw [hinherits.type, hinherits.swAccess]
    rfl
  locks := fun _ => Iff.rfl
  gates := by
    intro gate
    change gate ∈ Layout.gates config register.magic ↔
      gate ∈ Layout.gates config register.magic ++ Layout.gates config field.magic
    rw [hinherits.magic]
    exact (List.append_nil _).symm ▸ Iff.rfl

namespace Config.WellFormed

variable {config : Config} {register : Register} (hwf : config.WellFormed)
  (hmem : register ∈ config.registers) (hwhole : register.hasOverrides = false)
  (htiled : register.Tiled (config.registerWidth register).toNat) (hlocked : register.lockedBy ≠ [])

include hwf hmem htiled

theorem fields_ne_nil_of_tiled : register.fields ≠ [] := by
  obtain ⟨field, hfield, -⟩ := htiled 0 (hwf.registerWidth_pos hmem)
  exact List.ne_nil_of_mem hfield

include hlocked

theorem segments_sliced : (Layout.ofRegister config register.sliced).segments =
    register.fields.map fun field => Layout.fieldSegment config register.sliced
      { field with lockedBy := register.lockedBy } := by
  rw [Layout.ofRegister, if_pos
    (Register.hasOverrides_sliced (hwf.fields_ne_nil_of_tiled hmem htiled) hlocked)]
  exact List.map_map

include hwhole

/-- Slicing a register leaves the policy of each of its bits. -/
theorem matches_sliced : (Layout.ofRegister config register).Matches
    (Layout.ofRegister config register.sliced) where
  ident := rfl
  address := rfl
  width := rfl
  reset := (register.resetAt_sliced _).symm
  hwFields := fun hw => by
    change hw ∈ Layout.hwFields config register ↔ hw ∈ Layout.hwFields config register.sliced
    rw [Layout.hwFields_sliced]
  covers := by
    rw [RegisterLayout.Covers, Layout.segments_whole hwhole, hwf.segments_sliced hmem htiled hlocked,
      List.forall_mem_singleton]
    intro i hin
    obtain ⟨field, hfield, hfieldIn⟩ := htiled i (hwf.full_inside hmem i hin)
    exact ⟨_, List.mem_map_of_mem hfield, hfieldIn,
      (Register.inherits_of_not_hasOverrides hwhole hfield).matches_sliced config⟩
  covered := by
    rw [RegisterLayout.Covers, Layout.segments_whole hwhole, hwf.segments_sliced hmem htiled hlocked,
      List.forall_mem_map]
    intro field hfield i hin
    exact ⟨_, List.mem_singleton_self _, (BitRange.mem_full_iff (hwf.registerWidth_pos hmem)).mpr
        (hwf.fieldsInside register hmem field hfield i hin),
      ((Register.inherits_of_not_hasOverrides hwhole hfield).matches_sliced config).symm⟩

theorem regular_sliced : (Layout.ofRegister config register.sliced).Regular := by
  have hregular := hwf.regular_ofRegister hmem
  have hmatches := hwf.matches_sliced hmem hwhole htiled hlocked
  exact {
    width_pos := hregular.width_pos
    width_le := hregular.width_le
    reset := Word.fitsIn_and_lowMask _ _
    segmentsInside := by
      intro segment hsegment i hin
      obtain ⟨whole, hmemWhole, hwholeIn, -⟩ := hmatches.covered segment hsegment i hin
      exact hregular.segmentsInside whole hmemWhole i hwholeIn
    segmentsApart := by
      rw [hwf.segments_sliced hmem htiled hlocked, List.pairwise_map]
      exact hwf.fieldsDisjoint register hmem
    hwInside := fun hw hhw => hregular.hwInside hw ((hmatches.hwFields hw).mpr hhw)
    hwApart := by
      change (Layout.hwFields config register.sliced).Pairwise fun a b => a.bits.Apart b.bits
      rw [Layout.hwFields_sliced]
      exact hregular.hwApart
    flags := fun _ => Layout.isSome_writtenFlag
    pulses := fun _ => Layout.isSome_pulsePort }

end Config.WellFormed

end RegisterFile
