import Mathlib
import RegisterFile.Proofs.Lockstep.Matches

/-!
The resolved view of a reordered register file: the same registers and segments in another order.
Locks and gates resolve to the same bits, and fields fold the same reset value, because names are
told apart and fields share no bit. Validation does not depend on the order either.
-/

namespace RegisterFile

/-- A segment with its locks in another order. -/
structure Segment.Reorders (segment other : Segment) : Prop where
  locks : segment.locks.Perm other.locks
  rest : { segment with locks := other.locks } = other

/-- A register with its segments and the hardware side of its fields in another order. -/
structure RegisterLayout.Reorders (register other : RegisterLayout) : Prop where
  segments : Rearranged Segment.Reorders register.segments other.segments
  hwFields : register.hwFields.Perm other.hwFields
  rest : { register with segments := other.segments, hwFields := other.hwFields } = other

/-- Reordering a segment leaves its policy. -/
theorem Segment.Reorders.toMatches {segment other : Segment}
    (hsegment : segment.Reorders other) : segment.Matches other := by
  rw [← hsegment.rest]
  exact ⟨rfl, rfl, rfl, fun _ => hsegment.locks.mem_iff, fun _ => Iff.rfl⟩

theorem Segment.Reorders.bits {segment other : Segment} (hsegment : segment.Reorders other) :
    segment.bits = other.bits := by
  rw [← hsegment.rest]

/-- Reordering a register leaves the policy of each of its bits. -/
theorem RegisterLayout.Reorders.toMatches {register other : RegisterLayout}
    (hregister : register.Reorders other) : register.Matches other where
  ident := by rw [← hregister.rest]
  address := by rw [← hregister.rest]
  width := by rw [← hregister.rest]
  reset := by rw [← hregister.rest]
  hwFields := fun _ => hregister.hwFields.mem_iff
  covers := by
    intro segment hsegment i hin
    obtain ⟨otherSegment, hother, hreorders⟩ := hregister.segments.exists_of_mem hsegment
    exact ⟨otherSegment, hother, hreorders.bits ▸ hin, hreorders.toMatches⟩
  covered := by
    intro otherSegment hother i hin
    obtain ⟨segment, hsegment, hreorders⟩ := hregister.segments.exists_of_mem_others hother
    exact ⟨segment, hsegment, hreorders.bits ▸ hin, hreorders.toMatches.symm⟩

/-! ### Reset values -/

/-- Fields without a common bit put their reset values in place in either order. -/
theorem Register.foldReset_comm {field other : Field} (value : Word)
    (hapart : ∀ i, ¬ (i ∈ field.bits ∧ i ∈ other.bits)) :
    Register.foldReset (Register.foldReset value field) other =
      Register.foldReset (Register.foldReset value other) field := by
  unfold Register.foldReset
  cases field.resetValue with
  | none => rfl
  | some reset =>
    cases other.resetValue with
    | none => rfl
    | some otherReset =>
      apply BitVec.eq_of_getLsbD_eq
      intro i hi
      simp only [Word.getLsbD_overlay]
      by_cases hfield : field.bits.mask.getLsbD i = true
      · have hother : other.bits.mask.getLsbD i = false := by
          by_contra hset
          exact hapart i ⟨(BitRange.getLsbD_mask_iff hi).mp hfield,
            (BitRange.getLsbD_mask_iff hi).mp (Bool.eq_true_of_not_eq_false hset)⟩
        simp [hfield, hother]
      · simp [hfield]

/-- The reset value of a register does not depend on the order of its fields. -/
theorem Register.Reorders.resetAt {register other : Register} (hregister : register.Reorders other)
    (hapart : register.fields.Pairwise fun a b => ∀ i, ¬ (i ∈ a.bits ∧ i ∈ b.bits))
    (width : Nat) : register.resetAt width = other.resetAt width := by
  let bare (field : Field) : Field := { field with lockedBy := [] }
  have hbare (fields : List Field) (value : Word) :
      (fields.map bare).foldl Register.foldReset value = fields.foldl Register.foldReset value :=
    List.foldl_map
  have hperm : (register.fields.map bare).Perm (other.fields.map bare) :=
    hregister.fields.map_perm fun field _ otherField _ hfield => by
      rw [← hfield.rest]
  have hapartBare : (register.fields.map bare).Pairwise
      fun a b => ∀ i, ¬ (i ∈ a.bits ∧ i ∈ b.bits) := List.pairwise_map.mpr hapart
  have hsymm : Std.Symm fun a b : Field => ∀ i, ¬ (i ∈ a.bits ∧ i ∈ b.bits) :=
    ⟨fun a b hab i hboth => hab i hboth.symm⟩
  have hvalue : register.resetValue = other.resetValue := by rw [← hregister.rest]
  rw [Register.resetAt, Register.resetAt, ← hbare, ← hbare other.fields, ← hvalue]
  congr 1
  refine hperm.foldl_eq' (fun field hfield otherField hother value => ?_) _
  by_cases hsame : field = otherField
  · rw [hsame]
  · exact Register.foldReset_comm value (hapartBare.forall hfield hother hsame)

theorem Config.WellFormed.fieldNames_nodup {config : Config} (hwf : config.WellFormed)
    {register : Register} (hmem : register ∈ config.registers) :
    (register.fields.map Field.name).Nodup := by
  apply List.Nodup.of_map ident
  rw [List.map_map]
  exact hwf.fieldsDistinct register hmem

namespace Config.Reorders

variable {config other : Config} {register otherRegister : Register} {field otherField : Field}
  (hconfig : config.Reorders other) (hwf : config.WellFormed)

include hconfig hwf

/-! ### References -/

theorem tap?_eq (lock : Lock) : Layout.tap? config lock = Layout.tap? other lock := by
  have hnames := Validate.names_nodup_of_idents hwf.registersDistinct
  unfold Layout.tap?
  cases hlocker : config.register? lock.register with
  | none =>
    have hnone : other.register? lock.register = none :=
      hconfig.registers.find?_eq_none (fun _ _ hregister => hregister.name) hlocker
    rw [hnone]
  | some locker =>
    obtain ⟨found, hfound, hreorders⟩ := hconfig.register?_eq_some hnames hlocker
    have hmem : locker ∈ config.registers := List.mem_of_find?_eq_some hlocker
    rw [hfound]
    cases lock.selector with
    | bit index => simp [hreorders.name]
    | field name =>
      cases hfield : locker.field? name with
      | none =>
        have hnone : found.field? name = none :=
          hreorders.fields.find?_eq_none (fun _ _ hfield => hfield.name) hfield
        simp [hfield, hnone]
      | some field =>
        obtain ⟨otherField, hotherField, hfieldReorders⟩ :=
          hreorders.field?_eq_some (hwf.fieldNames_nodup hmem) hfield
        simp [hfield, hotherField, hreorders.name, hfieldReorders.bits]

theorem taps_perm {locks otherLocks : List Lock} (hlocks : locks.Perm otherLocks) :
    (Layout.taps config locks).Perm (Layout.taps other otherLocks) := by
  have htap : Layout.tap? config = Layout.tap? other := funext (hconfig.tap?_eq hwf)
  rw [Layout.taps, Layout.taps, htap]
  exact hlocks.filterMap _

theorem gates_eq (magic : Option MagicDependency) :
    Layout.gates config magic = Layout.gates other magic := by
  have hnames := Validate.names_nodup_of_idents hwf.registersDistinct
  have hgate : Layout.gate? config = Layout.gate? other := by
    funext dependency
    unfold Layout.gate?
    cases hsource : config.register? dependency.source with
    | none =>
      have hnone : other.register? dependency.source = none :=
        hconfig.registers.find?_eq_none (fun _ _ hregister => hregister.name) hsource
      rw [hnone]
      rfl
    | some source =>
      obtain ⟨found, hfound, hreorders⟩ := hconfig.register?_eq_some hnames hsource
      rw [hfound]
      simp [hreorders.name, hconfig.registerWidth hreorders]
  rw [Layout.gates, Layout.gates, hgate]

/-! ### Registers -/

theorem fieldSegment (hregister : register.Reorders otherRegister)
    (hfield : field.Reorders otherField) :
    (Layout.fieldSegment config register field).Reorders
      (Layout.fieldSegment other otherRegister otherField) where
  locks := (hconfig.taps_perm hwf hregister.lockedBy).append
    (hconfig.taps_perm hwf hfield.lockedBy)
  rest := by
    have hgates := hconfig.gates_eq hwf
    have hswAccess : field.swAccessIn register = otherField.swAccessIn otherRegister := by
      rw [← hfield.rest, ← hregister.rest]
      rfl
    have hmagic : field.magic = otherField.magic := by rw [← hfield.rest]
    simp only [Layout.fieldSegment, Segment.build, hfield.name, hfield.bits,
      hregister.typeIn hfield, hregister.name, hregister.magic, hgates, hswAccess, hmagic]

theorem wholeSegment (hregister : register.Reorders otherRegister) :
    (Layout.wholeSegment config register).Reorders (Layout.wholeSegment other otherRegister) where
  locks := hconfig.taps_perm hwf hregister.lockedBy
  rest := by
    have hgates := hconfig.gates_eq hwf
    have hswAccess : register.swAccess = otherRegister.swAccess := by rw [← hregister.rest]
    simp only [Layout.wholeSegment, Segment.build, hconfig.registerWidth hregister,
      hregister.type, hregister.name, hregister.magic, hgates, hswAccess]

omit hwf in
theorem hwFields_perm (hregister : register.Reorders otherRegister) :
    (Layout.hwFields config register).Perm (Layout.hwFields other otherRegister) := by
  have hhwAccess : register.hwAccess = otherRegister.hwAccess := by rw [← hregister.rest]
  unfold Layout.hwFields
  rw [hregister.fields_isEmpty, hregister.name, hconfig.registerWidth hregister, hhwAccess]
  split
  · exact List.Perm.refl _
  · refine hregister.fields.filterMap_perm fun field otherField hfield => ?_
    rw [hfield.name, hfield.bits, Field.hwAccessIn, Field.hwAccessIn, ← hfield.rest, hhwAccess]

theorem ofRegister (hregister : register.Reorders otherRegister)
    (hmem : register ∈ config.registers) :
    (Layout.ofRegister config register).Reorders (Layout.ofRegister other otherRegister) where
  segments := by
    simp only [Layout.ofRegister, hregister.hasOverrides_eq]
    split
    · exact hregister.fields.map fun field _ otherField _ hfield =>
        hconfig.fieldSegment hwf hregister hfield
    · exact .of_perm (List.Perm.refl _)
        (.cons (hconfig.wholeSegment hwf hregister) .nil)
  hwFields := hconfig.hwFields_perm hregister
  rest := by
    simp only [Layout.ofRegister, hregister.name, hregister.address, hregister.type,
      hconfig.registerWidth hregister, hregister.hasOverrides_eq,
      hregister.resetAt (hwf.fieldsDisjoint register hmem)]

/-- The resolved view of a reordered register file has the same registers. -/
theorem layout : Rearranged RegisterLayout.Reorders (Layout.ofConfig config).registers
    (Layout.ofConfig other).registers :=
  hconfig.registers.map fun _ hmem _ _ hregister => hconfig.ofRegister hwf hregister hmem

/-! ### Validation -/

theorem hardwarePorts_perm : config.hardwarePorts.Perm other.hardwarePorts := by
  refine List.Perm.map _
    ((hconfig.layout hwf).flatMap_perm fun register otherRegister hregister => ?_)
  refine (hregister.hwFields.flatMap_right _).append ?_
  refine hregister.segments.filterMap_perm fun segment otherSegment hsegment => ?_
  rw [← hsegment.rest]
  rfl

/-- A lock resolves in a reordered register file if it does in the file. -/
theorem resolves {lock : Lock} (hlock : lock.Resolves config) : lock.Resolves other := by
  obtain ⟨locker, hlocker, hpicks⟩ := hlock
  have hmem : locker ∈ config.registers := List.mem_of_find?_eq_some hlocker
  obtain ⟨found, hfound, hreorders⟩ := hconfig.register?_eq_some
    (Validate.names_nodup_of_idents hwf.registersDistinct) hlocker
  refine ⟨found, hfound, ?_⟩
  cases hselector : lock.selector with
  | bit index =>
    rw [hselector] at hpicks
    obtain ⟨hindex, htype⟩ := hpicks
    refine ⟨hconfig.registerWidth hreorders ▸ hindex, htype.imp (hreorders.type ▸ ·) ?_⟩
    rintro ⟨field, hfield, hin, hfieldType⟩
    obtain ⟨otherField, hother, hfieldReorders⟩ := hreorders.fields.exists_of_mem hfield
    exact ⟨otherField, hother, hfieldReorders.bits ▸ hin,
      hreorders.typeIn hfieldReorders ▸ hfieldType⟩
  | field name =>
    rw [hselector] at hpicks
    obtain ⟨field, hfield, hfieldType⟩ := hpicks
    obtain ⟨otherField, hother, hfieldReorders⟩ :=
      hreorders.field?_eq_some (hwf.fieldNames_nodup hmem) hfield
    exact ⟨otherField, hother, hreorders.typeIn hfieldReorders ▸ hfieldType⟩

omit hwf in
theorem dependsOn {name target : String} (hdepends : other.DependsOn name target) :
    config.DependsOn name target := by
  obtain ⟨otherRegister, hother, rfl, hnames, named, hnamed, rfl⟩ := hdepends
  obtain ⟨register, hmem, hregister⟩ := hconfig.registers.exists_of_mem_others hother
  obtain ⟨source, hsource, hreorders⟩ := hconfig.registers.exists_of_mem_others hnamed
  refine ⟨register, hmem, hregister.name, ?_, source, hsource, hreorders.name⟩
  rcases hnames with ⟨lock, hlock, htarget⟩ | ⟨magic, hmagic, htarget⟩
  · exact .inl ⟨lock, hregister.allLocks_perm.mem_iff.mpr hlock, htarget⟩
  · exact .inr ⟨magic, hregister.allMagic_perm.mem_iff.mpr hmagic, htarget⟩

/-- A reordered register file is well-formed too. -/
theorem wellFormed : other.WellFormed where
  moduleName := by rw [← hconfig.rest]; exact hwf.moduleName
  dataWidth := by rw [← hconfig.rest]; exact hwf.dataWidth
  addrWidth := by rw [← hconfig.rest]; exact hwf.addrWidth
  writePorts := by rw [← hconfig.rest]; exact hwf.writePorts
  readPorts := by rw [← hconfig.rest]; exact hwf.readPorts
  registerWidth := by
    intro otherRegister hother width hwidth
    obtain ⟨register, hmem, hregister⟩ := hconfig.registers.exists_of_mem_others hother
    rw [← hconfig.rest]
    exact hwf.registerWidth register hmem width (hregister.width.trans hwidth)
  registerName := by
    intro otherRegister hother
    obtain ⟨register, hmem, hregister⟩ := hconfig.registers.exists_of_mem_others hother
    exact hregister.name ▸ hwf.registerName register hmem
  fieldName := by
    intro otherRegister hother otherField hotherField
    obtain ⟨register, hmem, hregister⟩ := hconfig.registers.exists_of_mem_others hother
    obtain ⟨field, hfield, hreorders⟩ := hregister.fields.exists_of_mem_others hotherField
    exact hreorders.name ▸ hwf.fieldName register hmem field hfield
  registersDistinct := by
    refine (hconfig.registers.map_perm fun register _ otherRegister _ hregister => ?_).nodup_iff.mp
      hwf.registersDistinct
    rw [hregister.name]
  fieldsDistinct := by
    intro otherRegister hother
    obtain ⟨register, hmem, hregister⟩ := hconfig.registers.exists_of_mem_others hother
    refine (hregister.fields.map_perm fun field _ otherField _ hfield => ?_).nodup_iff.mp
      (hwf.fieldsDistinct register hmem)
    rw [hfield.name]
  addressed := by
    intro otherRegister hother
    obtain ⟨register, hmem, hregister⟩ := hconfig.registers.exists_of_mem_others hother
    obtain ⟨address, haddress, hfits, haligned⟩ := hwf.addressed register hmem
    rw [← hconfig.rest]
    exact ⟨address, hregister.address ▸ haddress, hfits, haligned⟩
  addressesDistinct := (hconfig.registers.map_perm
    fun _ _ _ _ hregister => hregister.address).nodup_iff.mp hwf.addressesDistinct
  fieldsInside := by
    intro otherRegister hother otherField hotherField
    obtain ⟨register, hmem, hregister⟩ := hconfig.registers.exists_of_mem_others hother
    obtain ⟨field, hfield, hreorders⟩ := hregister.fields.exists_of_mem_others hotherField
    rw [← hreorders.bits, ← hconfig.registerWidth hregister]
    exact hwf.fieldsInside register hmem field hfield
  fieldsDisjoint := by
    intro otherRegister hother
    obtain ⟨register, hmem, hregister⟩ := hconfig.registers.exists_of_mem_others hother
    have hapart : (register.fields.map Field.bits).Pairwise BitRange.Apart :=
      List.pairwise_map.mpr (hwf.fieldsDisjoint register hmem)
    have hbits : (register.fields.map Field.bits).Perm (otherRegister.fields.map Field.bits) :=
      hregister.fields.map_perm fun _ _ _ _ hfield => hfield.bits
    exact List.pairwise_map.mp ((hbits.pairwise_iff fun hab i hboth => hab i hboth.symm).mp hapart)
  locks := by
    intro otherRegister hother lock hlock
    obtain ⟨register, hmem, hregister⟩ := hconfig.registers.exists_of_mem_others hother
    exact hconfig.resolves hwf
      (hwf.locks register hmem lock (hregister.allLocks_perm.mem_iff.mpr hlock))
  magic := by
    intro otherRegister hother magic hmagic
    obtain ⟨register, hmem, hregister⟩ := hconfig.registers.exists_of_mem_others hother
    obtain ⟨source, hsource, hname⟩ :=
      hwf.magic register hmem magic (hregister.allMagic_perm.mem_iff.mpr hmagic)
    obtain ⟨found, hfound, hreorders⟩ := hconfig.registers.exists_of_mem hsource
    exact ⟨found, hfound, hreorders.name ▸ hname⟩
  acyclic := fun name hcycle => hwf.acyclic name
    (Relation.TransGen.mono (fun _ _ hdepends => hconfig.dependsOn hdepends) _ _ hcycle)
  portsDistinct := (hconfig.hardwarePorts_perm hwf).nodup_iff.mp hwf.portsDistinct
  waitStates := by rw [← hconfig.rest]; exact hwf.waitStates

end Config.Reorders

end RegisterFile
