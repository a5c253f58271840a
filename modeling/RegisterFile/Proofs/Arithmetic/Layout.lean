import RegisterFile.Proofs.Arithmetic.Checked
import RegisterFile.Proofs.Validate.References

/-!
The resolved view of an accepted register file is calculated without a stop, and no lock or magic
gate is passed over on the way: each is found again in the segments that it keeps writes from.
-/

namespace RegisterFile

open Checked

/-! ### Reset values -/

def Field.resetInM (field : Field) (register : Register) : Checked Word :=
  match field.resetValue with
  | some value => do return value &&& (← Word.lowMaskM (← field.bits.widthM))
  | none => do shiftRight (register.resetValue &&& (← field.bits.maskM)) field.bits.low

namespace Register

def foldResetM (value : Word) (field : Field) : Checked Word :=
  match field.resetValue with
  | some reset => do
    return Word.overlay (← field.bits.maskM) value (← shiftLeft reset field.bits.low)
  | none => pure value

def resetAtM (register : Register) (width : Nat) : Checked Word := do
  return (← register.fields.foldlM foldResetM register.resetValue) &&& (← Word.lowMaskM width)

end Register

/-- Fields that lie within a word. -/
def Register.InWord (register : Register) : Prop :=
  ∀ field ∈ register.fields, field.bits.high < 128

theorem BitRange.low_lt {range : BitRange} (hhigh : range.high < 128) : range.low < 128 :=
  Nat.lt_of_le_of_lt range.low_le_high hhigh

theorem Field.resetInM_eq {field : Field} {register : Register} (hhigh : field.bits.high < 128) :
    field.resetInM register = pure (field.resetIn register) := by
  unfold resetInM resetIn
  cases field.resetValue with
  | some value => simp only [BitRange.widthM_eq hhigh, Word.lowMaskM_eq, pure_bind]
  | none =>
    simp only [BitRange.maskM_eq hhigh, pure_bind, shiftRight_eq (BitRange.low_lt hhigh)]

theorem Register.resetAtM_eq {register : Register} (hfields : register.InWord) (width : Nat) :
    register.resetAtM width = pure (register.resetAt width) := by
  have hfold : ∀ field ∈ register.fields, ∀ value,
      foldResetM value field = pure (foldReset value field) := by
    intro field hfield value
    have hhigh := hfields field hfield
    unfold foldResetM foldReset
    cases field.resetValue with
    | some reset =>
      simp only [BitRange.maskM_eq hhigh, shiftLeft_eq (BitRange.low_lt hhigh), pure_bind]
    | none => rfl
  rw [resetAtM, foldlM_eq_pure hfold, pure_bind, Word.lowMaskM_eq, pure_bind, resetAt]

/-- A field behind the end of a word, which no accepted register file has, stops the fold. -/
example :
    Register.resetAtM
      { name := "STATUS"
        fields := [{ name := "READY", bits := ⟨128, 128, by decide, by decide⟩
                     resetValue := some 1 }] } 32 = throw .shift :=
  rfl

/-! ### Masks of registers -/

namespace RegisterLayout

def readMaskM (register : RegisterLayout) : Checked Word :=
  (register.segments.filter fun s => s.swRead && !s.writeEffect.isPulse).foldlM
    (fun mask s => do return mask ||| (← s.bits.maskM)) 0

def fullMaskM (register : RegisterLayout) : Checked Word :=
  Word.lowMaskM register.width.toNat

variable {register : RegisterLayout}

theorem Regular.segment_high_lt (hregister : register.Regular) {segment : Segment}
    (hsegment : segment ∈ register.segments) : segment.bits.high < 128 :=
  Nat.lt_of_lt_of_le (hregister.segmentsInside segment hsegment).high_lt hregister.width_le

theorem Regular.hw_high_lt (hregister : register.Regular) {hw : HwField}
    (hhw : hw ∈ register.hwFields) : hw.bits.high < 128 :=
  Nat.lt_of_lt_of_le (hregister.hwInside hw hhw).high_lt hregister.width_le

theorem readMaskM_eq (hregister : register.Regular) :
    register.readMaskM = pure register.readMask := by
  refine foldlM_eq_pure (fun segment hsegment mask => ?_) 0
  have hhigh := hregister.segment_high_lt (List.mem_of_mem_filter hsegment)
  rw [BitRange.maskM_eq hhigh, pure_bind]

theorem fullMaskM_eq (register : RegisterLayout) : register.fullMaskM = pure register.fullMask :=
  Word.lowMaskM_eq _

end RegisterLayout

/-! ### References -/

namespace Layout

/-- Unlike `taps`, this stops at a lock that refers to nothing. -/
def tapsM (config : Config) (locks : List Lock) : Checked (List LockTap) :=
  locks.mapM fun lock => ofOption (tap? config lock)

def gateM (config : Config) (magic : MagicDependency) : Checked MagicGate := do
  let source ← ofOption (config.register? magic.source)
  let width := config.registerWidth source
  return ⟨RegisterFile.ident source.name, width, magic.value &&& (← Word.lowMaskM width.toNat)⟩

/-- Unlike `gates`, this stops at a magic gate that refers to nothing. -/
def gatesM (config : Config) (magic : Option MagicDependency) : Checked (List MagicGate) :=
  magic.toList.mapM (gateM config)

variable {config : Config} {register : Register} {field : Field}

theorem exists_tap {lock : Lock} (hlock : lock.Resolves config) :
    ∃ tap, tap? config lock = some tap := by
  obtain ⟨locker, hlocker, hpicks⟩ := hlock
  cases hselector : lock.selector with
  | bit index => exact ⟨_, by simp [tap?, hlocker, hselector]; rfl⟩
  | field name =>
    rw [hselector] at hpicks
    obtain ⟨field, hfield, -⟩ := hpicks
    exact ⟨_, by simp [tap?, hlocker, hselector, hfield]; rfl⟩

theorem exists_gate {magic : MagicDependency}
    (hmagic : ∃ source ∈ config.registers, source.name = magic.source) :
    ∃ gate, gate? config magic = some gate := by
  obtain ⟨source, hsource⟩ := Option.isSome_iff_exists.mp (Validate.register?_isSome_iff.mpr hmagic)
  exact ⟨_, by simp [gate?, hsource]; rfl⟩

theorem tapsM_eq {locks : List Lock} (hlocks : ∀ lock ∈ locks, lock.Resolves config) :
    tapsM config locks = pure (taps config locks) :=
  mapM_ofOption_eq fun lock hlock => exists_tap (hlocks lock hlock)

theorem gateM_eq (config : Config) (magic : MagicDependency) :
    gateM config magic = ofOption (gate? config magic) := by
  unfold gateM gate?
  cases config.register? magic.source with
  | none => rfl
  | some source => simp only [ofOption, pure_bind, Word.lowMaskM_eq]; rfl

theorem gates_eq_filterMap (config : Config) (magic : Option MagicDependency) :
    gates config magic = magic.toList.filterMap (gate? config) := by
  cases magic with
  | none => rfl
  | some dependency => cases hgate : gate? config dependency <;> simp [gates, hgate]

theorem gatesM_eq {magic : Option MagicDependency}
    (hmagic : ∀ dependency ∈ magic.toList,
      ∃ source ∈ config.registers, source.name = dependency.source) :
    gatesM config magic = pure (gates config magic) := by
  rw [gatesM, funext (gateM_eq config), gates_eq_filterMap]
  exact mapM_ofOption_eq fun dependency hdependency => exists_gate (hmagic dependency hdependency)

/-- The locks and magic gates of a register file are in the segments that they guard: those of a
    register in all of its segments, those of a field in the one that the field is. -/
structure Complete (config : Config) : Prop where
  registerLocks : ∀ register ∈ config.registers, ∀ lock ∈ register.lockedBy,
    ∃ tap, tap? config lock = some tap ∧
      ∀ segment ∈ (ofRegister config register).segments, tap ∈ segment.locks
  fieldLocks : ∀ register ∈ config.registers, ∀ field ∈ register.fields,
    ∀ lock ∈ field.lockedBy, ∃ tap, tap? config lock = some tap ∧
      ∃ segment ∈ (ofRegister config register).segments,
        segment.field = some field.name ∧ segment.bits = field.bits ∧ tap ∈ segment.locks
  registerGates : ∀ register ∈ config.registers, ∀ magic ∈ register.magic.toList,
    ∃ gate, gate? config magic = some gate ∧
      ∀ segment ∈ (ofRegister config register).segments, gate ∈ segment.gates
  fieldGates : ∀ register ∈ config.registers, ∀ field ∈ register.fields,
    ∀ magic ∈ field.magic.toList, ∃ gate, gate? config magic = some gate ∧
      ∃ segment ∈ (ofRegister config register).segments,
        segment.field = some field.name ∧ segment.bits = field.bits ∧ gate ∈ segment.gates

theorem mem_gates {magic : MagicDependency} {own : Option MagicDependency} {gate : MagicGate}
    (hmagic : magic ∈ own.toList) (hgate : gate? config magic = some gate) :
    gate ∈ gates config own := by
  obtain rfl := Option.mem_toList.mp hmagic
  exact Option.mem_toList.mpr hgate

/-- What guards a register guards each of its segments. -/
theorem guards_subset {segment : Segment}
    (hsegment : segment ∈ (ofRegister config register).segments) :
    taps config register.lockedBy ⊆ segment.locks ∧
      gates config register.magic ⊆ segment.gates := by
  simp only [ofRegister] at hsegment
  split at hsegment
  · obtain ⟨field, -, rfl⟩ := List.mem_map.mp hsegment
    exact ⟨List.subset_append_left _ _, List.subset_append_left _ _⟩
  · obtain rfl := List.mem_singleton.mp hsegment
    exact ⟨List.Subset.refl _, List.Subset.refl _⟩

/-- A field that overrides its register is a segment. -/
theorem mem_segments_of_overrides (config : Config) (hfield : field ∈ register.fields)
    (hoverrides : field.overrides register = true) :
    fieldSegment config register field ∈ (ofRegister config register).segments := by
  have hsliced : register.hasOverrides = true := List.any_eq_true.mpr ⟨field, hfield, hoverrides⟩
  simp only [ofRegister, hsliced, if_true]
  exact List.mem_map_of_mem hfield

theorem overrides_of_lock {lock : Lock} (hlock : lock ∈ field.lockedBy) :
    field.overrides register = true := by
  have hlocked : field.lockedBy.isEmpty = false :=
    List.isEmpty_eq_false_iff.mpr (List.ne_nil_of_mem hlock)
  simp [Field.overrides, hlocked]

theorem overrides_of_magic {magic : MagicDependency} (hmagic : magic ∈ field.magic.toList) :
    field.overrides register = true := by
  simp [Field.overrides, Option.mem_toList.mp hmagic]

/-! ### Segments -/

def fieldSegmentM (config : Config) (register : Register) (field : Field) : Checked Segment := do
  let locks := (← tapsM config register.lockedBy) ++ (← tapsM config field.lockedBy)
  let gates := (← gatesM config register.magic) ++ (← gatesM config field.magic)
  return Segment.build (some field.name) field.bits (field.typeIn register)
    (field.swAccessIn register) locks gates
    s!"{RegisterFile.ident register.name}_{RegisterFile.ident field.name}"

def wholeSegmentM (config : Config) (register : Register) : Checked Segment := do
  return Segment.build none (BitRange.full (config.registerWidth register)) register.type
    register.swAccess (← tapsM config register.lockedBy) (← gatesM config register.magic)
    (RegisterFile.ident register.name)

def segmentsM (config : Config) (register : Register) : Checked (List Segment) :=
  if register.hasOverrides then register.fields.mapM (fieldSegmentM config register)
  else do return [← wholeSegmentM config register]

def ofRegisterM (config : Config) (register : Register) : Checked RegisterLayout := do
  let width := config.registerWidth register
  return { name := register.name
           ident := RegisterFile.ident register.name
           address := register.address.getD 0
           width
           type := register.type
           reset := ← register.resetAtM width.toNat
           sliced := register.hasOverrides
           segments := ← segmentsM config register
           hwFields := hwFields config register }

def ofConfigM (config : Config) : Checked Layout := do
  return ⟨← config.registers.mapM (ofRegisterM config)⟩

end Layout

namespace Config.WellFormed

open Layout

variable {config : Config} {register : Register} {field : Field}

theorem lockedBy (hwf : config.WellFormed) (hmem : register ∈ config.registers) :
    ∀ lock ∈ register.lockedBy, lock.Resolves config :=
  fun lock hlock => hwf.locks register hmem lock (List.mem_append_left _ hlock)

theorem field_lockedBy (hwf : config.WellFormed) (hmem : register ∈ config.registers)
    (hfield : field ∈ register.fields) : ∀ lock ∈ field.lockedBy, lock.Resolves config :=
  fun lock hlock => hwf.locks register hmem lock
    (List.mem_append_right _ (List.mem_flatMap.mpr ⟨field, hfield, hlock⟩))

theorem magicSource (hwf : config.WellFormed) (hmem : register ∈ config.registers) :
    ∀ magic ∈ register.magic.toList,
      ∃ source ∈ config.registers, source.name = magic.source :=
  fun magic hmagic => hwf.magic register hmem magic (List.mem_append_left _ hmagic)

theorem field_magicSource (hwf : config.WellFormed) (hmem : register ∈ config.registers)
    (hfield : field ∈ register.fields) :
    ∀ magic ∈ field.magic.toList, ∃ source ∈ config.registers, source.name = magic.source :=
  fun magic hmagic => hwf.magic register hmem magic
    (List.mem_append_right _
      (List.mem_filterMap.mpr ⟨field, hfield, Option.mem_toList.mp hmagic⟩))

theorem inWord (hwf : config.WellFormed) (hmem : register ∈ config.registers) :
    register.InWord := by
  intro field hfield
  have hinside : field.bits.Inside (config.registerWidth register).toNat :=
    hwf.fieldsInside register hmem field hfield
  have hle := hwf.registerWidth_le hmem
  have hdata := hwf.dataWidth.2.2
  have hhigh := hinside.high_lt
  omega

theorem fieldSegmentM_eq (hwf : config.WellFormed) (hmem : register ∈ config.registers)
    (hfield : field ∈ register.fields) :
    fieldSegmentM config register field = pure (fieldSegment config register field) := by
  simp only [fieldSegmentM, tapsM_eq (hwf.lockedBy hmem), tapsM_eq (hwf.field_lockedBy hmem hfield),
    gatesM_eq (hwf.magicSource hmem), gatesM_eq (hwf.field_magicSource hmem hfield), pure_bind]
  rfl

theorem wholeSegmentM_eq (hwf : config.WellFormed) (hmem : register ∈ config.registers) :
    wholeSegmentM config register = pure (wholeSegment config register) := by
  simp only [wholeSegmentM, tapsM_eq (hwf.lockedBy hmem), gatesM_eq (hwf.magicSource hmem),
    pure_bind]
  rfl

theorem segmentsM_eq (hwf : config.WellFormed) (hmem : register ∈ config.registers) :
    segmentsM config register = pure (ofRegister config register).segments := by
  simp only [segmentsM, ofRegister]
  split
  · exact mapM_eq_pure fun field hfield => hwf.fieldSegmentM_eq hmem hfield
  · rw [hwf.wholeSegmentM_eq hmem, pure_bind]

theorem ofRegisterM_eq (hwf : config.WellFormed) (hmem : register ∈ config.registers) :
    ofRegisterM config register = pure (ofRegister config register) := by
  simp only [ofRegisterM, Register.resetAtM_eq (hwf.inWord hmem), hwf.segmentsM_eq hmem, pure_bind]
  rfl

theorem complete (hwf : config.WellFormed) : Layout.Complete config where
  registerLocks := by
    intro register hmem lock hlock
    obtain ⟨tap, htap⟩ := exists_tap (hwf.lockedBy hmem lock hlock)
    exact ⟨tap, htap, fun segment hsegment =>
      (guards_subset hsegment).1 (List.mem_filterMap.mpr ⟨lock, hlock, htap⟩)⟩
  fieldLocks := by
    intro register hmem field hfield lock hlock
    obtain ⟨tap, htap⟩ := exists_tap (hwf.field_lockedBy hmem hfield lock hlock)
    exact ⟨tap, htap, fieldSegment config register field,
      mem_segments_of_overrides config hfield (overrides_of_lock hlock), rfl, rfl,
      List.mem_append_right _ (List.mem_filterMap.mpr ⟨lock, hlock, htap⟩)⟩
  registerGates := by
    intro register hmem magic hmagic
    obtain ⟨gate, hgate⟩ := exists_gate (hwf.magicSource hmem magic hmagic)
    exact ⟨gate, hgate, fun segment hsegment =>
      (guards_subset hsegment).2 (mem_gates hmagic hgate)⟩
  fieldGates := by
    intro register hmem field hfield magic hmagic
    obtain ⟨gate, hgate⟩ := exists_gate (hwf.field_magicSource hmem hfield magic hmagic)
    exact ⟨gate, hgate, fieldSegment config register field,
      mem_segments_of_overrides config hfield (overrides_of_magic hmagic), rfl, rfl,
      List.mem_append_right _ (mem_gates hmagic hgate)⟩

/-- The layout of a well-formed register file is calculated without a stop. -/
theorem layoutM_eq (hwf : config.WellFormed) :
    Layout.ofConfigM config = pure (Layout.ofConfig config) := by
  rw [ofConfigM, mapM_eq_pure fun register hmem => hwf.ofRegisterM_eq hmem, pure_bind, ofConfig]

end Config.WellFormed

end RegisterFile
