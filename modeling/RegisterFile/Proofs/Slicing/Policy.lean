import Mathlib
import RegisterFile.Proofs.Accessors.Names
import RegisterFile.Proofs.Layout

/-!
Every field is served by one segment. A register is cut only if some field overrides it, and is one
segment otherwise; either way the segment that a field lies in has the type, the access, the locks
and the gates that the field asks for. The accessor module works out for itself which fields it may
write, and comes to the same.
-/

namespace RegisterFile

/-- A tap on the bits that a lock picks. -/
def Lock.Taps (config : Config) (lock : Lock) (tap : LockTap) : Prop :=
  ∃ locker ∈ config.registers, locker.name = lock.register ∧ tap.register = ident locker.name ∧
    match lock.selector with
    | .bit index => tap.bits = BitRange.bit index
    | .field name => ∃ field ∈ locker.fields, field.name = name ∧ tap.bits = field.bits

/-- A gate that is open while the register of a magic dependency holds its value. -/
def MagicDependency.Opens (config : Config) (magic : MagicDependency) (gate : MagicGate) : Prop :=
  ∃ source ∈ config.registers, source.name = magic.source ∧ gate.register = ident source.name ∧
    gate.width = config.registerWidth source ∧
    gate.value = magic.value &&& Word.lowMask gate.width.toNat

/-- A segment with all bits of a field and with its policy: the hints of the field, or else of its
    register, restrict what its type allows, and its locks and gates come behind those of the
    register. -/
structure Segment.Serves (config : Config) (register : Register) (field : Field)
    (segment : Segment) : Prop where
  bits : ∀ i ∈ field.bits, i ∈ segment.bits
  type : segment.type = field.typeIn register
  swRead : segment.swRead = ((field.typeIn register).behavior.readable &&
    (field.swAccess.or register.swAccess).all AccessHint.canRead)
  swWrite : segment.swWrite = ((field.typeIn register).behavior.writable &&
    (field.swAccess.or register.swAccess).all AccessHint.canWrite)
  locks : List.Forall₂ (Lock.Taps config) (register.lockedBy ++ field.lockedBy) segment.locks
  gates : List.Forall₂ (MagicDependency.Opens config)
    (register.magic.toList ++ field.magic.toList) segment.gates

/-- Some segment with a bit of the field is written by the bus. -/
def RegisterLayout.Writes (register : RegisterLayout) (field : Field) : Prop :=
  ∃ segment ∈ register.segments, segment.swWrite = true ∧ ∃ i ∈ field.bits, i ∈ segment.bits

/-- A method that replaces a field. -/
def Accessors.Method.Sets (method : Accessors.Method) (field : Field) : Prop :=
  method.name = "set_" ++ Accessors.fieldStem field.name ∧
    method.body = Accessors.setterBody (Word.lowMask field.bits.width) field.bits.low

instance (method : Accessors.Method) (field : Field) : Decidable (method.Sets field) :=
  inferInstanceAs (Decidable (_ ∧ _))

/-- A field that overrides nothing leaves everything to its register. -/
structure Field.Inherits (field : Field) (register : Register) : Prop where
  type : field.typeIn register = register.type
  swAccess : field.swAccess.or register.swAccess = register.swAccess
  lockedBy : field.lockedBy = []
  magic : field.magic = none

theorem Field.inherits_of_not_overrides {field : Field} {register : Register}
    (hfield : field.overrides register = false) : field.Inherits register := by
  simp only [Field.overrides, Bool.or_eq_false_iff, Bool.not_eq_false', List.isEmpty_iff,
    Option.isSome_eq_false_iff, Option.isNone_iff_eq_none, Option.any_eq_false] at hfield
  obtain ⟨⟨⟨htype, hlocks⟩, hmagic⟩, haccess⟩ := hfield
  refine ⟨?_, ?_, hlocks, hmagic⟩
  · cases hown : field.type with
    | none => rw [Field.typeIn, hown, Option.getD_none]
    | some type => simpa [Field.typeIn, hown] using htype type hown
  · cases hown : field.swAccess with
    | none => exact Option.none_or
    | some hint => simpa [hown] using haccess hint hown

theorem Register.inherits_of_not_hasOverrides {register : Register}
    (hwhole : register.hasOverrides = false) {field : Field} (hfield : field ∈ register.fields) :
    field.Inherits register :=
  Field.inherits_of_not_overrides
    (Bool.eq_false_iff.mpr (List.any_eq_false.mp hwhole field hfield))

/-! ### References -/

theorem Config.register?_eq_some {config : Config} {name : String} {register : Register}
    (hfound : config.register? name = some register) :
    register ∈ config.registers ∧ register.name = name :=
  ⟨List.mem_of_find?_eq_some hfound, by simpa using List.find?_some hfound⟩

theorem Register.field?_eq_some {register : Register} {name : String} {field : Field}
    (hfound : register.field? name = some field) : field ∈ register.fields ∧ field.name = name :=
  ⟨List.mem_of_find?_eq_some hfound, by simpa using List.find?_some hfound⟩

theorem Lock.Resolves.exists_tap {config : Config} {lock : Lock} (hlock : lock.Resolves config) :
    ∃ tap, Layout.tap? config lock = some tap ∧ lock.Taps config tap := by
  obtain ⟨locker, hlocker, hpicks⟩ := hlock
  obtain ⟨hmem, hname⟩ := Config.register?_eq_some hlocker
  unfold Lock.Taps
  cases hselector : lock.selector with
  | bit index =>
    refine ⟨⟨ident locker.name, BitRange.bit index⟩, ?_, locker, hmem, hname, rfl, rfl⟩
    simp [Layout.tap?, hlocker, hselector]
  | field name =>
    rw [hselector] at hpicks
    obtain ⟨field, hfield, -⟩ := hpicks
    obtain ⟨hfieldMem, hfieldName⟩ := Register.field?_eq_some hfield
    refine ⟨⟨ident locker.name, field.bits⟩, ?_, locker, hmem, hname, rfl, field, hfieldMem,
      hfieldName, rfl⟩
    simp [Layout.tap?, hlocker, hselector, hfield]

/-- Locks that resolve have a tap each. -/
theorem Layout.forall₂_taps {config : Config} {locks : List Lock}
    (hlocks : ∀ lock ∈ locks, lock.Resolves config) :
    List.Forall₂ (Lock.Taps config) locks (Layout.taps config locks) := by
  induction locks with
  | nil => exact .nil
  | cons lock rest ih =>
    obtain ⟨hfirst, hrest⟩ := List.forall_mem_cons.mp hlocks
    obtain ⟨tap, htap, htaps⟩ := hfirst.exists_tap
    rw [Layout.taps, List.filterMap_cons_some htap]
    exact .cons htaps (ih hrest)

/-- A magic dependency on a register that exists has a gate. -/
theorem Layout.forall₂_gates {config : Config} {magic : Option MagicDependency}
    (hmagic : ∀ dependency ∈ magic.toList,
      ∃ source ∈ config.registers, source.name = dependency.source) :
    List.Forall₂ (MagicDependency.Opens config) magic.toList (Layout.gates config magic) := by
  cases magic with
  | none => exact .nil
  | some dependency =>
    obtain ⟨source, hsource⟩ := Option.isSome_iff_exists.mp
      (Validate.register?_isSome_iff.mpr (hmagic dependency (List.mem_singleton_self _)))
    obtain ⟨hmem, hname⟩ := Config.register?_eq_some hsource
    have hgate : Layout.gates config (some dependency) =
        [⟨ident source.name, config.registerWidth source,
          dependency.value &&& Word.lowMask (config.registerWidth source).toNat⟩] := by
      simp [Layout.gates, Layout.gate?, hsource]
    rw [hgate]
    exact .cons ⟨source, hmem, hname, rfl, rfl, rfl⟩ .nil

/-! ### Segments -/

namespace Config.WellFormed

variable {config : Config} {register : Register} {field : Field} (hwf : config.WellFormed)
  (hmem : register ∈ config.registers) (hfield : field ∈ register.fields)

include hwf hmem hfield

theorem serves_fieldSegment :
    (Layout.fieldSegment config register field).Serves config register field where
  bits := fun _ hin => hin
  type := rfl
  swRead := rfl
  swWrite := rfl
  locks := by
    refine List.rel_append (Layout.forall₂_taps fun lock hlock => ?_)
      (Layout.forall₂_taps fun lock hlock => ?_)
    · exact hwf.locks register hmem lock (List.mem_append_left _ hlock)
    · exact hwf.locks register hmem lock
        (List.mem_append_right _ (List.mem_flatMap.mpr ⟨field, hfield, hlock⟩))
  gates := by
    refine List.rel_append (Layout.forall₂_gates fun dependency hdependency => ?_)
      (Layout.forall₂_gates fun dependency hdependency => ?_)
    · exact hwf.magic register hmem dependency (List.mem_append_left _ hdependency)
    · exact hwf.magic register hmem dependency (List.mem_append_right _
        (List.mem_filterMap.mpr ⟨field, hfield, Option.mem_toList.mp hdependency⟩))

theorem serves_wholeSegment (hinherits : field.Inherits register) :
    (Layout.wholeSegment config register).Serves config register field where
  bits := fun i hin => (BitRange.mem_full_iff (hwf.registerWidth_pos hmem)).mpr
    (hwf.fieldsInside register hmem field hfield i hin)
  type := hinherits.type.symm
  swRead := by rw [hinherits.type, hinherits.swAccess]; rfl
  swWrite := by rw [hinherits.type, hinherits.swAccess]; rfl
  locks := by
    rw [hinherits.lockedBy, List.append_nil]
    exact Layout.forall₂_taps fun lock hlock =>
      hwf.locks register hmem lock (List.mem_append_left _ hlock)
  gates := by
    rw [hinherits.magic, Option.toList_none, List.append_nil]
    exact Layout.forall₂_gates fun dependency hdependency =>
      hwf.magic register hmem dependency (List.mem_append_left _ hdependency)

theorem exists_serves :
    ∃ segment ∈ (Layout.ofRegister config register).segments,
      segment.Serves config register field := by
  simp only [Layout.ofRegister]
  split
  · exact ⟨_, List.mem_map_of_mem hfield, hwf.serves_fieldSegment hmem hfield⟩
  · next hwhole =>
    exact ⟨_, List.mem_singleton_self _, hwf.serves_wholeSegment hmem hfield
      (Register.inherits_of_not_hasOverrides (Bool.eq_false_iff.mpr hwhole) hfield)⟩

theorem field_eq {other : Field} (hother : other ∈ register.fields) {i : Nat}
    (hin : i ∈ field.bits) (hotherIn : i ∈ other.bits) : field = other := by
  by_contra hne
  have hsymm : Std.Symm fun a b : Field => a.bits.Apart b.bits :=
    ⟨fun a b hapart i hboth => hapart i hboth.symm⟩
  have hapart : register.fields.Pairwise fun a b => a.bits.Apart b.bits :=
    hwf.fieldsDisjoint register hmem
  exact hapart.forall hfield hother hne i ⟨hin, hotherIn⟩

end Config.WellFormed

/-- Segments at different positions share no bit. -/
theorem RegisterLayout.Regular.position_eq {register : RegisterLayout}
    (hregister : register.Regular) {j k i : Nat} {segment other : Segment}
    (hsegment : register.segments[j]? = some segment)
    (hother : register.segments[k]? = some other) (hin : i ∈ segment.bits)
    (hotherIn : i ∈ other.bits) : k = j := by
  obtain rfl := hregister.segment_eq (List.mem_of_getElem? hsegment) (List.mem_of_getElem? hother)
    hin hotherIn
  obtain ⟨hk, -⟩ := List.getElem?_eq_some_iff.mp hother
  exact (List.getElem?_inj hk hregister.segments_nodup).mp (hother.trans hsegment.symm)

/-! ### Setters -/

namespace Accessors

variable {config : Config} {register : Register} {field : Field}

theorem low_eq_of_setterBody {mask other : Word} {low otherLow : Nat}
    (hbody : setterBody mask low = setterBody other otherLow) : low = otherLow := by
  simp only [setterBody, Body.set.injEq, List.cons.injEq, Stmt.merge.injEq, Expr.shiftLeft.injEq,
    Expr.decimal.injEq] at hbody
  exact hbody.2.2.1.2

theorem exists_sets_iff (hwf : config.WellFormed) (hmem : register ∈ config.registers)
    (hfield : field ∈ register.fields) :
    (∃ method ∈ registerMethods register, method.Sets field) ↔
      isWritable register field = true := by
  constructor
  · rintro ⟨method, hmethod, -, hbody⟩
    simp only [registerMethods, List.mem_append, List.mem_flatMap, List.mem_cons,
      List.not_mem_nil, or_false] at hmethod
    rcases hmethod with ((rfl | rfl) | ⟨other, hother, hmethod⟩) | (rfl | rfl)
    · cases hbody
    · cases hbody
    · rcases List.mem_cons.mp hmethod with rfl | hsetter
      · cases hbody
      · split at hsetter
        · next hwritable =>
          obtain rfl := List.mem_singleton.mp hsetter
          have hlow := low_eq_of_setterBody hbody
          rwa [hwf.field_eq hmem hfield hother field.bits.low_mem (hlow ▸ other.bits.low_mem)]
        · cases hsetter
    · simp [setterBody] at hbody
    · simp [setterBody] at hbody
  · intro hwritable
    let setter : Method := ⟨some (fieldDoc register field), "set_" ++ fieldStem field.name,
      setterBody (Word.lowMask field.bits.width) field.bits.low⟩
    have hsetter : setter ∈ fieldMethods register field := by
      rw [fieldMethods, if_pos hwritable]
      exact List.mem_cons_of_mem _ (List.mem_singleton_self _)
    exact ⟨setter, List.mem_append_left _ (List.mem_append_right _
      (List.mem_flatMap.mpr ⟨field, hfield, hsetter⟩)), rfl, rfl⟩

end Accessors

/-- The segment that serves a field tells whether the bus writes the field. -/
theorem Segment.Serves.writes_iff {config : Config} {register : Register} {field : Field}
    {segment : Segment} (hserves : segment.Serves config register field)
    (hregular : (Layout.ofRegister config register).Regular)
    (hsegment : segment ∈ (Layout.ofRegister config register).segments) :
    (Layout.ofRegister config register).Writes field ↔
      Accessors.isWritable register field = true := by
  have hwrite : segment.swWrite = Accessors.isWritable register field := hserves.swWrite
  rw [← hwrite]
  constructor
  · rintro ⟨other, hother, hwrites, i, hin, hotherIn⟩
    rwa [hregular.segment_eq hsegment hother (hserves.bits i hin) hotherIn]
  · exact fun hwrites => ⟨segment, hsegment, hwrites, field.bits.low, field.bits.low_mem,
      hserves.bits _ field.bits.low_mem⟩

/-- In a valid register file one segment has the bits of a field, all of them, and the policy of
    the field. So the type of the register has a method that replaces the field exactly if bus
    writes reach it. -/
theorem exists_serves_of_mem_fields (config : Config) (hvalid : (validate config).isValid = true)
    (register : Register) (hregister : register ∈ config.registers)
    (field : Field) (hfield : field ∈ register.fields) :
    (∃ (j : Nat) (segment : Segment),
        (Layout.ofRegister config register).segments[j]? = some segment ∧
        segment.Serves config register field ∧
        ∀ (k : Nat) (other : Segment),
          (Layout.ofRegister config register).segments[k]? = some other →
          (∃ i ∈ field.bits, i ∈ other.bits) → k = j) ∧
      Accessors.RegisterType.ofRegister config register ∈
        (Accessors.Module.ofConfig config).registers ∧
      ((∃ method ∈ (Accessors.RegisterType.ofRegister config register).methods,
          method.Sets field) ↔
        (Layout.ofRegister config register).Writes field) := by
  have hwf := Validate.wellFormed_of_isValid hvalid
  have hregular := hwf.regular_ofRegister hregister
  obtain ⟨segment, hsegment, hserves⟩ := hwf.exists_serves hregister hfield
  refine ⟨?_, ?_, ?_⟩
  · obtain ⟨j, hj⟩ := List.mem_iff_getElem?.mp hsegment
    refine ⟨j, segment, hj, hserves, ?_⟩
    rintro k other hk ⟨i, hin, hotherIn⟩
    exact hregular.position_eq hj hk (hserves.bits i hin) hotherIn
  · rw [Accessors.registers_ofConfig hwf]
    exact List.mem_map_of_mem hregister
  · rw [hserves.writes_iff hregular hsegment]
    exact Accessors.exists_sets_iff hwf hregister hfield

/-- The upper bytes of a register, for software to read only. -/
def Field.upper : Field where
  name := "UPPER"
  bits := ⟨23, 8, by decide, by decide⟩
  swAccess := some .read

/-- A register of three bytes that is held back by a lock. -/
def Register.guarded : Register where
  name := "DATA"
  address := some 4
  fields := [{ name := "LOWER", bits := .full 8 }, .upper]
  lockedBy := [⟨"LOCK", .bit 0⟩]

/-- A register file of the register and its lock. -/
def Config.guarded : Config where
  moduleName := "regs"
  registers := [{ name := "LOCK", address := some 0, type := .lockField }, .guarded]

/-- The upper bytes have a segment with the lock of their register, and no method replaces them. -/
theorem exists_serves_guarded :
    (validate Config.guarded).isValid = true ∧ Register.guarded ∈ Config.guarded.registers ∧
      Field.upper ∈ Register.guarded.fields ∧
      (∃ (j : Nat) (segment : Segment),
        (Layout.ofRegister Config.guarded .guarded).segments[j]? = some segment ∧
          segment.Serves Config.guarded .guarded .upper) ∧
      ¬ (Layout.ofRegister Config.guarded .guarded).Writes .upper := by
  have hvalid : (validate Config.guarded).isValid = true := by decide +kernel
  have hregister : Register.guarded ∈ Config.guarded.registers := by decide +kernel
  have hfield : Field.upper ∈ Register.guarded.fields := by decide +kernel
  obtain ⟨⟨j, segment, hsegment, hserves, -⟩, -, hsets⟩ :=
    exists_serves_of_mem_fields Config.guarded hvalid .guarded hregister .upper hfield
  refine ⟨hvalid, hregister, hfield, ⟨j, segment, hsegment, hserves⟩, fun hwrites => ?_⟩
  have hnone : ∀ method ∈ (Accessors.RegisterType.ofRegister Config.guarded .guarded).methods,
      ¬ method.Sets .upper := by
    decide +kernel
  obtain ⟨method, hmethod, hset⟩ := hsets.mpr hwrites
  exact hnone method hmethod hset

end RegisterFile
