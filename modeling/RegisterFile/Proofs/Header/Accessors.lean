import RegisterFile.Proofs.Header.Value
import RegisterFile.Proofs.Layout

/-!
The accessors of a field. Reading a field out of a value it has been put into gives what was put
there. Putting it there keeps the other bits of the value as far as the complement of the mask
reaches: that of a mask below `2 ^ 32` has only 32 bits.
-/

namespace RegisterFile

namespace BitRange

variable {range : BitRange}

/-- A mask needs as many bits as its highest one says. -/
theorem toNat_mask_lt_iff (hhigh : range.high < 128) {n : Nat} :
    range.mask.toNat < 2 ^ n ↔ range.high < n := by
  constructor
  · intro hlt
    by_contra hnot
    have hbit := (getLsbD_mask_iff hhigh).mpr (mem_iff.mpr ⟨range.low_le_high, Nat.le_refl _⟩)
    have hclear := Nat.testBit_lt_two_pow
      (Nat.lt_of_lt_of_le hlt (Nat.pow_le_pow_right (by decide) (Nat.le_of_not_lt hnot)))
    rw [BitVec.getLsbD, hclear] at hbit
    cases hbit
  · intro hlt
    apply Nat.lt_pow_two_of_testBit
    intro i hi
    have hbit := range.getLsbD_mask i
    rw [decide_eq_false (show ¬ i ≤ range.high by omega), Bool.and_false] at hbit
    exact hbit

end BitRange

namespace Header

/-- What the names of a field's macros start with. -/
def fieldStem (config : Config) (register : Register) (field : Field) : String :=
  config.moduleName.toUpper ++ "_" ++ register.name.toUpper ++ "_" ++ field.name.toUpper

/-- A header has the mask and the shift of a range of bits and the accessors made from them. -/
structure File.Accesses (file : File) (name : String) (bits : BitRange) : Prop where
  mask : file.constant? (name ++ "_MASK") = Value.constant? bits.mask.toNat .unsigned
  shift : file.constant? (name ++ "_SHIFT") = Value.constant? bits.low .unsigned
  getter : file.definition? (name ++ "_GET") = some (getter name)
  setter : file.definition? (name ++ "_SET") = some (setter name)

/-! ### The macros of a field -/

section

variable {config : Config} {provenance : Provenance} {register : Register} {field : Field}

theorem mem_definitions {definition : Macro} (hregister : register ∈ config.registers)
    (hmem : definition ∈
      registerMacros config (config.moduleName.toUpper ++ "_" ++ register.name.toUpper) register) :
    definition ∈ (File.ofConfig config provenance).definitions := by
  refine List.mem_filterMap.mpr ⟨.define definition, ?_, rfl⟩
  apply List.mem_append_right
  refine List.mem_flatMap.mpr ⟨register, hregister, ?_⟩
  exact List.mem_append_right _ (List.mem_map_of_mem hmem)

theorem fieldMacros_subset {stem : String} (hfield : field ∈ register.fields) :
    fieldMacros stem (config.registerWidth register).toNat field ⊆
      registerMacros config stem register := by
  intro definition hmem
  apply List.mem_cons_of_mem
  apply List.mem_append_right
  have hfields : register.fields.isEmpty = false := by
    cases hempty : register.fields with
    | nil =>
      rw [hempty] at hfield
      cases hfield
    | cons => rfl
  rw [positions, hfields, if_neg (by decide)]
  exact List.mem_flatMap.mpr ⟨field, hfield, hmem⟩

/-- The mask of a field of a narrow register is written with the suffix `U`. -/
theorem fieldMacros_of_narrow {stem : String} {width : Nat} (hwidth : width ≤ maxConstantWidth) :
    fieldMacros stem width field =
      [⟨stem ++ "_" ++ field.name.toUpper ++ "_MASK", [],
          .hex (Numeral.hexDigitCount width) field.bits.mask .unsigned⟩,
        ⟨stem ++ "_" ++ field.name.toUpper ++ "_SHIFT", [], .decimal field.bits.low⟩,
        getter (stem ++ "_" ++ field.name.toUpper),
        setter (stem ++ "_" ++ field.name.toUpper)] := by
  rw [fieldMacros, position, constants, if_pos hwidth, if_pos hwidth]
  rfl

/-- A header whose macros are each defined once accesses every field of a narrow register. -/
theorem accesses_ofConfig
    (hunique : ((File.ofConfig config provenance).definitions.map Macro.name).Nodup)
    (hregister : register ∈ config.registers) (hfield : field ∈ register.fields)
    (hwidth : (config.registerWidth register).toNat ≤ maxConstantWidth) :
    (File.ofConfig config provenance).Accesses (fieldStem config register field) field.bits := by
  have hdefined : ∀ definition ∈ fieldMacros
      (config.moduleName.toUpper ++ "_" ++ register.name.toUpper)
      (config.registerWidth register).toNat field,
      (File.ofConfig config provenance).definition? definition.name = some definition :=
    fun definition hmem =>
      File.definition?_of_mem hunique (mem_definitions hregister (fieldMacros_subset hfield hmem))
  rw [fieldMacros_of_narrow hwidth] at hdefined
  simp only [List.forall_mem_cons] at hdefined
  obtain ⟨hmask, hshift, hgetter, hsetter, -⟩ := hdefined
  refine ⟨?_, ?_, hgetter, hsetter⟩
  · rw [File.constant?, fieldStem, hmask]
    rfl
  · rw [File.constant?, fieldStem, hshift]
    rfl

end

/-! ### What the accessors compute -/

namespace File.Accesses

variable {file : File} {name : String} {bits : BitRange}

/-- The mask as a value: its bits are those of the range, and it is narrow if they all are. -/
theorem exists_mask (haccesses : file.Accesses name bits) (hhigh : bits.high < 64) :
    ∃ mask, file.constant? (name ++ "_MASK") = some mask ∧
      (∀ i, mask.bit i = decide (i ∈ bits)) ∧ mask.width = if bits.high < 32 then 32 else 64 := by
  have hnumber : bits.mask.toNat < 2 ^ 64 := (BitRange.toNat_mask_lt_iff (by omega)).mpr hhigh
  obtain ⟨mask, hmask, hvalue, hwidth⟩ := Value.constant?_unsigned hnumber
  refine ⟨mask, haccesses.mask.trans hmask, fun i => ?_, ?_⟩
  · rw [Value.bit, BitVec.getLsbD, hvalue]
    by_cases hi : i < 128
    · exact Bool.eq_iff_iff.mpr ((BitRange.getLsbD_mask_iff hi).trans decide_eq_true_iff.symm)
    · rw [decide_eq_false fun hmem => by have := (BitRange.mem_iff.mp hmem).2; omega]
      exact BitVec.getLsbD_of_ge _ _ (Nat.le_of_not_lt hi)
  · rw [hwidth]
    simp only [BitRange.toNat_mask_lt_iff (show bits.high < 128 by omega)]

theorem exists_shift (haccesses : file.Accesses name bits) (hhigh : bits.high < 64) :
    ∃ shift, file.constant? (name ++ "_SHIFT") = some shift ∧ shift.bits.toNat = bits.low := by
  have hlow := bits.low_le_high
  obtain ⟨shift, hshift, hvalue, -⟩ :=
    Value.constant?_unsigned (show bits.low < 2 ^ 64 by omega)
  exact ⟨shift, haccesses.shift.trans hshift, hvalue⟩

/-- The getter gives the bits of the range, right-aligned. -/
theorem call_getter (haccesses : file.Accesses name bits) (hhigh : bits.high < 64)
    (v : BitVec 64) :
    ∃ get, file.call? (name ++ "_GET") [.ofBits v] = some (.ofBits get) ∧
      ∀ i, get.getLsbD i = (decide (i < bits.width) && v.getLsbD (bits.low + i)) := by
  obtain ⟨mask, hmask, hbits, hwidth⟩ := haccesses.exists_mask hhigh
  obtain ⟨shift, hshift, hamount⟩ := haccesses.exists_shift hhigh
  have hwide : ((Value.ofBits v).and mask).width = 64 := by
    rw [Value.width_and, Value.width_ofBits, hwidth]
    split <;> rfl
  have hlow := bits.low_le_high
  have hroom : shift.bits.toNat < ((Value.ofBits v).and mask).width := by omega
  obtain ⟨masked, hmasked, hmaskedWidth, hmaskedBits⟩ := Value.exists_shiftRight hroom
  have hcall : file.call? (name ++ "_GET") [.ofBits v] = some masked := by
    rw [File.call?, haccesses.getter]
    simpa [Header.getter, Expr.value?, hmask, hshift] using hmasked
  obtain ⟨get, rfl, hget⟩ := Value.exists_ofBits (hmaskedWidth.trans hwide)
  refine ⟨get, hcall, fun i => ?_⟩
  have hinside : (bits.low + i ∈ bits) = (i < bits.width) := by
    rw [BitRange.mem_iff, BitRange.width, eq_iff_iff]
    omega
  rw [hget, hmaskedBits, hamount, Value.bit_and, Value.bit_ofBits, hbits, Bool.and_comm]
  simp only [hinside]

/-- The setter puts a value into the range. It keeps the other bits, but from bit 32 on only those
    that the type of the mask has. -/
theorem call_setter (haccesses : file.Accesses name bits) (hhigh : bits.high < 64)
    (v x : BitVec 64) :
    ∃ set, file.call? (name ++ "_SET") [.ofBits v, .ofBits x] = some (.ofBits set) ∧
      ∀ i, i < 64 → set.getLsbD i =
        if i ∈ bits then x.getLsbD (i - bits.low)
        else v.getLsbD i && (decide (i < 32) || decide (32 ≤ bits.high)) := by
  obtain ⟨mask, hmask, hbits, hwidth⟩ := haccesses.exists_mask hhigh
  obtain ⟨shift, hshift, hamount⟩ := haccesses.exists_shift hhigh
  have hlow := bits.low_le_high
  have hroom : shift.bits.toNat < (Value.ofBits x).width := by
    rw [hamount, Value.width_ofBits]
    omega
  obtain ⟨placed, hplaced, hplacedWidth, hplacedBits⟩ := Value.exists_shiftLeft hroom
  have hcall : file.call? (name ++ "_SET") [.ofBits v, .ofBits x] =
      some (((Value.ofBits v).and mask.complement).or (placed.and mask)) := by
    rw [File.call?, haccesses.setter]
    simp [Header.setter, Expr.value?, List.lookup_cons, hmask, hshift, hplaced]
  have hwide : (((Value.ofBits v).and mask.complement).or (placed.and mask)).width = 64 := by
    simp only [Value.width_or, Value.width_and, Value.width_complement, Value.width_ofBits,
      hplacedWidth, hwidth]
    split <;> rfl
  obtain ⟨set, heq, hset⟩ := Value.exists_ofBits hwide
  refine ⟨set, hcall.trans (congrArg some heq), fun i hi => ?_⟩
  have hkept : decide (i < mask.width) = (decide (i < 32) || decide (32 ≤ bits.high)) := by
    rw [hwidth, ← Bool.decide_or, decide_eq_decide]
    split <;> omega
  rw [hset, Value.bit_or, Value.bit_and, Value.bit_and, Value.bit_complement, Value.bit_ofBits,
    hbits, hkept, hplacedBits, hamount, Value.width_ofBits, Value.bit_ofBits, decide_eq_true hi]
  by_cases hmem : i ∈ bits
  · have hle := (BitRange.mem_iff.mp hmem).1
    simp [hmem, hle]
  · simp [hmem]

end File.Accesses

/-- What is put into a field is read back from it, modulo its width. Outside the field the setter
    keeps every bit if the field reaches bit 32, and clears those from bit 32 on if it does not. -/
theorem accessors_of_isValid {config : Config} (provenance : Provenance)
    (hvalid : (validate config).isValid = true)
    (hunique : ((File.ofConfig config provenance).definitions.map Macro.name).Nodup)
    {register : Register} (hregister : register ∈ config.registers)
    (hwidth : (config.registerWidth register).toNat ≤ 64)
    {field : Field} (hfield : field ∈ register.fields) (v x : BitVec 64) :
    ∃ set get,
      (File.ofConfig config provenance).call? (fieldStem config register field ++ "_SET")
        [.ofBits v, .ofBits x] = some (.ofBits set) ∧
      (File.ofConfig config provenance).call? (fieldStem config register field ++ "_GET")
        [.ofBits set] = some (.ofBits get) ∧
      get.toNat = x.toNat % 2 ^ field.bits.width ∧
      ∀ i < 64, i ∉ field.bits →
        set.getLsbD i = (v.getLsbD i && (decide (i < 32) || decide (32 ≤ field.bits.high))) := by
  have hwf := Validate.wellFormed_of_isValid hvalid
  have haccesses := accesses_ofConfig hunique hregister hfield hwidth
  have hhigh : field.bits.high < 64 :=
    Nat.lt_of_lt_of_le (hwf.fieldsInside register hregister field hfield _
      (BitRange.mem_iff.mpr ⟨field.bits.low_le_high, Nat.le_refl _⟩)) hwidth
  obtain ⟨set, hset, hsetBits⟩ := haccesses.call_setter hhigh v x
  obtain ⟨get, hget, hgetBits⟩ := haccesses.call_getter hhigh set
  refine ⟨set, get, hset, hget, ?_, fun i hi hout => ?_⟩
  · apply Nat.eq_of_testBit_eq
    intro i
    rw [Nat.testBit_mod_two_pow]
    refine (hgetBits i).trans ?_
    by_cases hi : i < field.bits.width
    · have hend := field.bits.low_add_width
      rw [hsetBits _ (by omega), if_pos (BitRange.mem_iff.mpr ⟨by omega, by omega⟩),
        Nat.add_sub_cancel_left]
      rfl
    · rw [decide_eq_false hi, Bool.false_and, Bool.false_and]
  · rw [hsetBits i hi, if_neg hout]

end Header

/-- A field of the lower half of a register of 64 bits. -/
def Field.count : Field where
  name := "COUNT"
  bits := .bit 0

/-- A register of 64 bits with a field in each half. -/
def Register.pair : Register where
  name := "PAIR"
  address := some 0
  fields := [.count, { name := "FLAG", bits := .bit 32 }]

/-- A register file of that register. -/
def Config.pair : Config where
  moduleName := "regs"
  dataWidth := 64
  registers := [.pair]

namespace Header

/-- The counter of the pair is replaced by one. -/
theorem accessors_of_isValid_pair :
    (validate Config.pair).isValid = true ∧
      ((File.ofConfig Config.pair ⟨"regforge", "unspecified", ""⟩).definitions.map
        Macro.name).Nodup ∧
      ∃ set get,
        (File.ofConfig Config.pair ⟨"regforge", "unspecified", ""⟩).call? "REGS_PAIR_COUNT_SET"
          [.ofBits 4, .ofBits 3] = some (.ofBits set) ∧
        (File.ofConfig Config.pair ⟨"regforge", "unspecified", ""⟩).call? "REGS_PAIR_COUNT_GET"
          [.ofBits set] = some (.ofBits get) ∧
        get.toNat = 1 ∧ set.getLsbD 2 = true := by
  have hvalid : (validate Config.pair).isValid = true := by decide +kernel
  have hunique : ((File.ofConfig Config.pair ⟨"regforge", "unspecified", ""⟩).definitions.map
      Macro.name).Nodup := by decide +kernel
  obtain ⟨set, get, hset, hget, hread, hkept⟩ := accessors_of_isValid
    ⟨"regforge", "unspecified", ""⟩ hvalid hunique (List.mem_singleton_self Register.pair)
    (by decide +kernel) (show Field.count ∈ Register.pair.fields from List.mem_cons_self) 4 3
  rw [show fieldStem .pair .pair .count ++ "_SET" = "REGS_PAIR_COUNT_SET" by decide +kernel] at hset
  rw [show fieldStem .pair .pair .count ++ "_GET" = "REGS_PAIR_COUNT_GET" by decide +kernel] at hget
  exact ⟨hvalid, hunique, set, get, hset, hget, hread, hkept 2 (by decide) (by decide)⟩

/-- Writing the counter clears the flag in the other half: the mask of the counter has 32 bits. -/
theorem setter_clears_flag :
    (validate Config.pair).isValid = true ∧ 32 ∉ Field.count.bits ∧
      (BitVec.ofNat 64 (2 ^ 32)).getLsbD 32 = true ∧
      (File.ofConfig Config.pair ⟨"regforge", "unspecified", ""⟩).call? "REGS_PAIR_COUNT_SET"
        [.ofBits (BitVec.ofNat 64 (2 ^ 32)), .ofBits 0] = some (.ofBits 0) := by
  decide +kernel

end Header

end RegisterFile
