import Mathlib
import RegisterFile.Proofs.Slicing.Policy

/-!
What the methods of an accessor module compute. All integers in them have the type that stores the
register, the literals too, which are written without one. The methods of a field are a lens on its
bits: what is put is read back, cut to the width of the field, and nothing else changes.
-/

namespace RegisterFile.Accessors

/-! ### Evaluation -/

/-- What the names in a method stand for. -/
structure Scope (n : Nat) where
  stored : BitVec n
  /-- The reset value as it is written. -/
  reset : Word
  locals : String → Option (BitVec n)

/-- A literal of a type of `n` bits, which must hold its value. -/
def literal? (n value : Nat) : Option (BitVec n) :=
  if value < 2 ^ n then some (BitVec.ofNat n value) else none

/-- A shift by fewer bits than the type has. Any other amount stops the program. -/
def shift? {n : Nat} (shift : BitVec n → Nat → BitVec n) (value : BitVec n) (amount : Nat) :
    Option (BitVec n) :=
  if amount < n then some (shift value amount) else none

/-- The amount of a shift: a literal of a type of its own. -/
def Expr.amount? : Expr → Option Nat
  | decimal value => some value
  | _ => none

/-- The value of an expression, unless a literal is too large or a shift too far. -/
def Expr.value? {n : Nat} (scope : Scope n) : Expr → Option (BitVec n)
  | stored => some scope.stored
  | resetValue => literal? n scope.reset.toNat
  | «local» name => scope.locals name
  | hex value => literal? n value.toNat
  | decimal value => literal? n value
  | and left right => do return (← left.value? scope) &&& (← right.value? scope)
  | shiftLeft left right => do
    shift? BitVec.shiftLeft (← left.value? scope) (← right.amount?)
  | shiftRight left right => do
    shift? BitVec.ushiftRight (← left.value? scope) (← right.amount?)
  | not e => do return ~~~(← e.value? scope)
  | group e => e.value? scope
  | wrap e => e.value? scope

/-- The scope behind a statement. -/
def Stmt.run? {n : Nat} (scope : Scope n) : Stmt → Option (Scope n)
  | bind name value => do
    let value ← value.value? scope
    return { scope with
      locals := fun other => if other = name then some value else scope.locals other }
  | put value => do return { scope with stored := ← value.value? scope }
  | keep value => do return { scope with stored := scope.stored &&& (← value.value? scope) }
  | merge value => do return { scope with stored := scope.stored ||| (← value.value? scope) }

namespace RegisterType

variable (type : RegisterType)

/-- What a method reads out of a stored value. -/
def get? (method : Method) (raw : BitVec type.storage.width) :
    Option (BitVec type.storage.width) :=
  match method.body with
  | .get result => result.value? ⟨raw, type.reset, fun _ => none⟩
  | _ => none

/-- The value that is stored behind a method that is given one. -/
def set? (method : Method) (raw value : BitVec type.storage.width) :
    Option (BitVec type.storage.width) :=
  match method.body with
  | .set body =>
    (body.foldlM Stmt.run?
      ⟨raw, type.reset, fun name => if name = "value" then some value else none⟩).map Scope.stored
  | _ => none

end RegisterType

/-! ### The methods of a field -/

/-- The method that reads a field. -/
def getter (register : Register) (field : Field) : Method :=
  ⟨some (fieldDoc register field), identifier (fieldStem field.name),
    getterBody (Word.lowMask field.bits.width) field.bits.low⟩

/-- The method that replaces a field. -/
def setter (register : Register) (field : Field) : Method :=
  ⟨some (fieldDoc register field), "set_" ++ fieldStem field.name,
    setterBody (Word.lowMask field.bits.width) field.bits.low⟩

/-- The literals in the methods of a field, and the reset value of its register, are in the range
    of the type that they have. -/
structure RegisterType.Fits (type : RegisterType) (field : Field) : Prop where
  mask : (Word.lowMask field.bits.width).toNat < 2 ^ type.storage.width
  placedMask : (Word.lowMask field.bits.width).toNat <<< field.bits.low < 2 ^ type.storage.width
  offset : field.bits.low < type.storage.width
  reset : type.reset.toNat < 2 ^ type.storage.width

/-- Putting a value into a field of a stored one: the field then has the value, cut to its width,
    and the other fields and all bits outside are as before. -/
structure RegisterType.Puts (type : RegisterType) (register : Register) (field : Field)
    (raw value put : BitVec type.storage.width) : Prop where
  stored : type.set? (setter register field) raw value = some put
  read : type.get? (getter register field) put =
    some (BitVec.ofNat type.storage.width (value.toNat % 2 ^ field.bits.width))
  others : ∀ other ∈ register.fields, other ≠ field →
    ∃ got, type.get? (getter register other) raw = some got ∧
      type.get? (getter register other) put = some got
  outside : ∀ i, i ∉ field.bits → put.getLsbD i = raw.getLsbD i

theorem literal?_of_lt {n value : Nat} (hvalue : value < 2 ^ n) :
    literal? n value = some (BitVec.ofNat n value) :=
  if_pos hvalue

theorem shift?_of_lt {n amount : Nat} (shift : BitVec n → Nat → BitVec n) (value : BitVec n)
    (hamount : amount < n) : shift? shift value amount = some (shift value amount) :=
  if_pos hamount

/-- A word as a value of a type of `n` bits. -/
theorem getLsbD_ofNat_toNat {n : Nat} (word : Word) (i : Nat) :
    (BitVec.ofNat n word.toNat).getLsbD i = (decide (i < n) && word.getLsbD i) :=
  BitVec.getLsbD_ofNat n word.toNat i

theorem toNat_lowMask_lt (width : Nat) : (Word.lowMask width).toNat < 2 ^ width := by
  apply Word.FitsIn.toNat_lt
  intro i hi
  rw [Word.getLsbD_lowMask, decide_eq_false (Nat.not_lt.mpr hi), Bool.and_false]

/-- The storage of a register has room for all its bits. -/
theorem le_width_ofWidth {width : Nat} (hwidth : width ≤ 128) :
    width ≤ (Storage.ofWidth width).width := by
  unfold Storage.ofWidth
  split_ifs <;> simp only [Storage.width] <;> omega

theorem Storage.width_le (storage : Storage) : storage.width ≤ 128 := by
  cases storage <;> simp only [Storage.width] <;> omega

section

variable {type : RegisterType} {register : Register} {field : Field}

/-- A field inside the storage has room for its mask, in its place too. -/
theorem fits_of_high_lt (hhigh : field.bits.high < type.storage.width)
    (hreset : type.reset.toNat < 2 ^ type.storage.width) : type.Fits field := by
  have hend := field.bits.low_add_width
  have hpos := field.bits.width_pos
  have hmask := toNat_lowMask_lt field.bits.width
  refine ⟨?_, ?_, by omega, hreset⟩
  · exact hmask.trans_le (Nat.pow_le_pow_right Nat.two_pos (by omega))
  · calc (Word.lowMask field.bits.width).toNat <<< field.bits.low
        = (Word.lowMask field.bits.width).toNat * 2 ^ field.bits.low := Nat.shiftLeft_eq _ _
      _ < 2 ^ field.bits.width * 2 ^ field.bits.low :=
        Nat.mul_lt_mul_of_pos_right hmask (Nat.two_pow_pos _)
      _ = 2 ^ (field.bits.low + field.bits.width) := by rw [← Nat.pow_add, Nat.add_comm]
      _ ≤ 2 ^ type.storage.width := Nat.pow_le_pow_right Nat.two_pos (by omega)

/-- The getter gives the bits of its field, right-aligned. -/
theorem exists_get (hfits : type.Fits field) (hhigh : field.bits.high < type.storage.width)
    (raw : BitVec type.storage.width) :
    ∃ got, type.get? (getter register field) raw = some got ∧
      ∀ i, got.getLsbD i =
        (decide (i < field.bits.width) && raw.getLsbD (field.bits.low + i)) := by
  have hend := field.bits.low_add_width
  have hword := type.storage.width_le
  refine ⟨raw >>> field.bits.low &&&
    BitVec.ofNat type.storage.width (Word.lowMask field.bits.width).toNat, ?_, fun i => ?_⟩
  · simp only [RegisterType.get?, getter, getterBody, Expr.value?, Expr.amount?,
      literal?_of_lt hfits.mask, shift?_of_lt _ _ hfits.offset, Option.bind_eq_bind,
      Option.bind_some, Option.pure_def, BitVec.ushiftRight_eq]
  · rw [BitVec.getLsbD_and, BitVec.getLsbD_ushiftRight, getLsbD_ofNat_toNat, Word.getLsbD_lowMask,
      Bool.and_comm]
    by_cases hi : i < field.bits.width
    · simp [hi, show i < type.storage.width by omega, show i < 128 by omega]
    · simp [hi]

/-- A field that shares no bit with another one cannot tell that it was set. -/
theorem exists_get_eq (hfits : type.Fits field) (hhigh : field.bits.high < type.storage.width)
    {raw put : BitVec type.storage.width}
    (hkept : ∀ i ∈ field.bits, put.getLsbD i = raw.getLsbD i) :
    ∃ got, type.get? (getter register field) raw = some got ∧
      type.get? (getter register field) put = some got := by
  have hend := field.bits.low_add_width
  obtain ⟨got, hgot, hgotBits⟩ := exists_get hfits hhigh raw
  obtain ⟨after, hafter, hafterBits⟩ := exists_get hfits hhigh put
  refine ⟨got, hgot, hafter.trans (congrArg some ?_)⟩
  apply BitVec.eq_of_getLsbD_eq
  intro i _
  rw [hafterBits, hgotBits]
  by_cases hi : i < field.bits.width
  · rw [hkept _ (BitRange.mem_iff.mpr ⟨by omega, by omega⟩)]
  · rw [decide_eq_false hi, Bool.false_and, Bool.false_and]

/-- The setter puts a value into the bits of its field and leaves the others. -/
theorem exists_set (hfits : type.Fits field) (raw value : BitVec type.storage.width) :
    ∃ put, type.set? (setter register field) raw value = some put ∧
      ∀ i < type.storage.width, put.getLsbD i =
        if i ∈ field.bits then value.getLsbD (i - field.bits.low) else raw.getLsbD i := by
  have hend := field.bits.low_add_width
  have hword := type.storage.width_le
  let mask := BitVec.ofNat type.storage.width (Word.lowMask field.bits.width).toNat
  refine ⟨raw &&& ~~~(mask <<< field.bits.low) ||| (value &&& mask) <<< field.bits.low, ?_,
    fun i hi => ?_⟩
  · simp only [RegisterType.set?, setter, setterBody, List.foldlM_cons, List.foldlM_nil, Stmt.run?,
      Expr.value?, Expr.amount?, literal?_of_lt hfits.mask, shift?_of_lt _ _ hfits.offset,
      Option.bind_eq_bind, Option.bind_some, Option.pure_def, Option.map_some, if_true,
      BitVec.shiftLeft_eq, mask]
  · simp only [BitVec.getLsbD_or, BitVec.getLsbD_and, BitVec.getLsbD_not, BitVec.getLsbD_shiftLeft,
      mask, getLsbD_ofNat_toNat, Word.getLsbD_lowMask, decide_eq_true hi, Bool.true_and]
    by_cases hlow : field.bits.low ≤ i
    · have hroom : i - field.bits.low < type.storage.width := by omega
      by_cases hin : i ≤ field.bits.high
      · rw [if_pos (BitRange.mem_iff.mpr ⟨hlow, hin⟩)]
        simp [show ¬ i < field.bits.low by omega, hroom, show i - field.bits.low < 128 by omega,
          show i - field.bits.low < field.bits.width by omega]
      · rw [if_neg fun hmem => hin (BitRange.mem_iff.mp hmem).2]
        simp [show ¬ i - field.bits.low < field.bits.width by omega]
    · rw [if_neg fun hmem => hlow (BitRange.mem_iff.mp hmem).1]
      simp [show i < field.bits.low by omega]

/-- The laws of a lens follow from the bits that the setter puts and the getters take. -/
theorem exists_puts (hfits : ∀ other ∈ register.fields, type.Fits other)
    (hhigh : ∀ other ∈ register.fields, other.bits.high < type.storage.width)
    (hapart : ∀ other ∈ register.fields, other ≠ field → other.bits.Apart field.bits)
    (hfield : field ∈ register.fields) (raw value : BitVec type.storage.width) :
    ∃ put, type.Puts register field raw value put := by
  have hend := field.bits.low_add_width
  have htop := hhigh field hfield
  obtain ⟨put, hput, hbits⟩ := exists_set (hfits field hfield) raw value
  have hkept : ∀ i, i ∉ field.bits → put.getLsbD i = raw.getLsbD i := by
    intro i hout
    by_cases hi : i < type.storage.width
    · rw [hbits i hi, if_neg hout]
    · rw [BitVec.getLsbD_of_ge put i (Nat.le_of_not_lt hi),
        BitVec.getLsbD_of_ge raw i (Nat.le_of_not_lt hi)]
  refine ⟨put, hput, ?_, fun other hother hne => ?_, hkept⟩
  · obtain ⟨got, hgot, hgotBits⟩ := exists_get (hfits field hfield) htop put
    refine hgot.trans (congrArg some ?_)
    apply BitVec.eq_of_getLsbD_eq
    intro i hi
    rw [hgotBits, BitVec.getLsbD_ofNat, Nat.testBit_mod_two_pow, decide_eq_true hi, Bool.true_and]
    by_cases hin : i < field.bits.width
    · rw [hbits _ (by omega), if_pos (BitRange.mem_iff.mpr ⟨by omega, by omega⟩),
        Nat.add_sub_cancel_left]
      rfl
    · rw [decide_eq_false hin, Bool.false_and, Bool.false_and]
  · exact exists_get_eq (hfits other hother) (hhigh other hother) fun i hin =>
      hkept i fun hfieldIn => hapart other hother hne i ⟨hin, hfieldIn⟩

end

/-- The methods of a field are methods of its register's type, the setter if bus writes reach the
    field. -/
theorem mem_methods {config : Config} {register : Register} {field : Field}
    (hfield : field ∈ register.fields) :
    getter register field ∈ (RegisterType.ofRegister config register).methods ∧
      (isWritable register field = true →
        setter register field ∈ (RegisterType.ofRegister config register).methods) := by
  have hmethods : fieldMethods register field ⊆
      (RegisterType.ofRegister config register).methods := fun method hmethod =>
    List.mem_append_left _ (List.mem_append_right _
      (List.mem_flatMap.mpr ⟨field, hfield, hmethod⟩))
  refine ⟨hmethods List.mem_cons_self, fun hwritable => hmethods ?_⟩
  rw [fieldMethods, if_pos hwritable]
  exact List.mem_cons_of_mem _ (List.mem_singleton_self _)

/-- In a valid register file the methods of each field are a lens on its bits: whatever is stored
    and whatever is put, no literal is out of range and no shift stops the program. -/
theorem lens_of_isValid (config : Config) (hvalid : (validate config).isValid = true)
    (register : Register) (hregister : register ∈ config.registers)
    (field : Field) (hfield : field ∈ register.fields) :
    RegisterType.ofRegister config register ∈ (Module.ofConfig config).registers ∧
      (∀ other ∈ register.fields,
        getter register other ∈ (RegisterType.ofRegister config register).methods ∧
        (isWritable register other = true →
          setter register other ∈ (RegisterType.ofRegister config register).methods)) ∧
      (RegisterType.ofRegister config register).Fits field ∧
      ∀ raw value, ∃ put,
        (RegisterType.ofRegister config register).Puts register field raw value put := by
  have hwf := Validate.wellFormed_of_isValid hvalid
  have hregular := hwf.regular_ofRegister hregister
  have hstorage : (config.registerWidth register).toNat ≤
      (RegisterType.ofRegister config register).storage.width :=
    le_width_ofWidth hregular.width_le
  have hreset : (RegisterType.ofRegister config register).reset.toNat <
      2 ^ (RegisterType.ofRegister config register).storage.width :=
    (hregular.reset.mono hstorage).toNat_lt
  have hhigh : ∀ other ∈ register.fields,
      other.bits.high < (RegisterType.ofRegister config register).storage.width := by
    intro other hother
    have hinside : other.bits.Inside (config.registerWidth register).toNat :=
      hwf.fieldsInside register hregister other hother
    exact hinside.high_lt.trans_le hstorage
  have hfits : ∀ other ∈ register.fields,
      (RegisterType.ofRegister config register).Fits other :=
    fun other hother => fits_of_high_lt (hhigh other hother) hreset
  refine ⟨?_, fun other hother => mem_methods hother, hfits field hfield, fun raw value => ?_⟩
  · rw [registers_ofConfig hwf]
    exact List.mem_map_of_mem hregister
  · refine exists_puts hfits hhigh (fun other hother hne i hboth => ?_) hfield raw value
    exact hne (hwf.field_eq hregister hother hfield hboth.1 hboth.2)

end RegisterFile.Accessors

namespace RegisterFile

/-- The upper bits of a register of nine bits. -/
def Field.gain : Field where
  name := "GAIN"
  bits := ⟨8, 1, by decide, by decide⟩

/-- A register with fewer bits than the integer that stores it. -/
def Register.narrow : Register where
  name := "AMP"
  address := some 0
  width := some 9
  fields := [{ name := "MUTE", bits := .bit 0 }, .gain]

/-- A register file of that register. -/
def Config.narrow : Config where
  moduleName := "regs"
  registers := [.narrow]

namespace Accessors

/-- A value of nine bits is put into a field of eight; the bits past the register are kept. -/
theorem lens_of_isValid_narrow :
    (validate Config.narrow).isValid = true ∧ Register.narrow ∈ Config.narrow.registers ∧
      Field.gain ∈ Register.narrow.fields ∧
      (RegisterType.ofRegister .narrow .narrow).storage = .bits16 ∧
      (RegisterType.ofRegister .narrow .narrow).Puts .narrow .gain 0xFFFF 0x1AB 0xFF57 := by
  have hvalid : (validate Config.narrow).isValid = true := by decide +kernel
  have hregister : Register.narrow ∈ Config.narrow.registers := List.mem_singleton_self _
  have hfield : Field.gain ∈ Register.narrow.fields :=
    List.mem_cons_of_mem _ (List.mem_singleton_self _)
  obtain ⟨-, -, -, hputs⟩ := lens_of_isValid .narrow hvalid .narrow hregister .gain hfield
  obtain ⟨put, hput⟩ := hputs 0xFFFF 0x1AB
  have hstored : (RegisterType.ofRegister .narrow .narrow).set? (setter .narrow .gain)
      0xFFFF 0x1AB = some 0xFF57 := by decide +kernel
  obtain rfl : put = 0xFF57 := Option.some.inj (hput.stored.symm.trans hstored)
  exact ⟨hvalid, hregister, hfield, rfl, hput⟩

end Accessors

end RegisterFile
