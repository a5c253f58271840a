import Mathlib.Algebra.Group.Nat.Defs
import RegisterFile.Header.File

/-!
What the macros of a header compute. A C value is unsigned and has 32 or 64 bits; an operator
works in the wider type of its operands, except that a shift works in the type of what is shifted
and a complement in that of its operand.
-/

namespace RegisterFile.Header

/-- An unsigned value: the number of bits of its type, and which of them are set. -/
structure Value where
  width : Nat
  bits : BitVec width
  deriving DecidableEq

namespace Value

/-- An operand of 64 bits. -/
def ofBits (bits : BitVec 64) : Value :=
  ⟨64, bits⟩

/-- Bit `i`; there are none past the type. -/
def bit (value : Value) (i : Nat) : Bool :=
  value.bits.getLsbD i

/-- The first type that holds a constant, of those that its suffix allows. No type has more than
    64 bits. -/
def constant? (value : Nat) (suffix : Suffix) : Option Value :=
  if suffix = .unsigned ∧ value < 2 ^ 32 then some ⟨32, BitVec.ofNat 32 value⟩
  else if value < 2 ^ 64 then some ⟨64, BitVec.ofNat 64 value⟩
  else none

def complement (value : Value) : Value :=
  ⟨value.width, ~~~value.bits⟩

def and (left right : Value) : Value :=
  ⟨max left.width right.width, left.bits.setWidth _ &&& right.bits.setWidth _⟩

def or (left right : Value) : Value :=
  ⟨max left.width right.width, left.bits.setWidth _ ||| right.bits.setWidth _⟩

/-- Shifting by as many bits as the type has, or by more, has no meaning. -/
def shiftLeft? (left right : Value) : Option Value :=
  if right.bits.toNat < left.width then some ⟨left.width, left.bits <<< right.bits.toNat⟩ else none

def shiftRight? (left right : Value) : Option Value :=
  if right.bits.toNat < left.width then some ⟨left.width, left.bits >>> right.bits.toNat⟩ else none

variable {left right value : Value} {i : Nat}

theorem bit_of_ge (hi : value.width ≤ i) : value.bit i = false :=
  BitVec.getLsbD_of_ge _ _ hi

theorem bit_setWidth {width : Nat} (hle : value.width ≤ width) :
    (value.bits.setWidth width).getLsbD i = value.bit i := by
  rw [BitVec.getLsbD_setWidth]
  by_cases hi : i < width
  · rw [decide_eq_true hi, Bool.true_and, bit]
  · rw [decide_eq_false hi, Bool.false_and, bit_of_ge (by omega)]

@[simp] theorem bit_and : (left.and right).bit i = (left.bit i && right.bit i) := by
  rw [and, bit, BitVec.getLsbD_and, bit_setWidth (Nat.le_max_left _ _),
    bit_setWidth (Nat.le_max_right _ _)]

@[simp] theorem bit_or : (left.or right).bit i = (left.bit i || right.bit i) := by
  rw [or, bit, BitVec.getLsbD_or, bit_setWidth (Nat.le_max_left _ _),
    bit_setWidth (Nat.le_max_right _ _)]

@[simp] theorem bit_complement :
    value.complement.bit i = (decide (i < value.width) && !value.bit i) :=
  BitVec.getLsbD_not

@[simp] theorem bit_ofBits (bits : BitVec 64) : (ofBits bits).bit i = bits.getLsbD i :=
  rfl

@[simp] theorem width_and : (left.and right).width = max left.width right.width :=
  rfl

@[simp] theorem width_or : (left.or right).width = max left.width right.width :=
  rfl

@[simp] theorem width_complement : value.complement.width = value.width :=
  rfl

@[simp] theorem width_ofBits (bits : BitVec 64) : (ofBits bits).width = 64 :=
  rfl

theorem exists_shiftLeft (hamount : right.bits.toNat < left.width) :
    ∃ value, left.shiftLeft? right = some value ∧ value.width = left.width ∧
      ∀ i, value.bit i = (decide (i < left.width) && !decide (i < right.bits.toNat) &&
        left.bit (i - right.bits.toNat)) :=
  ⟨⟨left.width, left.bits <<< right.bits.toNat⟩, if_pos hamount, rfl,
    fun _ => BitVec.getLsbD_shiftLeft ..⟩

theorem exists_shiftRight (hamount : right.bits.toNat < left.width) :
    ∃ value, left.shiftRight? right = some value ∧ value.width = left.width ∧
      ∀ i, value.bit i = left.bit (right.bits.toNat + i) :=
  ⟨⟨left.width, left.bits >>> right.bits.toNat⟩, if_pos hamount, rfl,
    fun _ => BitVec.getLsbD_ushiftRight ..⟩

/-- A value of 64 bits is an operand. -/
theorem exists_ofBits (hwidth : value.width = 64) :
    ∃ bits, value = ofBits bits ∧ ∀ i, bits.getLsbD i = value.bit i := by
  obtain ⟨width, bits⟩ := value
  cases hwidth
  exact ⟨bits, rfl, fun _ => rfl⟩

/-- A small constant with the suffix `U` has only 32 bits. -/
theorem constant?_unsigned {number : Nat} (hnumber : number < 2 ^ 64) :
    ∃ value, constant? number .unsigned = some value ∧ value.bits.toNat = number ∧
      value.width = if number < 2 ^ 32 then 32 else 64 := by
  by_cases hsmall : number < 2 ^ 32
  · refine ⟨⟨32, BitVec.ofNat 32 number⟩, ?_, Nat.mod_eq_of_lt hsmall, ?_⟩
    · rw [constant?, if_pos ⟨rfl, hsmall⟩]
    · rw [if_pos hsmall]
  · refine ⟨⟨64, BitVec.ofNat 64 number⟩, ?_, Nat.mod_eq_of_lt hnumber, ?_⟩
    · rw [constant?, if_neg fun h => hsmall h.2, if_pos hnumber]
    · rw [if_neg hsmall]

end Value

/-- The value of an expression whose parameters stand for values, as do the macros that it uses. -/
def Expr.value? (names parameters : String → Option Value) : Expr → Option Value
  | hex _ value suffix => Value.constant? value.toNat suffix
  | decimal value => Value.constant? value .unsigned
  | parameter name => parameters name
  | use name => names name
  | complement e => (e.value? names parameters).map Value.complement
  | and left right => do
    return (← left.value? names parameters).and (← right.value? names parameters)
  | or left right => do
    return (← left.value? names parameters).or (← right.value? names parameters)
  | shiftLeft left right => do
    (← left.value? names parameters).shiftLeft? (← right.value? names parameters)
  | shiftRight left right => do
    (← left.value? names parameters).shiftRight? (← right.value? names parameters)

namespace File

/-- The macros that a header defines, in order. -/
def definitions (file : File) : List Macro :=
  file.body.filterMap fun
    | .define definition => some definition
    | _ => none

/-- What a name is defined as. -/
def definition? (file : File) (name : String) : Option Macro :=
  file.definitions.find? fun definition => definition.name == name

/-- The value of a macro without parameters that uses no other macro. -/
def constant? (file : File) (name : String) : Option Value := do
  let definition ← file.definition? name
  if definition.parameters.isEmpty then definition.body.value? (fun _ => none) (fun _ => none)
  else none

/-- The value of a macro that is given arguments. -/
def call? (file : File) (name : String) (arguments : List Value) : Option Value := do
  let definition ← file.definition? name
  if definition.parameters.length = arguments.length then
    definition.body.value? file.constant? ((definition.parameters.zip arguments).lookup ·)
  else none

variable {file : File} {definition : Macro}

/-- A name that is defined once stands for that definition. -/
theorem definition?_of_mem (hunique : (file.definitions.map Macro.name).Nodup)
    (hmem : definition ∈ file.definitions) :
    file.definition? definition.name = some definition := by
  unfold definition?
  generalize file.definitions = definitions at hunique hmem
  induction definitions with
  | nil => cases hmem
  | cons first rest ih =>
    obtain ⟨hnew, hrest⟩ := List.nodup_cons.mp hunique
    rcases List.mem_cons.mp hmem with rfl | hlater
    · exact List.find?_cons_of_pos (beq_self_eq_true definition.name)
    · have hne : first.name ≠ definition.name := fun heq =>
        hnew (heq ▸ List.mem_map_of_mem hlater)
      rw [List.find?_cons_of_neg (by simpa using hne)]
      exact ih hrest hlater

end File

end RegisterFile.Header
