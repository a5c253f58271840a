import Mathlib.Algebra.Group.Nat.Defs
import Mathlib.Logic.Relation
import RegisterFile.Hardware.Module

/-!
Well-formed register files, said without the passes that check for it. The statements speak of
names, numbers and bits; `Validate.Accepts` ties them to the report of the validator.
-/

namespace RegisterFile

/-- The bits of a range. -/
instance : Membership Nat BitRange where
  mem range i := range.low ≤ i ∧ i ≤ range.high

theorem BitRange.mem_iff {range : BitRange} {i : Nat} :
    i ∈ range ↔ range.low ≤ i ∧ i ≤ range.high :=
  Iff.rfl

instance (i : Nat) (range : BitRange) : Decidable (i ∈ range) :=
  inferInstanceAs (Decidable (range.low ≤ i ∧ i ≤ range.high))

/-- A letter or underscore and then letters, digits and underscores, all ASCII. -/
def IsIdentifier (name : String) : Prop :=
  ∃ first rest, name.toList = first :: rest ∧ (first.isAlpha ∨ first = '_') ∧
    ∀ c ∈ rest, c.isAlphanum ∨ c = '_'

namespace Register

/-- The locks of a register, its own and those of its fields. -/
def allLocks (register : Register) : List Lock :=
  register.lockedBy ++ register.fields.flatMap Field.lockedBy

/-- The magic gates of a register, its own and those of its fields. -/
def allMagic (register : Register) : List MagicDependency :=
  register.magic.toList ++ register.fields.filterMap Field.magic

/-- A register names another one if a lock or a magic gate refers to it. -/
def Names (register : Register) (target : String) : Prop :=
  (∃ lock ∈ register.allLocks, lock.register = target) ∨
    ∃ magic ∈ register.allMagic, magic.source = target

end Register

/-- A selector picks lock bits: a bit of the register that its own type or a field's makes a lock,
    or a field that is a lock. -/
def LockSelector.Picks (config : Config) (locker : Register) : LockSelector → Prop
  | .bit index =>
    index.toNat < (config.registerWidth locker).toNat ∧
      (locker.type = .lockField ∨
        ∃ field ∈ locker.fields, index.toNat ∈ field.bits ∧ field.typeIn locker = .lockField)
  | .field name => ∃ field, locker.field? name = some field ∧ field.typeIn locker = .lockField

/-- A lock picks lock bits of an existing register. -/
def Lock.Resolves (config : Config) (lock : Lock) : Prop :=
  ∃ locker, config.register? lock.register = some locker ∧ lock.selector.Picks config locker

namespace Config

/-- The register of one name depends on the existing register of another. -/
def DependsOn (config : Config) (name target : String) : Prop :=
  ∃ register ∈ config.registers, register.name = name ∧ register.Names target ∧
    ∃ other ∈ config.registers, other.name = target

/-- The names of the ports to surrounding hardware, register by register. -/
def hardwarePorts (config : Config) : List String :=
  ((Layout.ofConfig config).registers.flatMap Hardware.registerPorts).map Verilog.Port.name

/-- A register's address is there, fits the bus and is aligned where the protocol insists. -/
def Addressed (config : Config) (register : Register) : Prop :=
  ∃ address, register.address = some address ∧ address.toNat < 2 ^ config.addrWidth.toNat ∧
    (config.interface.misalignedIsError = true → config.dataWidth.toNat / 8 ∣ address.toNat)

/-- What a register file has to satisfy to be generated. -/
structure WellFormed (config : Config) : Prop where
  moduleName : IsIdentifier config.moduleName
  dataWidth : 8 ∣ config.dataWidth.toNat ∧ 8 ≤ config.dataWidth.toNat ∧
    config.dataWidth.toNat ≤ 128
  addrWidth : 1 ≤ config.addrWidth.toNat ∧ config.addrWidth.toNat ≤ 64
  writePorts : 1 ≤ config.writePorts.toNat
  readPorts : 1 ≤ config.readPorts.toNat
  registerWidth : ∀ register ∈ config.registers, ∀ width, register.width = some width →
    1 ≤ width.toNat ∧ width.toNat ≤ config.dataWidth.toNat
  registerName : ∀ register ∈ config.registers, IsIdentifier register.name
  fieldName : ∀ register ∈ config.registers, ∀ field ∈ register.fields, IsIdentifier field.name
  /-- Names of registers differ in more than the case of letters. -/
  registersDistinct : (config.registers.map fun register => ident register.name).Nodup
  /-- So do the names of fields in one register. -/
  fieldsDistinct : ∀ register ∈ config.registers,
    (register.fields.map fun field => ident field.name).Nodup
  addressed : ∀ register ∈ config.registers, config.Addressed register
  addressesDistinct : (config.registers.map Register.address).Nodup
  fieldsInside : ∀ register ∈ config.registers, ∀ field ∈ register.fields,
    ∀ i ∈ field.bits, i < (config.registerWidth register).toNat
  fieldsDisjoint : ∀ register ∈ config.registers,
    register.fields.Pairwise fun a b => ∀ i, ¬ (i ∈ a.bits ∧ i ∈ b.bits)
  locks : ∀ register ∈ config.registers, ∀ lock ∈ register.allLocks, lock.Resolves config
  magic : ∀ register ∈ config.registers, ∀ magic ∈ register.allMagic,
    ∃ source ∈ config.registers, source.name = magic.source
  acyclic : ∀ name, ¬ Relation.TransGen config.DependsOn name name
  portsDistinct : config.hardwarePorts.Nodup
  waitStates : config.protocol = .apb → config.options.waitStates.toNat ≤ 15

end Config

end RegisterFile
