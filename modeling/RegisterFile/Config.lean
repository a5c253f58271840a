import RegisterFile.AccessHint
import RegisterFile.Bus.Options
import RegisterFile.Bus.Protocol
import RegisterFile.Lock
import RegisterFile.RegisterType

/-!
The description of a register file. Addresses have 64 bits, widths and bit numbers 32 and values
128; the types hold them to that. A field inherits what it leaves open from its register, and a
register's width is the data width unless it has one of its own.
-/

namespace RegisterFile

/-- Writes are honoured only while the register `source` holds `value`. -/
structure MagicDependency where
  source : String
  value : Word
  deriving DecidableEq

/-- A named run of bits inside a register. -/
structure Field where
  name : String
  bits : BitRange
  /-- The field's own type; without one it has the register's. -/
  type : Option RegisterType := none
  /-- The field's own reset value, right-aligned; without one it has the register's bits. -/
  resetValue : Option Word := none
  description : String := ""
  /-- A functional note, shown behind the description. -/
  function : String := ""
  swAccess : Option AccessHint := none
  hwAccess : Option AccessHint := none
  /-- Locks on top of the register's. -/
  lockedBy : List Lock := []
  /-- A magic gate on top of the register's. -/
  magic : Option MagicDependency := none
  deriving DecidableEq

/-- A memory-mapped register. -/
structure Register where
  name : String
  /-- Its byte address, once it has one. -/
  address : Option UInt64 := none
  /-- The type of every bit that no field overrides. -/
  type : RegisterType := .readWrite
  resetValue : Word := 0
  width : Option UInt32 := none
  description : String := ""
  /-- Its fields in the order of declaration; none stands for one field of full width. -/
  fields : List Field := []
  swAccess : Option AccessHint := none
  hwAccess : Option AccessHint := none
  lockedBy : List Lock := []
  magic : Option MagicDependency := none
  deriving DecidableEq

/-- A register file. -/
structure Config where
  /-- The name of the generated module. -/
  moduleName : String := ""
  dataWidth : UInt32 := 32
  addrWidth : UInt32 := 8
  protocol : Bus.Protocol := .apb
  /-- A synchronous active-high reset instead of an asynchronous active-low one. -/
  syncReset : Bool := false
  /-- Write strobes are honoured byte by byte. -/
  byteEnable : Bool := false
  /-- Write ports, the bus being the first. -/
  writePorts : UInt32 := 1
  /-- Read ports, the bus being the first. -/
  readPorts : UInt32 := 1
  /-- The first address that automatic assignment hands out. -/
  baseAddress : UInt64 := 0
  /-- The registers in the order of declaration. -/
  registers : List Register := []
  options : Bus.Options := {}
  deriving DecidableEq

namespace Field

def typeIn (field : Field) (register : Register) : RegisterType :=
  field.type.getD register.type

/-- The software access hint of the field in its register. -/
def swAccessIn (field : Field) (register : Register) : Option AccessHint :=
  field.swAccess.or register.swAccess

/-- The hardware access hint of the field in its register. -/
def hwAccessIn (field : Field) (register : Register) : Option AccessHint :=
  field.hwAccess.or register.hwAccess

/-- The reset value of the field in its register, right-aligned. -/
def resetIn (field : Field) (register : Register) : Word :=
  match field.resetValue with
  | some value => value &&& Word.lowMask field.bits.width
  | none => (register.resetValue &&& field.bits.mask).takeFrom field.bits.low

/-- Whether the field needs handling apart from the rest of its register: a type, lock, magic gate
    or software hint of its own. -/
def overrides (field : Field) (register : Register) : Bool :=
  field.type.any (· != register.type) || !field.lockedBy.isEmpty || field.magic.isSome ||
    field.swAccess.any fun hint => some hint != register.swAccess

end Field

namespace Register

/-- The first field of a name. -/
def field? (register : Register) (name : String) : Option Field :=
  register.fields.find? fun field => field.name == name

/-- Whether some field overrides what the register says. -/
def hasOverrides (register : Register) : Bool :=
  register.fields.any fun field => field.overrides register

/-- Puts a field's own reset value in its place. -/
def foldReset (value : Word) (field : Field) : Word :=
  match field.resetValue with
  | some reset => Word.overlay field.bits.mask value (reset.placeAt field.bits.low)
  | none => value

/-- The reset value of a register of `width` bits, with those of its fields in their places. -/
def resetAt (register : Register) (width : Nat) : Word :=
  register.fields.foldl foldReset register.resetValue &&& Word.lowMask width

end Register

namespace Config

/-- The first register of a name. -/
def register? (config : Config) (name : String) : Option Register :=
  config.registers.find? fun register => register.name == name

/-- The width of a register in bits. -/
def registerWidth (config : Config) (register : Register) : UInt32 :=
  register.width.getD config.dataWidth

/-- The number of byte lanes of the data bus. -/
def byteLanes (config : Config) : Nat :=
  (config.dataWidth.toNat + 7) / 8

end Config

end RegisterFile
