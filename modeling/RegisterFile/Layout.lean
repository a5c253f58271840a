import RegisterFile.Config

/-!
The resolved view of a register file. A register is cut into segments that share a type, an access
policy and write gates: one for each field if some field overrides its register, and otherwise one
for the whole register. Generated hardware and the behavioural model are both built from this
view, so they agree on which bits a write touches.
-/

namespace RegisterFile

/-- The identifier under which hardware knows a declared name. -/
def ident (name : String) : String :=
  name.toLower

/-- Bits of a register that block a write while one of them is set. -/
structure LockTap where
  register : String
  bits : BitRange
  deriving DecidableEq

/-- Writes pass only while the register, of `width` bits, holds the value. -/
structure MagicGate where
  register : String
  width : UInt32
  value : Word
  deriving DecidableEq

/-- Bits of a register that behave alike. -/
structure Segment where
  /-- The field that the segment is, unless it is the whole register. -/
  field : Option String
  bits : BitRange
  type : RegisterType
  /-- Bus reads return the stored bits. -/
  swRead : Bool
  /-- Bus writes reach the stored bits or the pulse output. -/
  swWrite : Bool
  locks : List LockTap
  gates : List MagicGate
  /-- The flag that a first write sets, for segments that take only one. -/
  writtenFlag : Option String
  /-- The output port, for segments that pulse. -/
  pulsePort : Option String
  deriving DecidableEq

/-- A field that surrounding hardware can reach through ports named after `stem`. -/
structure HwField where
  stem : String
  bits : BitRange
  output : Bool
  input : Bool
  deriving DecidableEq

/-- A register cut into segments. -/
structure RegisterLayout where
  name : String
  ident : String
  address : UInt64
  width : UInt32
  type : RegisterType
  reset : Word
  /-- There is a segment for each field. -/
  sliced : Bool
  segments : List Segment
  hwFields : List HwField
  deriving DecidableEq

/-- A register file cut into segments. -/
structure Layout where
  registers : List RegisterLayout
  deriving DecidableEq

namespace Segment

/-- What a bus write does to the segment. -/
def writeEffect (segment : Segment) : WriteEffect :=
  segment.type.behavior.writeEffect

/-- What a bus read does to the segment, if software can read it. -/
def readEffect (segment : Segment) : Option ReadEffect :=
  if segment.swRead then segment.type.behavior.readEffect else none

/-- Whether something can stop a bus write. -/
def isGated (segment : Segment) : Bool :=
  !segment.locks.isEmpty || !segment.gates.isEmpty || segment.writtenFlag.isSome

/-- A segment whose names start with `stem`. -/
def build (field : Option String) (bits : BitRange) (type : RegisterType)
    (access : Option AccessHint) (locks : List LockTap) (gates : List MagicGate)
    (stem : String) : Segment :=
  let behavior := type.behavior
  { field, bits, type
    swRead := behavior.readable && access.all AccessHint.canRead
    swWrite := behavior.writable && access.all AccessHint.canWrite
    locks, gates
    writtenFlag := if behavior.writeOnce then some s!"{stem}_written" else none
    pulsePort := if behavior.writeEffect.isPulse then some s!"{stem}_pulse" else none }

end Segment

/-- The hardware side of a field, if hardware may do anything with it. -/
def HwField.build? (name : String) (bits : BitRange) : Option AccessHint → Option HwField
  | none => none
  | some access =>
    if access.canRead || access.canWrite then
      some { stem := RegisterFile.ident name, bits, output := access.canRead,
             input := access.canWrite }
    else none

namespace RegisterLayout

/-- The bits that a bus read returns. -/
def readMask (register : RegisterLayout) : Word :=
  (register.segments.filter fun s => s.swRead && !s.writeEffect.isPulse).foldl
    (fun mask s => mask ||| s.bits.mask) 0

/-- All bits of the register. -/
def fullMask (register : RegisterLayout) : Word :=
  Word.lowMask register.width.toNat

/-- Whether bus writes reach anything. -/
def isWritable (register : RegisterLayout) : Bool :=
  register.segments.any Segment.swWrite

/-- Whether a bus read changes anything. -/
def hasReadEffect (register : RegisterLayout) : Bool :=
  register.segments.any fun s => s.readEffect.isSome

end RegisterLayout

namespace Layout

/-- The bits of a lock, if its register and field exist. -/
def tap? (config : Config) (lock : Lock) : Option LockTap := do
  let locker ← config.register? lock.register
  match lock.selector with
  | .bit index => return ⟨RegisterFile.ident locker.name, BitRange.bit index⟩
  | .field name => return ⟨RegisterFile.ident locker.name, (← locker.field? name).bits⟩

/-- The bits of locks; references to what does not exist are passed over. -/
def taps (config : Config) (locks : List Lock) : List LockTap :=
  locks.filterMap (tap? config)

/-- The gate of a magic dependency, if its register exists; the value is cut to its width. -/
def gate? (config : Config) (magic : MagicDependency) : Option MagicGate := do
  let source ← config.register? magic.source
  let width := config.registerWidth source
  return ⟨RegisterFile.ident source.name, width, magic.value &&& Word.lowMask width.toNat⟩

/-- The gates of an optional magic dependency: one or none. -/
def gates (config : Config) (magic : Option MagicDependency) : List MagicGate :=
  (magic.bind (gate? config)).toList

def fieldSegment (config : Config) (register : Register) (field : Field) : Segment :=
  Segment.build (some field.name) field.bits (field.typeIn register) (field.swAccessIn register)
    (taps config register.lockedBy ++ taps config field.lockedBy)
    (gates config register.magic ++ gates config field.magic)
    s!"{ident register.name}_{ident field.name}"

def wholeSegment (config : Config) (register : Register) : Segment :=
  Segment.build none (BitRange.full (config.registerWidth register)) register.type
    register.swAccess (taps config register.lockedBy) (gates config register.magic)
    (ident register.name)

/-- The hardware side of a register: of each field, or of the whole if it has none. -/
def hwFields (config : Config) (register : Register) : List HwField :=
  if register.fields.isEmpty then
    (HwField.build? register.name (BitRange.full (config.registerWidth register))
      register.hwAccess).toList
  else
    register.fields.filterMap fun field =>
      HwField.build? field.name field.bits (field.hwAccessIn register)

/-- The layout of a register; one without an address is placed at zero. -/
def ofRegister (config : Config) (register : Register) : RegisterLayout :=
  let width := config.registerWidth register
  { name := register.name
    ident := RegisterFile.ident register.name
    address := register.address.getD 0
    width
    type := register.type
    reset := register.resetAt width.toNat
    sliced := register.hasOverrides
    segments :=
      if register.hasOverrides then register.fields.map (fieldSegment config register)
      else [wholeSegment config register]
    hwFields := hwFields config register }

/-- The layout of a register file. -/
def ofConfig (config : Config) : Layout :=
  ⟨config.registers.map (ofRegister config)⟩

/-- The first register of a name. -/
def register? (layout : Layout) (name : String) : Option RegisterLayout :=
  layout.registers.find? fun register => register.name == name

/-- The first register at an address. -/
def atAddress? (layout : Layout) (address : UInt64) : Option RegisterLayout :=
  layout.registers.find? fun register => register.address == address

/-- The position of the first register of a name. -/
def position? (layout : Layout) (name : String) : Option Nat :=
  layout.registers.findIdx? fun register => register.name == name

end Layout

end RegisterFile
