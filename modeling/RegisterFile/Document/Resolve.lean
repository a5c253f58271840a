import RegisterFile.Config
import RegisterFile.Document.Entry
import RegisterFile.Document.Expression

/-!
Resolving a document. Literals and expressions become numbers, names become types, hints and
locks; then the flat field list and the lock list are attached to the registers they name. The
first fault in that order is the one reported.
-/

namespace RegisterFile

namespace Document

/-- A resolved document: the register file, and whether addresses are to be assigned. -/
structure Resolved where
  config : Config
  autoAddress : Bool
  deriving DecidableEq

/-- Reads an optional text, or fails with the error for it. -/
def readOptional {α : Type} (read? : String → Option α) (error : String → Error) :
    Option String → Except Error (Option α)
  | none => .ok none
  | some text =>
    match read? text with
    | some value => .ok (some value)
    | none => .error (error text)

def readType : Option String → Except Error (Option RegisterType) :=
  readOptional RegisterType.ofText? .unknownRegisterType

def readAccess : Option String → Except Error (Option AccessHint) :=
  readOptional AccessHint.ofText? .unknownAccessHint

/-- Reads a lock reference. -/
def readLock (text : String) : Except Error Lock :=
  match Lock.ofText? text with
  | some lock => .ok lock
  | none => .error (.invalidLock text)

/-- Reads the locks of a register or field. -/
def readLocks : Option LocksEntry → Except Error (List Lock)
  | none => .ok []
  | some entry => entry.references.mapM readLock

/-- Applies a reading to a value that may be absent. -/
def optionally {α β : Type} (read : α → Except Error β) : Option α → Except Error (Option β)
  | none => .ok none
  | some a => (read a).map some

/-- A value as a number of 32 bits. -/
def narrow32 (quantity : Quantity) (value : Word) : Except Error UInt32 :=
  if value.toNat < UInt32.size then .ok (UInt32.ofNat value.toNat)
  else .error (.outOfRange quantity value)

/-- A value as a number of 64 bits. -/
def narrow64 (quantity : Quantity) (value : Word) : Except Error UInt64 :=
  if value.toNat < UInt64.size then .ok (UInt64.ofNat value.toNat)
  else .error (.outOfRange quantity value)

/-- The numbers of the two bounds of a bit range. -/
def BitsEntry.bounds (entry : BitsEntry) (parameters : Parameters) : Except Error (Word × Word) :=
  match entry with
  | .bit n => .ok (BitVec.ofNat 128 n.toNat, BitVec.ofNat 128 n.toNat)
  | .pair high low => do return (← high.evaluate parameters, ← low.evaluate parameters)
  | .text content =>
    let inner := Text.unbracket '[' ']' (Text.trim content.toList)
    match Text.splitOnce ':' inner with
    | some (high, low) => do
      return (← expressionValue (String.ofList high) parameters,
        ← expressionValue (String.ofList low) parameters)
    | none => do
      let bit ← expressionValue (String.ofList inner) parameters
      return (bit, bit)

def BitsEntry.resolve (entry : BitsEntry) (parameters : Parameters) : Except Error BitRange := do
  let (high, low) ← entry.bounds parameters
  if high.toNat < bitLimit && low.toNat < bitLimit then
    match BitRange.ofBounds (UInt32.ofNat high.toNat) (UInt32.ofNat low.toNat) with
    | .ok range => .ok range
    | .error _ => .error (.invalidBitRange entry.written)
  else .error (.invalidBitRange entry.written)

/-- The magic gate of an entry. -/
def MagicEntry.resolve (entry : MagicEntry) : Except Error MagicDependency := do
  return { source := entry.source, value := ← entry.value.value }

/-- The field of an entry, without its name around errors. -/
def FieldEntry.build (entry : FieldEntry) (parameters : Parameters) : Except Error Field := do
  let bits ← entry.bits.resolve parameters
  let type ← readType entry.type
  let resetValue ← optionally Literal.value entry.resetValue
  let swAccess ← readAccess entry.swAccess
  let hwAccess ← readAccess entry.hwAccess
  let lockedBy ← readLocks entry.lockedBy
  let magic ← optionally MagicEntry.resolve entry.magic
  return {
    name := entry.name, bits, type, resetValue, description := entry.description,
    function := entry.function, swAccess, hwAccess, lockedBy, magic }

def FieldEntry.resolve (entry : FieldEntry) (parameters : Parameters) : Except Error Field :=
  (entry.build parameters).mapError (.inField entry.name)

/-- The register of an entry, without its name around errors. -/
def RegisterEntry.build (entry : RegisterEntry) (parameters : Parameters)
    (defaultType : RegisterType) : Except Error Register := do
  let address ← optionally (fun a => do narrow64 .address (← a.value)) entry.address
  let type ← readType entry.type
  let resetValue ← optionally Literal.value entry.resetValue
  let width ← optionally (fun w => do narrow32 .width (← w.evaluate parameters)) entry.width
  let swAccess ← readAccess entry.swAccess
  let hwAccess ← readAccess entry.hwAccess
  let lockedBy ← readLocks entry.lockedBy
  let magic ← optionally MagicEntry.resolve entry.magic
  let fields ← entry.fields.mapM fun field => field.resolve parameters
  return {
    name := entry.name, address, type := type.getD defaultType, resetValue := resetValue.getD 0,
    width, description := entry.description, fields, swAccess, hwAccess, lockedBy, magic }

def RegisterEntry.resolve (entry : RegisterEntry) (parameters : Parameters)
    (defaultType : RegisterType) : Except Error Register :=
  (entry.build parameters defaultType).mapError (.inRegister entry.name)

/-- Applies a change to the first element that a test accepts, if there is one. -/
def modifyFirst? {α : Type} (test : α → Bool) (change : α → α) : List α → Option (List α)
  | [] => none
  | a :: rest =>
    if test a then some (change a :: rest) else (modifyFirst? test change rest).map (a :: ·)

/-- Adds a field to the register that its entry names. -/
def attachField (parameters : Parameters) (registers : List Register) (entry : FlatFieldEntry) :
    Except Error (List Register) := do
  let field ← (entry.field.resolve parameters).mapError (.inRegister entry.register)
  let change (register : Register) : Register :=
    { register with fields := register.fields ++ [field] }
  match modifyFirst? (fun register => register.name == entry.register) change registers with
  | some registers => .ok registers
  | none => .error (.unknownRegister entry.register .fieldEntry)

/-- Adds a lock to a register. -/
def lockRegister (lock : Lock) (register : Register) : Register :=
  { register with lockedBy := register.lockedBy ++ [lock] }

/-- Adds a lock to a field. -/
def lockField (lock : Lock) (field : Field) : Field :=
  { field with lockedBy := field.lockedBy ++ [lock] }

/-- Adds a lock to what its entry names: the register of that whole name, else the field behind
    the first dot. -/
def attachLock (registers : List Register) (entry : LockRelationEntry) :
    Except Error (List Register) := do
  let lock ← readLock entry.locker
  let named (name : String) (register : Register) : Bool := register.name == name
  match modifyFirst? (named entry.locked) (lockRegister lock) registers with
  | some registers => .ok registers
  | none =>
    match Text.splitOnce '.' entry.locked.toList with
    | none => .error (.unknownRegister entry.locked .lockRelation)
    | some (registerChars, fieldChars) =>
      let registerName := String.ofList registerChars
      let fieldName := String.ofList fieldChars
      match registers.find? (named registerName) with
      | none => .error (.unknownRegister registerName .lockRelation)
      | some register =>
        match modifyFirst? (fun field => field.name == fieldName) (lockField lock)
            register.fields with
        | none => .error (.unknownField registerName fieldName)
        | some fields =>
          .ok ((modifyFirst? (named registerName)
            (fun register => { register with fields }) registers).getD registers)

/-- Adds the value of a parameter to those of the names before it. -/
def addParameter (known : Parameters) (entry : String × Literal) : Except Error Parameters := do
  return (entry.1, ← entry.2.evaluate known) :: known

end Document

namespace Document

/-- The names that every expression may use: the two widths, each in two spellings. -/
def builtins (document : Document) : Parameters :=
  let dataWidth := BitVec.ofNat 128 document.dataWidth.toNat
  let addrWidth := BitVec.ofNat 128 document.addrWidth.toNat
  [("DATA_WIDTH", dataWidth), ("data_width", dataWidth), ("ADDR_WIDTH", addrWidth),
    ("addr_width", addrWidth)]

/-- The values of all names. Each parameter sees those before it and hides a built-in name. -/
def parameterTable (document : Document) : Except Error Parameters :=
  document.parameters.foldlM addParameter document.builtins

/-- The register file that a document describes. -/
def resolve (document : Document) : Except Error Resolved := do
  let parameters ← document.parameterTable
  let defaultType ← readType document.defaultType
  let protocol ← readOptional Bus.Protocol.ofText? .unknownProtocol document.protocol
  let baseAddress ←
    optionally (fun base => do narrow64 .baseAddress (← base.value)) document.baseAddress
  let registers ← document.registers.mapM fun entry =>
    entry.resolve parameters (defaultType.getD .readWrite)
  let registers ← document.fields.foldlM (attachField parameters) registers
  let registers ← document.lockRelations.foldlM attachLock registers
  return {
    config := {
      moduleName := document.moduleName, dataWidth := document.dataWidth,
      addrWidth := document.addrWidth, protocol := protocol.getD .apb,
      syncReset := document.syncReset, byteEnable := document.byteEnable,
      writePorts := document.writePorts, readPorts := document.readPorts,
      baseAddress := baseAddress.getD 0, registers, options := document.options }
    autoAddress := document.autoAddress }

end Document

end RegisterFile
