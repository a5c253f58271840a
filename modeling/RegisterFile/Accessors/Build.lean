import RegisterFile.Accessors.Names
import RegisterFile.Accessors.Tokens
import RegisterFile.Config

/-!
The accessor module of a register file. A register described more than once is taken as described
first. A field has a method that reads it, and one that replaces it if bus writes can reach it.
-/

namespace RegisterFile.Accessors

/-- Reads a field: its mask and the number of bits below it. -/
def getterBody (mask : Word) (low : Nat) : Body :=
  .get (.and (.group (.shiftRight .stored (.decimal low))) (.hex mask))

/-- Replaces a field. -/
def setterBody (mask : Word) (low : Nat) : Body :=
  .set
    [.bind "value_masked" (.and (.local "value") (.hex mask)),
      .keep (.not (.group (.shiftLeft (.hex mask) (.decimal low)))),
      .merge (.shiftLeft (.local "value_masked") (.decimal low))]

/-- Whether bus writes reach a field. -/
def isWritable (register : Register) (field : Field) : Bool :=
  (field.typeIn register).behavior.writable &&
    (field.swAccessIn register).all AccessHint.canWrite

/-- The documentation of a field. -/
def fieldDoc (register : Register) (field : Field) : String :=
  if field.description.isEmpty then
    s!"{field.name} [{field.bits.text}] ({(field.typeIn register).name})"
  else field.description

def fieldMethods (register : Register) (field : Field) : List Method :=
  let stem := fieldStem field.name
  let mask := Word.lowMask field.bits.width
  let doc := some (fieldDoc register field)
  ⟨doc, identifier stem, getterBody mask field.bits.low⟩ ::
    (if isWritable register field then
      [⟨doc, "set_" ++ stem, setterBody mask field.bits.low⟩] else [])

def registerMethods (register : Register) : List Method :=
  [⟨none, "new", .make (.wrap .resetValue)⟩, ⟨none, "reset", .change [.put .resetValue]⟩] ++
    register.fields.flatMap (fieldMethods register) ++
    [⟨none, "raw", .get .stored⟩, ⟨none, "set_raw", .set [.put (.local "value")]⟩]

/-- The documentation of a register. -/
def registerDoc (register : Register) : String :=
  if register.description.isEmpty then s!"{register.name} ({register.type.name})"
  else register.description

def RegisterType.ofRegister (config : Config) (register : Register) : RegisterType :=
  let width := (config.registerWidth register).toNat
  { doc := registerDoc register
    name := identifier register.name
    storage := .ofWidth width
    address := register.address.getD 0
    reset := register.resetAt width
    methods := registerMethods register }

/-- The first register of each name that is not `seen` yet. -/
def distinctFrom (seen : List String) : List Register → List Register
  | [] => []
  | register :: rest =>
    if seen.contains register.name then distinctFrom seen rest
    else register :: distinctFrom (register.name :: seen) rest

/-- The first register of each name. -/
def distinct (registers : List Register) : List Register :=
  distinctFrom [] registers

/-- The name of the register file's type, told apart from a register of that name. -/
def fileTypeName (config : Config) : String :=
  let name := config.moduleName.toUpper
  if config.registers.any fun register => register.name == name then name ++ "_FILE"
  else identifier name

/-- The module of a register file. -/
def Module.ofConfig (config : Config) : Module :=
  { name := identifier config.moduleName.toLower
    doc := s!"{config.moduleName} register file ({config.protocol.displayName})"
    fileName := fileTypeName config
    baseAddress := config.baseAddress
    dataWidth := config.dataWidth
    addrWidth := config.addrWidth
    registers := (distinct config.registers).map (RegisterType.ofRegister config) }

/-- The names of the types and methods of a register. -/
def RegisterType.names (register : RegisterType) : List String :=
  register.name :: register.methods.map Method.name

/-- The names of the module, its types and their methods. -/
def Module.names (m : Module) : List String :=
  [m.name, m.fileName] ++ m.registers.flatMap RegisterType.names

/-- The text of the accessor module, unless something in it is left without a name. -/
def text? (config : Config) : Option String :=
  let m := Module.ofConfig config
  if m.names.any isHole then none else some m.text

end RegisterFile.Accessors
