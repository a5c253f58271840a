import RegisterFile.Bus.Select
import RegisterFile.Graph
import RegisterFile.Text.Identifier

/-!
Validation. Structural checks (identifiers, widths, names, addresses, fields) come before semantic
ones (locks, magic gates, dependency cycles, reset values, access, port names, protocol). All
findings are collected; none stops the checks behind it.
-/

namespace RegisterFile.Validate

open Diagnostic (error warning)

/-- The finding of a test that fails. -/
def expect (holds : Bool) (finding : Diagnostic) : Report :=
  if holds then [] else [finding]

/-! ### The file as a whole -/

/-- The data widths that need no warning. -/
def standardDataWidths : List Nat := [8, 16, 32, 64, 128]

/-- The module must have a name. -/
def moduleName (config : Config) : Report :=
  expect (Text.isIdentifier config.moduleName) <|
    error .invalidIdentifier .config
      s!"module name '{config.moduleName}' is not a Verilog identifier"

/-- Whether a data width is possible at all. -/
def isDataWidth (width : Nat) : Bool :=
  width != 0 && width % 8 == 0 && width ≤ 128

/-- The data width must be a possible one, and should be a power of two. -/
def dataWidth (config : Config) : Report :=
  let width := config.dataWidth.toNat
  if isDataWidth width then
    expect (standardDataWidths.contains width) <|
      warning .nonStandardDataWidth .config s!"data_width {width} is not a power of two"
  else
    [error .invalidWidth .config
      s!"data_width must be a multiple of 8 between 8 and 128, got {width}"]

/-- Addresses have one to 64 bits. -/
def addrWidth (config : Config) : Report :=
  let width := config.addrWidth.toNat
  expect (width != 0 && width ≤ 64) <|
    error .invalidWidth .config s!"addr_width must be between 1 and 64, got {width}"

/-- There is a port of each direction. -/
def portCount (name : String) (count : UInt32) : Report :=
  expect (count != 0) <| error .invalidBusOption .config s!"{name} must be at least 1"

/-- A register's own width is not zero and at most the data width. -/
def registerWidth (config : Config) (register : Register) : Report :=
  match register.width with
  | none => []
  | some width =>
    expect (width != 0 && width ≤ config.dataWidth) <|
      error .invalidWidth (.register register.name)
        (s!"register width {width.toNat} must be between 1 and data_width " ++
          s!"({config.dataWidth.toNat})")

/-- The checks of the file as a whole. -/
def file (config : Config) : Report :=
  moduleName config ++ dataWidth config ++ addrWidth config ++
    portCount "num_write_ports" config.writePorts ++
    portCount "num_read_ports" config.readPorts ++
    config.registers.flatMap (registerWidth config)

/-! ### Names -/

/-- The names of a register's fields, of which `seen` are the identifiers of those before. -/
def fieldNames (register : Register) (seen : List String) : List Field → Report
  | [] => []
  | field :: rest =>
    let location := Location.field register.name field.name
    expect (Text.isIdentifier field.name)
      (error .invalidIdentifier location
        s!"field name '{field.name}' is not a Verilog identifier") ++
    expect (!seen.contains (ident field.name))
      (error .duplicateName location
        s!"field '{field.name}' is declared more than once in '{register.name}'") ++
    fieldNames register (ident field.name :: seen) rest

/-- The names of registers and their fields, of which `seen` are the identifiers of the registers
    before. -/
def names (seen : List String) : List Register → Report
  | [] => []
  | register :: rest =>
    let location := Location.register register.name
    expect (Text.isIdentifier register.name)
      (error .invalidIdentifier location
        s!"register name '{register.name}' is not a Verilog identifier") ++
    expect (!seen.contains (ident register.name))
      (error .duplicateName location
        s!"register '{register.name}' is declared more than once") ++
    fieldNames register [] register.fields ++
    names (ident register.name :: seen) rest

/-! ### Addresses -/

/-- The distance of words, in bytes. -/
def stride (config : Config) : Nat :=
  max 1 (config.dataWidth.toNat / 8)

/-- Whether an address has no more bits than the bus. -/
def fitsAddressBits (config : Config) (address : UInt64) : Bool :=
  64 ≤ config.addrWidth.toNat || address.toNat < 1 <<< config.addrWidth.toNat

/-- The checks of an address whose owners before are given, the latest first. -/
def address (config : Config) (owners : List (UInt64 × String)) (name : String)
    (address : UInt64) : Report :=
  let location := Location.register name
  let written := Numeral.hexText address.toNat
  (match owners.lookup address with
    | some other =>
      [error .addressConflict location
        s!"address {written} is used by both '{other}' and '{name}'"]
    | none => []) ++
  expect (fitsAddressBits config address)
    (error .addressOutOfRange location
      s!"address {written} does not fit in {config.addrWidth.toNat} address bits") ++
  expect (address.toNat % stride config == 0)
    ((if config.interface.misalignedIsError then error else warning) .misalignedAddress location
      s!"address {written} is not aligned to {stride config}-byte words")

/-- The addresses of registers. -/
def addresses (config : Config) (owners : List (UInt64 × String)) : List Register → Report
  | [] => []
  | register :: rest =>
    match register.address with
    | none =>
      error .missingAddress (.register register.name)
        s!"register '{register.name}' has no address and auto-address is off" ::
      addresses config owners rest
    | some a =>
      address config owners register.name a ++
        addresses config ((a, register.name) :: owners) rest

/-! ### Fields -/

/-- The finding about a field that leaves its register of `width` bits. -/
def outOfRegister (register : Register) (field : Field) (width : Nat) : Diagnostic :=
  error .fieldOutOfRegisterWidth (.field register.name field.name)
    s!"bits [{field.bits.text}] exceed the {width}-bit register"

/-- A field lies inside its register and apart from those before it. -/
def fieldBits (register : Register) (width : Nat) (before : List Field) (field : Field) :
    Report :=
  let location := Location.field register.name field.name
  expect (field.bits.fitsIn width) (outOfRegister register field width) ++
  before.flatMap fun other =>
    expect (!field.bits.overlaps other.bits) <|
      error .fieldOverlap location
        s!"bits [{field.bits.text}] overlap field '{other.name}' [{other.bits.text}]"

/-- The fields of a register, of which `before` come first. -/
def fieldsFrom (register : Register) (width : Nat) (before : List Field) :
    List Field → Report
  | [] => []
  | field :: rest =>
    fieldBits register width before field ++
      fieldsFrom register width (before ++ [field]) rest

/-- The fields of all registers. -/
def fields (config : Config) : Report :=
  config.registers.flatMap fun register =>
    fieldsFrom register (config.registerWidth register).toNat [] register.fields

/-! ### Locks and magic gates -/

/-- Whether a bit of a register can act as a lock by the types it is declared with. -/
def isLockBit (locker : Register) (index : UInt32) : Bool :=
  locker.type == .lockField ||
    locker.fields.any fun field =>
      field.bits.overlaps (BitRange.bit index) && field.typeIn locker == .lockField

/-- What is wrong with the bits that a lock selects. -/
def selectorProblem? (config : Config) (locker : Register) : LockSelector → Option String
  | .bit index =>
    if !isLockBit locker index then some s!"'{locker.name}' is not a LockField register"
    else if config.registerWidth locker ≤ index then
      some s!"lock bit {index.toNat} is outside '{locker.name}'"
    else none
  | .field name =>
    match locker.field? name with
    | none => some s!"'{locker.name}' has no field '{name}'"
    | some field =>
      if field.typeIn locker == .lockField then none
      else some s!"'{locker.name}.{name}' is not a LockField"

/-- What is wrong with a lock. -/
def lockProblem? (config : Config) (lock : Lock) : Option String :=
  match config.register? lock.register with
  | none => some s!"lock register '{lock.register}' does not exist"
  | some locker => selectorProblem? config locker lock.selector

/-- The findings about locks at one place. -/
def locksAt (config : Config) (location : Location) (locks : List Lock) : Report :=
  (locks.filterMap (lockProblem? config)).map (error .unresolvedLockTarget location)

/-- The locks of registers and fields. -/
def locks (config : Config) : Report :=
  config.registers.flatMap fun register =>
    locksAt config (.register register.name) register.lockedBy ++
      register.fields.flatMap fun field =>
        locksAt config (.field register.name field.name) field.lockedBy

/-- The finding about a magic gate whose register does not exist. -/
def magicUnresolved (location : Location) (magic : MagicDependency) : Diagnostic :=
  error .unresolvedMagicTarget location
    s!"magic source register '{magic.source}' does not exist"

/-- The finding about a magic value that is cut to the width of its register. -/
def magicTruncated (location : Location) (value : Word) (source : Register) (width : Nat) :
    Diagnostic :=
  warning .magicValueTruncated location
    (s!"magic value {Numeral.hexText value.toNat} does not fit in {width}-bit " ++
      s!"'{source.name}' and is truncated")

/-- The findings about a magic gate. -/
def magicGate (config : Config) (location : Location) (magic : MagicDependency) : Report :=
  match config.register? magic.source with
  | none => [magicUnresolved location magic]
  | some source =>
    let width := (config.registerWidth source).toNat
    expect (magic.value &&& ~~~Word.lowMask width == 0)
      (magicTruncated location magic.value source width)

/-- The findings about an optional magic gate. -/
def magicAt (config : Config) (location : Location) (magic : Option MagicDependency) : Report :=
  magic.toList.flatMap (magicGate config location)

/-- The magic gates of registers and fields. -/
def magicGates (config : Config) : Report :=
  config.registers.flatMap fun register =>
    magicAt config (.register register.name) register.magic ++
      register.fields.flatMap fun field =>
        magicAt config (.field register.name field.name) field.magic

/-! ### Dependency cycles -/

/-- The registers that a register names as locks and magic sources. -/
def dependencies (register : Register) : List String :=
  (register.lockedBy ++ register.fields.flatMap Field.lockedBy).map Lock.register ++
    (register.magic.toList ++ register.fields.filterMap Field.magic).map MagicDependency.source

/-- The position that a name stands for: that of the last register of the name. -/
def lastPosition? (registers : List Register) (name : String) : Option Nat :=
  ((List.range registers.length).zip registers).foldl
    (fun found (i, register) => if register.name == name then some i else found) none

/-- For each register the positions of those that it depends on, each once. -/
def dependencyGraph (registers : List Register) : Graph :=
  registers.map fun register =>
    ((dependencies register).filterMap (lastPosition? registers)).eraseDups

/-- The registers to which an arrow still leads when those that nothing depends on have been taken
    away one after the other. -/
def cyclic (graph : Graph) (registers : List Register) : List Register :=
  match graph.eliminate with
  | some rest =>
    if rest.taken < registers.length then
      ((registers.zip rest.inDegrees).filter fun (_, arrows) => 0 < arrows).map Prod.fst
    else []
  | none => []

/-- The finding about registers that depend on each other, along the arrows of a graph. -/
def cyclesAlong (graph : Graph) (registers : List Register) : Report :=
  match cyclic graph registers with
  | [] => []
  | first :: rest =>
    let members := ", ".intercalate ((first :: rest).map Register.name)
    [error .cyclicDependency (.register first.name)
      s!"lock/magic dependencies form a cycle through {members}"]

/-- Locks and magic gates must not depend on each other in a circle. -/
def cycles (config : Config) : Report :=
  cyclesAlong (dependencyGraph config.registers) config.registers

/-! ### Reset values -/

/-- The finding about a reset value that is cut to its bits. -/
def resetTruncated (location : Location) (value : Word) (width : Nat) : Diagnostic :=
  warning .resetValueTruncated location
    s!"reset value {Numeral.hexText value.toNat} does not fit in {width} bits and is truncated"

/-- A reset value fits the bits that it is for. -/
def resetValue (location : Location) (value : Word) (width : Nat) : Report :=
  expect (value &&& ~~~Word.lowMask width == 0) (resetTruncated location value width)

/-- The reset values of registers and fields. -/
def resets (config : Config) : Report :=
  config.registers.flatMap fun register =>
    resetValue (.register register.name) register.resetValue
      (config.registerWidth register).toNat ++
    register.fields.flatMap fun field =>
      field.resetValue.toList.flatMap fun value =>
        resetValue (.field register.name field.name) value
          field.bits.width32.toNat

/-! ### Access -/

/-- Whether hints leave neither software nor hardware any access. -/
def isUnused (swAccess hwAccess : Option AccessHint) : Bool :=
  swAccess == some .none && (hwAccess == none || hwAccess == some .none)

/-- Registers and fields that nothing can access. -/
def usage (register : Register) : Report :=
  if register.fields.isEmpty then
    expect (!isUnused register.swAccess register.hwAccess) <|
      warning .unusedField (.register register.name)
        "neither software nor hardware can access this register"
  else
    register.fields.flatMap fun field =>
      expect (!isUnused (field.swAccessIn register) (field.hwAccessIn register)) <|
        warning .unusedField (.field register.name field.name)
          "neither software nor hardware can access this field"

/-- Several write ports can meet at one register of a layout. -/
def writeCollisionsIn (config : Config) (layout : Layout) : Report :=
  expect (!(1 < config.writePorts && layout.registers.any RegisterLayout.isWritable)) <|
    warning .multiPortWriteCollision .config
      (s!"{config.writePorts.toNat} write ports can target the same register in one cycle; " ++
        "the lowest port index wins")

/-- Several write ports can meet at one register. -/
def writeCollisions (config : Config) : Report :=
  writeCollisionsIn config (Layout.ofConfig config)

/-! ### Port names -/

/-- The ports that a register adds to the module. -/
def portNames (register : RegisterLayout) : List String :=
  (register.hwFields.flatMap fun hw =>
    (if hw.output then [s!"{hw.stem}_o"] else []) ++
    (if hw.input then [s!"{hw.stem}_i", s!"{hw.stem}_we"] else [])) ++
  register.segments.filterMap Segment.pulsePort

/-- Port names and the registers of a layout that they are generated for, in order. -/
def portOwners (layout : Layout) : List (String × String) :=
  layout.registers.flatMap fun register =>
    (portNames register).map fun port => (port, register.name)

/-- Port names and the registers that they are generated for, in order. -/
def ownedPorts (config : Config) : List (String × String) :=
  portOwners (Layout.ofConfig config)

/-- Each port name is generated once; `owners` are those before, the latest first. -/
def portsFrom (owners : List (String × String)) : List (String × String) → Report
  | [] => []
  | (port, register) :: rest =>
    (match owners.lookup port with
      | some previous =>
        [error .duplicateName (.register register)
          s!"port '{port}' is generated for both '{previous}' and '{register}'"]
      | none => []) ++
    portsFrom ((port, register) :: owners) rest

/-- Whether the data width is one that the findings about the protocol are for. -/
def hasBusWidth (config : Config) : Bool :=
  0 < config.dataWidth.toNat && config.dataWidth.toNat ≤ 128

/-- The findings about the protocol, for data widths that a bus can have. -/
def protocol (config : Config) : Report :=
  if hasBusWidth config then Bus.findings config else []

end RegisterFile.Validate

namespace RegisterFile

/-- All findings about a register file, in the order of the checks. -/
def validate (config : Config) : Report :=
  Validate.file config ++ Validate.names [] config.registers ++
    Validate.addresses config [] config.registers ++ Validate.fields config ++
    Validate.locks config ++ Validate.magicGates config ++ Validate.cycles config ++
    Validate.resets config ++ config.registers.flatMap Validate.usage ++
    Validate.writeCollisions config ++ Validate.portsFrom [] (Validate.ownedPorts config) ++
    Validate.protocol config

end RegisterFile
