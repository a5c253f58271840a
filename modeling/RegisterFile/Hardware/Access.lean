import RegisterFile.Bus.Select

/-!
The ports through which a generated module is written and read. The first of each kind is the bus;
further ones are plain ports without a handshake. Also the names that the parts of a module share.
-/

namespace RegisterFile.Hardware

open Verilog

/-- What a write through a port is made of. -/
structure WritePort where
  enable : Expr
  addr : String
  data : String
  /-- The write strobes, one for each byte, where they are honoured. -/
  strobe : Option String
  deriving DecidableEq

/-- What a read through a port is made of. -/
structure ReadPort where
  enable : Expr
  addr : String
  data : String
  /-- Whether reads of unknown addresses raise an error. -/
  reportsErrors : Bool
  deriving DecidableEq

/-- The numbers of the ports behind the first, where there are `count` in all. -/
def extraPorts (count : UInt32) : List Nat :=
  List.range' 1 (count.toNat - 1)

def busWritePort (config : Config) : WritePort :=
  let signals := config.interface.signals
  ⟨signals.writeEnable, signals.writeAddr, signals.writeData, signals.writeStrobe⟩

/-- A further write port. -/
def extraWritePort (config : Config) (i : Nat) : WritePort :=
  ⟨.signal s!"wp{i}_en", s!"wp{i}_addr", s!"wp{i}_wdata",
    if config.byteEnable then some s!"wp{i}_strb" else none⟩

/-- The write ports behind the bus, in order of falling priority. -/
def extraWritePorts (config : Config) : List WritePort :=
  (extraPorts config.writePorts).map (extraWritePort config)

def busReadPort (config : Config) : ReadPort :=
  let signals := config.interface.signals
  ⟨signals.readEnable, signals.readAddr, signals.readData, true⟩

/-- A further read port. -/
def extraReadPort (i : Nat) : ReadPort :=
  ⟨.signal s!"rp{i}_en", s!"rp{i}_addr", s!"rp{i}_rdata", false⟩

/-- The read ports behind the bus. -/
def extraReadPorts (config : Config) : List ReadPort :=
  (extraPorts config.readPorts).map extraReadPort

/-- The constant that holds a register's address. -/
def addressName (register : RegisterLayout) : String :=
  "ADDR_" ++ register.name.toUpper

/-- The signal that stores the register of an identifier. -/
def storageName (ident : String) : String :=
  ident ++ "_reg"

/-- Bits of a register's storage. -/
def storageBits (register : RegisterLayout) (high low : Nat) : Ref :=
  .part (storageName register.ident) high low register.width.toNat

/-- Whether an address signal holds a register's address. -/
def addressed (addr : String) (register : RegisterLayout) : Expr :=
  .isEqual (.signal addr) (.signal (addressName register))

end RegisterFile.Hardware
