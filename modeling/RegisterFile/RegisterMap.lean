import RegisterFile.Bus.Select
import RegisterFile.Provenance
import RegisterFile.Text.Blank

/-!
The register map: a Markdown document with an overview, the memory map by address, and a section
for each register in the order of declaration.
-/

namespace RegisterFile.RegisterMap

/-- Vertical bars that do not end a table cell. -/
def escapeBars (cs : List Char) : List Char :=
  cs.flatMap fun c => if c = '|' then ['\\', '|'] else [c]

/-- A description as a table cell: one line in which no bar ends the cell. -/
def cellText (text : String) : String :=
  String.ofList (escapeBars (Text.onOneLine text).toList)

/-- A row of a table. -/
def row (cells : List String) : String :=
  "| " ++ " | ".intercalate cells ++ " |"

/-- The line between the head and the rows of a table. -/
def separator (columns : Nat) : String :=
  "|" ++ String.join (List.replicate columns "---|")

/-- The lines of a table. -/
def table (head : List String) (rows : List (List String)) : List String :=
  row head :: separator head.length :: rows.map row

/-- How the overview describes the reset. -/
def resetText (sync : Bool) : String :=
  if sync then "synchronous, active-high `rst`" else "asynchronous, active-low `rst_n`"

/-- What holds for the whole register file. -/
def overview (config : Config) : List String :=
  ["## Overview", ""] ++
    table ["Property", "Value"]
      [["Bus protocol", config.protocol.displayName],
        ["Data width", s!"{config.dataWidth.toNat} bits"],
        ["Address width", s!"{config.addrWidth.toNat} bits"],
        ["Reset", resetText config.syncReset],
        ["Byte enables", if config.byteEnable then "yes" else "no"],
        ["Read latency", s!"{config.interface.readLatency} cycle(s)"],
        ["Error response", config.interface.errorEncoding],
        ["Ports", s!"{config.writePorts.toNat} write, {config.readPorts.toNat} read"]] ++ [""]

/-- The address of a register, zero if it has none. -/
def addressText (config : Config) (register : Register) : String :=
  Numeral.paddedHexText config.addrWidth.toNat (register.address.getD 0).toNat

/-- The reset value of a register. -/
def registerReset (config : Config) (register : Register) : String :=
  let width := (config.registerWidth register).toNat
  Numeral.paddedHexText width (register.resetAt width).toNat

/-- The registers by address; those at one address keep their order. -/
def byAddress (registers : List Register) : List Register :=
  registers.mergeSort fun a b => a.address.getD 0 ≤ b.address.getD 0

/-- A register's row of the memory map. -/
def memoryRow (config : Config) (register : Register) : List String :=
  [addressText config register, s!"[{register.name}](#{register.name.toLower})",
    register.type.name, registerReset config register, cellText register.description]

def memoryMap (config : Config) : List String :=
  ["## Memory map", ""] ++
    (if config.registers.isEmpty then ["No registers."]
      else table ["Address", "Register", "Type", "Reset", "Description"]
        ((byAddress config.registers).map (memoryRow config))) ++ [""]

/-- The bits of a field. -/
def bitsText (bits : BitRange) : String :=
  if bits.isSingle then bits.text else bits.select

/-- The description of a field with its functional note in parentheses. -/
def fieldText (field : Field) : String :=
  let description := Text.trimmed field.description
  let function := Text.trimmed field.function
  if function.isEmpty then description
  else if description.isEmpty then function
  else description ++ " (" ++ function ++ ")"

/-- A field's row of its register's table. -/
def fieldRow (register : Register) (field : Field) : List String :=
  [bitsText field.bits, field.name, (field.typeIn register).name,
    Numeral.paddedHexText field.bits.width (field.resetIn register).toNat,
    cellText (fieldText field)]

/-- The row of a register that has no fields. -/
def wholeRow (config : Config) (register : Register) : List String :=
  [s!"[{(config.registerWidth register).toNat - 1}:0]", register.name, register.type.name,
    registerReset config register, cellText register.description]

def lockLine (locks : List Lock) : List String :=
  if locks.isEmpty then []
  else ["- **Locked by:** " ++ ", ".intercalate (locks.map fun lock => "`" ++ lock.text ++ "`")]

def magicLine (magic : MagicDependency) : String :=
  s!"- **Writable when:** `{magic.source}` holds " ++
    "`0x" ++ String.ofList (Numeral.HEX magic.value.toNat) ++ "`"

/-- The description of a register as a paragraph, unless it is empty. -/
def paragraph (description : String) : List String :=
  if description.isEmpty then [] else [Text.trimmed description, ""]

def registerSection (config : Config) (register : Register) : List String :=
  ["## " ++ register.name, "",
    s!"- **Address:** `{addressText config register}`",
    s!"- **Type:** {register.type.name}",
    s!"- **Width:** {(config.registerWidth register).toNat} bits",
    s!"- **Reset value:** `{registerReset config register}`"] ++
    lockLine register.lockedBy ++ register.magic.toList.map magicLine ++ [""] ++
    paragraph register.description ++
    table ["Bits", "Name", "Type", "Reset", "Description"]
      (if register.fields.isEmpty then [wholeRow config register]
        else register.fields.map (fieldRow register)) ++ [""]

def lines (config : Config) (provenance : Provenance) : List String :=
  [s!"# {config.moduleName} register map", "",
    s!"Generated by {provenance.tool} at {provenance.timestamp}.", ""] ++
    overview config ++ memoryMap config ++ config.registers.flatMap (registerSection config)

def text (config : Config) (provenance : Provenance) : String :=
  String.join ((lines config provenance).map (· ++ "\n"))

end RegisterFile.RegisterMap
