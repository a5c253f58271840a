import RegisterFile.Bus.OptionsText
import RegisterFile.Config

/-!
The canonical text of a register file: compact JSON with every key, numbers in decimal, and types,
hints, protocols, bit ranges and locks by their texts. Its digest names a register file in the
artifacts made from it.
-/

namespace RegisterFile

/-- Writes a magic gate. -/
def MagicDependency.toJson (magic : MagicDependency) : Json :=
  .object [("source", .string magic.source), ("value", .natural magic.value.toNat)]

/-- Writes an optional value as a string or null. -/
def orNullText {α : Type} (text : α → String) (value : Option α) : Json :=
  Json.optionalString (value.map text)

/-- Writes an optional magic gate. -/
def optionalMagic : Option MagicDependency → Json
  | some magic => magic.toJson
  | none => .null

/-- Writes locks by their texts. -/
def locksToJson (locks : List Lock) : Json :=
  .array (locks.map fun lock => .string lock.text)

def Field.toJson (field : Field) : Json :=
  .object [
    ("name", .string field.name),
    ("bit_range", .string field.bits.text),
    ("type", orNullText RegisterType.name field.type),
    ("reset_value", (field.resetValue.map fun value => Json.natural value.toNat).getD .null),
    ("description", .string field.description),
    ("function", .string field.function),
    ("sw_access", orNullText AccessHint.name field.swAccess),
    ("hw_access", orNullText AccessHint.name field.hwAccess),
    ("locked_by", locksToJson field.lockedBy),
    ("magic_dependency", optionalMagic field.magic)]

def Register.toJson (register : Register) : Json :=
  .object [
    ("name", .string register.name),
    ("address", (register.address.map fun address => Json.natural address.toNat).getD .null),
    ("type", .string register.type.name),
    ("reset_value", .natural register.resetValue.toNat),
    ("width", (register.width.map fun width => Json.natural width.toNat).getD .null),
    ("description", .string register.description),
    ("fields", .array (register.fields.map Field.toJson)),
    ("sw_access", orNullText AccessHint.name register.swAccess),
    ("hw_access", orNullText AccessHint.name register.hwAccess),
    ("locked_by", locksToJson register.lockedBy),
    ("magic_dependency", optionalMagic register.magic)]

/-- Writes a register file. -/
def Config.toJson (config : Config) : Json :=
  .object [
    ("module_name", .string config.moduleName),
    ("data_width", .natural config.dataWidth.toNat),
    ("addr_width", .natural config.addrWidth.toNat),
    ("bus_protocol", .string config.protocol.name),
    ("sync_reset", .bool config.syncReset),
    ("byte_enable", .bool config.byteEnable),
    ("num_write_ports", .natural config.writePorts.toNat),
    ("num_read_ports", .natural config.readPorts.toNat),
    ("base_address", .natural config.baseAddress.toNat),
    ("registers", .array (config.registers.map Register.toJson)),
    ("bus_options", config.options.toJson)]

/-- The canonical text. -/
def Config.canonical (config : Config) : String :=
  config.toJson.compact

end RegisterFile
