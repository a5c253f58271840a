import RegisterFile.Bus.OptionsText
import RegisterFile.Document.Entry

/-!
Writing documents. Every key is written, under its first name and in the order of declaration;
numbers and texts stay as they were given, and what is absent is null.
-/

namespace RegisterFile.Document

/-- A value that may be absent. -/
def orNull {α : Type} (write : α → Json) : Option α → Json
  | some a => write a
  | none => .null

def Literal.toJson : Literal → Json
  | number n => .natural n.toNat
  | text content => .string content

/-- Writes a bit range. -/
def BitsEntry.toJson : BitsEntry → Json
  | bit n => .natural n.toNat
  | pair high low => .array [high.toJson, low.toJson]
  | text content => .string content

/-- Writes lock references. -/
def LocksEntry.toJson : LocksEntry → Json
  | one reference => .string reference
  | many references => .array (references.map .string)

/-- Writes a magic gate. -/
def MagicEntry.toJson (entry : MagicEntry) : Json :=
  .object [("source", .string entry.source), ("value", entry.value.toJson)]

def FieldEntry.members (entry : FieldEntry) : List (String × Json) :=
  [("name", .string entry.name),
    ("bit_range", entry.bits.toJson),
    ("type", orNull .string entry.type),
    ("reset_value", orNull Literal.toJson entry.resetValue),
    ("description", .string entry.description),
    ("function", .string entry.function),
    ("sw_access", orNull .string entry.swAccess),
    ("hw_access", orNull .string entry.hwAccess),
    ("locked_by", orNull LocksEntry.toJson entry.lockedBy),
    ("magic_dependency", orNull MagicEntry.toJson entry.magic)]

/-- Writes an entry of the field list. -/
def FlatFieldEntry.toJson (entry : FlatFieldEntry) : Json :=
  .object (("register", .string entry.register) :: entry.field.members)

def RegisterEntry.toJson (entry : RegisterEntry) : Json :=
  .object [
    ("name", .string entry.name),
    ("address", orNull Literal.toJson entry.address),
    ("type", orNull .string entry.type),
    ("reset_value", orNull Literal.toJson entry.resetValue),
    ("width", orNull Literal.toJson entry.width),
    ("description", .string entry.description),
    ("sw_access", orNull .string entry.swAccess),
    ("hw_access", orNull .string entry.hwAccess),
    ("locked_by", orNull LocksEntry.toJson entry.lockedBy),
    ("magic_dependency", orNull MagicEntry.toJson entry.magic),
    ("fields", .array (entry.fields.map fun field => .object field.members))]

def LockRelationEntry.toJson (entry : LockRelationEntry) : Json :=
  .object [("locker", .string entry.locker), ("locked", .string entry.locked)]

def toJson (document : Document) : Json :=
  .object [
    ("module_name", .string document.moduleName),
    ("data_width", .natural document.dataWidth.toNat),
    ("addr_width", .natural document.addrWidth.toNat),
    ("bus_protocol", orNull .string document.protocol),
    ("sync_reset", .bool document.syncReset),
    ("byte_enable", .bool document.byteEnable),
    ("num_write_ports", .natural document.writePorts.toNat),
    ("num_read_ports", .natural document.readPorts.toNat),
    ("auto_address", .bool document.autoAddress),
    ("base_address", orNull Literal.toJson document.baseAddress),
    ("default_reg_type", orNull .string document.defaultType),
    ("parameters", .object (document.parameters.map fun (name, value) => (name, value.toJson))),
    ("registers", .array (document.registers.map RegisterEntry.toJson)),
    ("fields", .array (document.fields.map FlatFieldEntry.toJson)),
    ("lock_relations", .array (document.lockRelations.map LockRelationEntry.toJson)),
    ("bus_options", document.options.toJson)]

end RegisterFile.Document
