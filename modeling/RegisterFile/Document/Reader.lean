import RegisterFile.Bus.OptionsText
import RegisterFile.Document.Entry
import RegisterFile.Json.Reader
import RegisterFile.Yaml.Reader

/-!
Reading documents from document trees. Only the shape is checked: which keys there are, and what
kind of value each of them has. An entry of the field list is set aside as a whole before its
field is read, so strings in it must be strings in their own right.
-/

namespace RegisterFile.Document

/-- A literal: a number below `2 ^ 64` or a string. -/
def Literal.ofNode? (node : Node) : Option Literal :=
  match node.kind? with
  | some (.natural n) => if n < UInt64.size then some (.number (UInt64.ofNat n)) else none
  | _ => node.plainText?.map .text

/-- A bit range: a number, a list of two literals or a string. -/
def BitsEntry.ofNode? (node : Node) : Option BitsEntry :=
  match node, node.kind? with
  | .sequence [high, low], _ => do return .pair (← Literal.ofNode? high) (← Literal.ofNode? low)
  | _, some (.natural n) => if n < UInt64.size then some (.bit (UInt64.ofNat n)) else none
  | _, _ => node.plainText?.map .text

/-- Lock references: a string or a list of strings. -/
def LocksEntry.ofNode? (node : Node) : Option LocksEntry :=
  match node with
  | .sequence items => (items.mapM Node.plainText?).map .many
  | node => node.plainText?.map .one

/-- A magic gate. -/
def MagicEntry.ofNode? (node : Node) : Option MagicEntry := do
  let [source, value] ← node.fields?
    [["source", "register", "source_register"], ["value", "expected", "expected_value"]] | none
  return {
    source := ← required Node.text? source
    value := ← required Literal.ofNode? value }

def FieldEntry.shape : Shape :=
  [["name"], ["bit_range", "bits", "bit"], ["type"], ["reset_value", "reset"], ["description"],
    ["function"], ["sw_access"], ["hw_access"], ["locked_by"], ["magic_dependency"]]

def FieldEntry.ofFields? (values : List (Option Node)) :
    Option FieldEntry := do
  let [name, bits, type, resetValue, description, function, swAccess, hwAccess, lockedBy, magic]
    := values | none
  return {
    name := ← required Node.text? name
    bits := ← required BitsEntry.ofNode? bits
    type := ← nullable Node.text? type
    resetValue := ← nullable Literal.ofNode? resetValue
    description := ← defaulting "" Node.text? description
    function := ← defaulting "" Node.text? function
    swAccess := ← nullable Node.text? swAccess
    hwAccess := ← nullable Node.text? hwAccess
    lockedBy := ← nullable LocksEntry.ofNode? lockedBy
    magic := ← nullable MagicEntry.ofNode? magic }

/-- A field entry of a register. -/
def FieldEntry.ofNode? (node : Node) : Option FieldEntry := do
  FieldEntry.ofFields? (← node.fields? FieldEntry.shape)

/-- The names of the key that says to which register an entry of the field list belongs. -/
def FlatFieldEntry.registerKeys : List String :=
  ["register", "reg"]

/-- An entry of the field list: a mapping, never a list of values. -/
def FlatFieldEntry.ofNode? (format : Format) (node : Node) : Option FlatFieldEntry := do
  let entries ← node.namedEntries? FieldEntry.shape
  let register ← Node.given? registerKeys entries
  let others := entries.filter fun entry => !registerKeys.contains entry.1
  let others ← others.mapM fun (name, value) =>
    (value.setAside? format.entryRoom).map fun value => (name, value)
  return {
    register := ← required Node.text? register
    field := ← FieldEntry.ofFields? (← Node.fieldsByName? FieldEntry.shape others) }

def RegisterEntry.ofNode? (node : Node) : Option RegisterEntry := do
  let [name, address, type, resetValue, width, description, swAccess, hwAccess, lockedBy, magic,
      fields] ← node.fields?
    [["name"], ["address", "addr", "offset"], ["type"], ["reset_value", "reset"], ["width"],
      ["description"], ["sw_access"], ["hw_access"], ["locked_by"], ["magic_dependency"],
      ["fields"]] | none
  return {
    name := ← required Node.text? name
    address := ← nullable Literal.ofNode? address
    type := ← nullable Node.text? type
    resetValue := ← nullable Literal.ofNode? resetValue
    width := ← nullable Literal.ofNode? width
    description := ← defaulting "" Node.text? description
    swAccess := ← nullable Node.text? swAccess
    hwAccess := ← nullable Node.text? hwAccess
    lockedBy := ← nullable LocksEntry.ofNode? lockedBy
    magic := ← nullable MagicEntry.ofNode? magic
    fields := ← defaulting [] (listOf FieldEntry.ofNode?) fields }

def LockRelationEntry.ofNode? (node : Node) : Option LockRelationEntry := do
  let [locker, locked] ← node.fields? [["locker"], ["locked"]] | none
  return { locker := ← required Node.text? locker, locked := ← required Node.text? locked }

/-- Puts a parameter in its place by name; a repeated name keeps its last value. -/
def insertParameter (known : List (String × Literal)) (entry : String × Literal) :
    List (String × Literal) :=
  match known with
  | [] => [entry]
  | other :: rest =>
    if entry.1 < other.1 then entry :: other :: rest
    else if entry.1 = other.1 then entry :: rest
    else other :: insertParameter rest entry

/-- The parameters, by name. -/
def parametersOfNode? (node : Node) : Option (List (String × Literal)) := do
  let .mapping entries := node.untagged | if node.isBlank then return [] else none
  let entries ← entries.mapM fun (key, value) => do
    return (← key.text?, ← Literal.ofNode? value)
  return entries.foldl insertParameter []

def ofNode? (format : Format) (node : Node) : Option Document := do
  let [moduleName, dataWidth, addrWidth, protocol, syncReset, byteEnable, writePorts, readPorts,
      autoAddress, baseAddress, defaultType, parameters, registers, fields, lockRelations,
      options] ← node.fields?
    [["module_name", "module", "name"], ["data_width"], ["addr_width"],
      ["bus_protocol", "protocol"], ["sync_reset"], ["byte_enable"], ["num_write_ports"],
      ["num_read_ports"], ["auto_address"], ["base_address"], ["default_reg_type"],
      ["parameters"], ["registers"], ["fields"], ["lock_relations"], ["bus_options"]] | none
  return {
    moduleName := ← required Node.text? moduleName
    dataWidth := ← defaulting 32 Node.word32? dataWidth
    addrWidth := ← defaulting 8 Node.word32? addrWidth
    protocol := ← nullable Node.text? protocol
    syncReset := ← defaulting false Node.bool? syncReset
    byteEnable := ← defaulting false Node.bool? byteEnable
    writePorts := ← defaulting 1 Node.word32? writePorts
    readPorts := ← defaulting 1 Node.word32? readPorts
    autoAddress := ← defaulting false Node.bool? autoAddress
    baseAddress := ← nullable Literal.ofNode? baseAddress
    defaultType := ← nullable Node.text? defaultType
    parameters := ← defaulting [] parametersOfNode? parameters
    registers := ← defaulting [] (listOf RegisterEntry.ofNode?) registers
    fields := ← defaulting [] (listOf (FlatFieldEntry.ofNode? format)) fields
    lockRelations := ← defaulting [] (listOf LockRelationEntry.ofNode?) lockRelations
    options := ← defaulting {} (Bus.Options.ofNode? format) options }

def ofJson? (text : String) : Option Document := do
  ofNode? .json (← Json.read? text)

def ofYaml? (text : String) : Option Document := do
  ofNode? .yaml (← Yaml.read? text)

end RegisterFile.Document
