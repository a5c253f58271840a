import RegisterFile.Bus.OptionsText
import RegisterFile.Config
import RegisterFile.Json.Reader

/-!
Reading a register file back from JSON in the form of its canonical text. Keys may be left out
where there is a default, and names may have any of their spellings.
-/

namespace RegisterFile

/-- A value given by one of its texts. -/
def spelled? {α : Type} (ofText? : String → Option α) (node : Node) : Option α :=
  node.text?.bind ofText?

/-- A bit range given by its text. -/
def BitRange.ofNode? (node : Node) : Option BitRange :=
  spelled? (fun text => (BitRange.ofText text).toOption) node

/-- A value of 128 bits. -/
def Node.word128? (node : Node) : Option Word :=
  (node.natural? Word.limit).map (BitVec.ofNat 128)

/-- Reads a magic gate. -/
def MagicDependency.ofNode? (node : Node) : Option MagicDependency := do
  let [source, value] ← node.fields? [["source"], ["value"]] | none
  return { source := ← required Node.text? source, value := ← required Node.word128? value }

def Field.ofNode? (node : Node) : Option Field := do
  let [name, bits, type, resetValue, description, function, swAccess, hwAccess, lockedBy, magic]
    ← node.fields?
      [["name"], ["bit_range"], ["type"], ["reset_value"], ["description"], ["function"],
        ["sw_access"], ["hw_access"], ["locked_by"], ["magic_dependency"]] | none
  return {
    name := ← required Node.text? name
    bits := ← required BitRange.ofNode? bits
    type := ← nullable (spelled? RegisterType.ofText?) type
    resetValue := ← nullable Node.word128? resetValue
    description := ← defaulting "" Node.text? description
    function := ← defaulting "" Node.text? function
    swAccess := ← nullable (spelled? AccessHint.ofText?) swAccess
    hwAccess := ← nullable (spelled? AccessHint.ofText?) hwAccess
    lockedBy := ← defaulting [] (listOf (spelled? Lock.ofText?)) lockedBy
    magic := ← nullable MagicDependency.ofNode? magic }

def Register.ofNode? (node : Node) : Option Register := do
  let [name, address, type, resetValue, width, description, fields, swAccess, hwAccess, lockedBy,
      magic] ← node.fields?
    [["name"], ["address"], ["type"], ["reset_value"], ["width"], ["description"], ["fields"],
      ["sw_access"], ["hw_access"], ["locked_by"], ["magic_dependency"]] | none
  return {
    name := ← required Node.text? name
    address := ← nullable Node.word64? address
    type := ← defaulting .readWrite (spelled? RegisterType.ofText?) type
    resetValue := ← defaulting 0 Node.word128? resetValue
    width := ← nullable Node.word32? width
    description := ← defaulting "" Node.text? description
    fields := ← defaulting [] (listOf Field.ofNode?) fields
    swAccess := ← nullable (spelled? AccessHint.ofText?) swAccess
    hwAccess := ← nullable (spelled? AccessHint.ofText?) hwAccess
    lockedBy := ← defaulting [] (listOf (spelled? Lock.ofText?)) lockedBy
    magic := ← nullable MagicDependency.ofNode? magic }

/-- Reads a register file from a tree. -/
def Config.ofNode? (node : Node) : Option Config := do
  let [moduleName, dataWidth, addrWidth, protocol, syncReset, byteEnable, writePorts, readPorts,
      baseAddress, registers, options] ← node.fields?
    [["module_name"], ["data_width"], ["addr_width"], ["bus_protocol"], ["sync_reset"],
      ["byte_enable"], ["num_write_ports"], ["num_read_ports"], ["base_address"], ["registers"],
      ["bus_options"]] | none
  return {
    moduleName := ← defaulting "" Node.text? moduleName
    dataWidth := ← defaulting 32 Node.word32? dataWidth
    addrWidth := ← defaulting 8 Node.word32? addrWidth
    protocol := ← defaulting .apb (spelled? Bus.Protocol.ofText?) protocol
    syncReset := ← defaulting false Node.bool? syncReset
    byteEnable := ← defaulting false Node.bool? byteEnable
    writePorts := ← defaulting 1 Node.word32? writePorts
    readPorts := ← defaulting 1 Node.word32? readPorts
    baseAddress := ← defaulting 0 Node.word64? baseAddress
    registers := ← defaulting [] (listOf Register.ofNode?) registers
    options := ← defaulting {} (Bus.Options.ofNode? .json) options }

/-- The register file of a JSON text. -/
def Config.ofJson? (text : String) : Option Config := do
  Config.ofNode? (← Json.read? text)

end RegisterFile
