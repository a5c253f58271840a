import RegisterFile.Bus.Options
import RegisterFile.Json.Writer
import RegisterFile.Node.Record

/-!
Bus options in documents: a record with the shared options and one record for each protocol that
has options of its own. Everything may be left out.
-/

namespace RegisterFile.Bus

/-- A choice among named variants. -/
def choice? {α : Type} (ofName? : String → Option α) (format : Format) (node : Node) : Option α :=
  (node.variant? format).bind ofName?

/-- The single value of a record with one field. -/
def onlyField? {α : Type} (name : String) (default : α) (read : Node → Option α) (node : Node) :
    Option α := do
  let [value] ← node.fields? [[name]] | none
  defaulting default read value

/-- Reads the options. -/
def Options.ofNode? (format : Format) (node : Node) : Option Options := do
  let [response, lockError, apb, custom, wishbone] ← node.fields?
    [["error_response"], ["lock_error"], ["apb"], ["custom"], ["wishbone"]] | none
  return {
    errorResponse := ← defaulting .slverr (choice? ErrorResponse.ofName? format) response
    lockError := ← defaulting false Node.bool? lockError
    waitStates := ← defaulting 0 (onlyField? "wait_states" 0 Node.word32?) apb
    registeredRead := ← defaulting false (onlyField? "registered_read" false Node.bool?) custom
    granularity := ← defaulting .byte
      (onlyField? "granularity" .byte (choice? Granularity.ofName? format)) wishbone }

/-- Writes the options, every one of them. -/
def Options.toJson (options : Options) : Json :=
  .object [
    ("error_response", .string options.errorResponse.name),
    ("lock_error", .bool options.lockError),
    ("apb", .object [("wait_states", .natural options.waitStates.toNat)]),
    ("custom", .object [("registered_read", .bool options.registeredRead)]),
    ("wishbone", .object [("granularity", .string options.granularity.name)])]

end RegisterFile.Bus
