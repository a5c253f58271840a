/-!
Findings of the validator. They are values, not failures: a report is the list of all of them in
the order found, and it blocks generation when one of them is an error.
-/

namespace RegisterFile

/-- How grave a finding is. -/
inductive Severity where
  | warning
  | error
  deriving DecidableEq, Repr

def Severity.name : Severity → String
  | warning => "warning"
  | error => "error"

/-- Where a finding applies. -/
inductive Location where
  /-- The file as a whole. -/
  | config
  | register (name : String)
  | field (register name : String)
  deriving DecidableEq, Repr

/-- A location in messages. -/
def Location.text : Location → String
  | config => "<config>"
  | register name => name
  | field owner name => s!"{owner}.{name}"

/-- What a finding is about. -/
inductive Diagnostic.Kind where
  | duplicateName
  | addressConflict
  | fieldOverlap
  | fieldOutOfRegisterWidth
  | unresolvedLockTarget
  | unresolvedMagicTarget
  | missingAddress
  | cyclicDependency
  | invalidWidth
  | invalidIdentifier
  | addressOutOfRange
  | invalidBusOption
  | misalignedAddress
  | nonStandardDataWidth
  | resetValueTruncated
  | magicValueTruncated
  | typeProtocolMismatch
  | unusedField
  | multiPortWriteCollision
  deriving DecidableEq, Repr

def Diagnostic.Kind.name : Diagnostic.Kind → String
  | duplicateName => "DuplicateName"
  | addressConflict => "AddressConflict"
  | fieldOverlap => "FieldOverlap"
  | fieldOutOfRegisterWidth => "FieldOutOfRegisterWidth"
  | unresolvedLockTarget => "UnresolvedLockTarget"
  | unresolvedMagicTarget => "UnresolvedMagicTarget"
  | missingAddress => "MissingAddress"
  | cyclicDependency => "CyclicDependency"
  | invalidWidth => "InvalidWidth"
  | invalidIdentifier => "InvalidIdentifier"
  | addressOutOfRange => "AddressOutOfRange"
  | invalidBusOption => "InvalidBusOption"
  | misalignedAddress => "MisalignedAddress"
  | nonStandardDataWidth => "NonStandardDataWidth"
  | resetValueTruncated => "ResetValueTruncated"
  | magicValueTruncated => "MagicValueTruncated"
  | typeProtocolMismatch => "TypeProtocolMismatch"
  | unusedField => "UnusedField"
  | multiPortWriteCollision => "MultiPortWriteCollision"

/-- A finding. -/
structure Diagnostic where
  severity : Severity
  kind : Diagnostic.Kind
  location : Location
  message : String
  deriving DecidableEq, Repr

namespace Diagnostic

/-- A finding that blocks generation. -/
def error (kind : Kind) (location : Location) (message : String) : Diagnostic :=
  ⟨.error, kind, location, message⟩

/-- A finding that does not. -/
def warning (kind : Kind) (location : Location) (message : String) : Diagnostic :=
  ⟨.warning, kind, location, message⟩

/-- Whether the finding blocks generation. -/
def isError (d : Diagnostic) : Bool :=
  d.severity == .error

/-- A finding on one line. -/
def text (d : Diagnostic) : String :=
  s!"{d.severity.name}[{d.kind.name}] {d.location.text}: {d.message}"

end Diagnostic

/-- Findings in the order found. -/
abbrev Report := List Diagnostic

namespace Report

/-- Whether nothing in the report blocks generation. -/
def isValid (report : Report) : Bool :=
  !report.any Diagnostic.isError

/-- The number of errors. -/
def errorCount (report : Report) : Nat :=
  report.countP Diagnostic.isError

/-- The number of warnings. -/
def warningCount (report : Report) : Nat :=
  report.countP fun d => !d.isError

/-- The report as text, a finding on each line. -/
def text (report : Report) : String :=
  String.join (report.map fun d => d.text ++ "\n")

end Report

end RegisterFile
