import RegisterFile.Accessors.Build
import RegisterFile.Hardware.Module
import RegisterFile.Header.File
import RegisterFile.Prepare
import RegisterFile.RegisterMap

/-!
Generation: a configuration is prepared, and if nothing in the report is an error every artifact
is made from the same configuration and the same provenance.
-/

namespace RegisterFile

/-- What generation is asked for. -/
structure GenerateOptions where
  prepare : PrepareOptions := {}
  timestamp : String := Provenance.defaultTimestamp
  tool : String := Provenance.defaultTool
  /-- The accessor module is wanted too. -/
  accessors : Bool := false
  deriving DecidableEq, Repr

/-- What generation makes. -/
structure Artifacts where
  verilog : String
  header : String
  registerMap : String
  /-- The accessor module, where it was asked for. -/
  accessors : Option String
  /-- The configuration after preparation. -/
  config : Config
  /-- The findings about it, none of which is an error. -/
  report : Report
  digest : String

/-- Why nothing is generated. -/
inductive GenerateError where
  /-- The report contains errors. -/
  | invalid (report : Report)
  /-- The accessor module would leave something without a name. -/
  | unnamedAccessor

namespace GenerateError

/-- The wording of an error. -/
def message : GenerateError → String
  | invalid report => s!"configuration rejected with {report.errorCount} error(s)"
  | unnamedAccessor => "generated accessor module has an item without a name"

end GenerateError

/-- The accessor module, if it is wanted. -/
def wantedAccessors (wanted : Bool) (config : Config) : Except GenerateError (Option String) :=
  if wanted then
    match Accessors.text? config with
    | some text => .ok (some text)
    | none => .error .unnamedAccessor
  else .ok none

/-- Generates the artifacts of a register file. -/
def generate (config : Config) (options : GenerateOptions) : Except GenerateError Artifacts := do
  let ⟨config, report⟩ := prepare config options.prepare
  if !report.isValid then throw (.invalid report)
  let accessors ← wantedAccessors options.accessors config
  let provenance := Provenance.ofConfig options.tool options.timestamp config
  return { verilog := Hardware.text config provenance
           header := (Header.File.ofConfig config provenance).text
           registerMap := RegisterMap.text config provenance
           accessors, config, report
           digest := provenance.digest }

end RegisterFile
