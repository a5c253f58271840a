import RegisterFile.AddressPlan
import RegisterFile.Validate

/-!
Preparing a configuration: the protocol may be replaced and addresses assigned, then everything is
validated. Where addresses cannot be assigned, that is the only finding.
-/

namespace RegisterFile

/-- What is done to a configuration before it is validated. -/
structure PrepareOptions where
  /-- A protocol in place of the configuration's own. -/
  protocol : Option Bus.Protocol := none
  /-- Registers without an address get one. -/
  autoAddress : Bool := false
  deriving DecidableEq, Repr

/-- A configuration ready for generation, with the findings about it. -/
structure Prepared where
  config : Config
  report : Report

def prepare (config : Config) (options : PrepareOptions) : Prepared :=
  let config := { config with protocol := options.protocol.getD config.protocol }
  if options.autoAddress then
    match AddressPlan.assign config with
    | .ok planned => ⟨planned, validate planned⟩
    | .error e => ⟨config, [e.diagnostic]⟩
  else ⟨config, validate config⟩

end RegisterFile
