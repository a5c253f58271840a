import RegisterFile.Config.Writer
import RegisterFile.Digest

/-!
Where a generated file comes from: the tool and the time stamped into it, and the digest of the
configuration that it was generated from.
-/

namespace RegisterFile

/-- The digest of a configuration: the SHA-256 hash of its canonical text. -/
def Config.digest (config : Config) : String :=
  Digest.ofText config.canonical

/-- What every generated file says about its making. -/
structure Provenance where
  tool : String
  timestamp : String
  digest : String
  deriving DecidableEq, Repr

namespace Provenance

/-- The name of this generator. -/
def defaultTool : String := "regforge 0.13.0"

/-- The timestamp of files that are given none. -/
def defaultTimestamp : String := "unspecified"

/-- The provenance of files generated from a configuration. -/
def ofConfig (tool timestamp : String) (config : Config) : Provenance :=
  ⟨tool, timestamp, config.digest⟩

end Provenance

end RegisterFile
