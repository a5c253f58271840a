import RegisterFile.Text.Spelling

/-!
The bus protocols that a register file can be generated for.
-/

namespace RegisterFile.Bus

/-- A bus protocol. -/
inductive Protocol where
  | apb
  | axi4Lite
  | wishbone
  /-- Open Core Protocol, simple request and response. -/
  | ocp
  /-- A plain request and acknowledge handshake. -/
  | custom
  deriving DecidableEq, Repr

namespace Protocol

/-- Every protocol. -/
def all : List Protocol :=
  [apb, axi4Lite, wishbone, ocp, custom]

/-- The canonical name. -/
def name : Protocol → String
  | apb => "apb"
  | axi4Lite => "axi4_lite"
  | wishbone => "wishbone"
  | ocp => "ocp"
  | custom => "custom"

/-- The name in comments and documents. -/
def displayName : Protocol → String
  | apb => "APB"
  | axi4Lite => "AXI4-Lite"
  | wishbone => "Wishbone"
  | ocp => "OCP"
  | custom => "Custom"

/-- The spellings of a protocol, in lower case and without separators. -/
def spellings : Protocol → List String
  | apb => ["apb", "apb3", "apb4"]
  | axi4Lite => ["axi4lite", "axilite", "axi", "axi4"]
  | wishbone => ["wishbone", "wb"]
  | ocp => ["ocp"]
  | custom => ["custom"]

/-- Characters that do not count in a written protocol name. -/
def separators : List Char :=
  ['_', '-', ' ']

/-- The protocol that a text names, in any case and with any separators. -/
def ofText? (text : String) : Option Protocol :=
  Text.ofSpelling? separators spellings all text

theorem mem_all (protocol : Protocol) : protocol ∈ all := by
  cases protocol <;> decide

end Protocol

end RegisterFile.Bus
