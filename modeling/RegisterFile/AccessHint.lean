import RegisterFile.Text.Spelling

/-!
Access hints: what software or hardware may do with a register or field.
-/

namespace RegisterFile

/-- A restriction of access; where there is none, the register type decides alone. -/
inductive AccessHint where
  | read
  | write
  | readWrite
  | none
  deriving DecidableEq, Repr

namespace AccessHint

/-- Whether reading is allowed. -/
def canRead : AccessHint → Bool
  | read | readWrite => true
  | write | none => false

/-- Whether writing is allowed. -/
def canWrite : AccessHint → Bool
  | write | readWrite => true
  | read | none => false

/-- The canonical name. -/
def name : AccessHint → String
  | read => "read"
  | write => "write"
  | readWrite => "read_write"
  | none => "none"

/-- Every hint. -/
def all : List AccessHint :=
  [read, write, readWrite, none]

/-- The spellings of a hint, in lower case and without separators. -/
def spellings : AccessHint → List String
  | read => ["read", "r", "ro"]
  | write => ["write", "w", "wo"]
  | readWrite => ["readwrite", "rw"]
  | none => ["none", "na"]

/-- Characters that do not count in a written hint. -/
def separators : List Char :=
  ['_', '-', ' ', '/']

/-- The hint that a text names, in any case and with any separators. -/
def ofText? (text : String) : Option AccessHint :=
  Text.ofSpelling? separators spellings all text

theorem mem_all (hint : AccessHint) : hint ∈ all := by
  cases hint <;> decide

end AccessHint

end RegisterFile
