import RegisterFile.Bus.Options
import RegisterFile.Document.Literal

/-!
Documents as written: literals, type names and references are still text, and nothing is checked
beyond the shape. `Document.resolve` turns a document into a register file.
-/

namespace RegisterFile

namespace Document

/-- A bit range as written: a bit number, a pair of bounds or a text. -/
inductive BitsEntry where
  | bit (n : UInt64)
  | pair (high low : Literal)
  | text (content : String)
  deriving DecidableEq, Repr

/-- Lock references as written: one, or a list. -/
inductive LocksEntry where
  | one (reference : String)
  | many (references : List String)
  deriving DecidableEq, Repr

/-- A magic gate as written. -/
structure MagicEntry where
  source : String
  value : Literal
  deriving DecidableEq, Repr

/-- A field as written. -/
structure FieldEntry where
  name : String
  bits : BitsEntry
  type : Option String := none
  resetValue : Option Literal := none
  description : String := ""
  function : String := ""
  swAccess : Option String := none
  hwAccess : Option String := none
  lockedBy : Option LocksEntry := none
  magic : Option MagicEntry := none
  deriving DecidableEq, Repr

/-- A field of the document's own field list, which says where it belongs. -/
structure FlatFieldEntry where
  register : String
  field : FieldEntry
  deriving DecidableEq, Repr

/-- A register as written. -/
structure RegisterEntry where
  name : String
  address : Option Literal := none
  type : Option String := none
  resetValue : Option Literal := none
  width : Option Literal := none
  description : String := ""
  swAccess : Option String := none
  hwAccess : Option String := none
  lockedBy : Option LocksEntry := none
  magic : Option MagicEntry := none
  fields : List FieldEntry := []
  deriving DecidableEq, Repr

/-- An entry of the document's lock list: `locker` locks the register or `REG.FIELD` in
    `locked`. -/
structure LockRelationEntry where
  locker : String
  locked : String
  deriving DecidableEq, Repr

end Document

open Document in
/-- A register-file document. -/
structure Document where
  moduleName : String
  dataWidth : UInt32 := 32
  addrWidth : UInt32 := 8
  protocol : Option String := none
  syncReset : Bool := false
  byteEnable : Bool := false
  writePorts : UInt32 := 1
  readPorts : UInt32 := 1
  /-- The document asks for addresses to be assigned. -/
  autoAddress : Bool := false
  baseAddress : Option Literal := none
  /-- The type of registers that name none. -/
  defaultType : Option String := none
  /-- Names for expressions, in strictly increasing order. -/
  parameters : List (String × Literal) := []
  registers : List RegisterEntry := []
  fields : List FlatFieldEntry := []
  lockRelations : List LockRelationEntry := []
  options : Bus.Options := {}
  deriving DecidableEq, Repr

namespace Document.BitsEntry

/-- The bit range as it was written. -/
def written : BitsEntry → String
  | bit n => toString n.toNat
  | pair high low => "[" ++ high.written ++ ", " ++ low.written ++ "]"
  | text content => content

end Document.BitsEntry

namespace Document.LocksEntry

/-- The references in order. -/
def references : LocksEntry → List String
  | one reference => [reference]
  | many references => references

end Document.LocksEntry

end RegisterFile
