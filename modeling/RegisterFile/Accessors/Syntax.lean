import RegisterFile.Word

/-!
The Rust module that generated accessors live in: for the register file and for each register a
type with constants and methods. A register's type wraps its value in an unsigned integer of the
next size; the methods of a field read and replace its bits of that value.
-/

namespace RegisterFile.Accessors

/-- The unsigned integer that stores a register. -/
inductive Storage where
  | bits8
  | bits16
  | bits32
  | bits64
  | bits128
  deriving DecidableEq, Repr

namespace Storage

/-- The number of bits. -/
def width : Storage → Nat
  | bits8 => 8
  | bits16 => 16
  | bits32 => 32
  | bits64 => 64
  | bits128 => 128

/-- The name of the integer type. -/
def name : Storage → String
  | bits8 => "u8"
  | bits16 => "u16"
  | bits32 => "u32"
  | bits64 => "u64"
  | bits128 => "u128"

/-- The smallest storage for a register of `width` bits, and the largest for wider ones. -/
def ofWidth (width : Nat) : Storage :=
  if width ≤ 8 then bits8
  else if width ≤ 16 then bits16
  else if width ≤ 32 then bits32
  else if width ≤ 64 then bits64
  else bits128

end Storage

inductive Expr where
  /-- The stored value of the register. -/
  | stored
  /-- The reset value of the register. -/
  | resetValue
  /-- The value passed in, or one computed before. -/
  | local (name : String)
  | hex (value : Word)
  | decimal (value : Nat)
  | and (left right : Expr)
  | shiftLeft (left right : Expr)
  | shiftRight (left right : Expr)
  | not (e : Expr)
  | group (e : Expr)
  /-- The register with a stored value. -/
  | wrap (e : Expr)
  deriving DecidableEq, Repr

/-- A statement. -/
inductive Stmt where
  | bind (name : String) (value : Expr)
  /-- Replaces the stored value. -/
  | put (value : Expr)
  /-- Keeps the stored bits that are set in the value. -/
  | keep (value : Expr)
  /-- Sets the bits of the value. -/
  | merge (value : Expr)
  deriving DecidableEq, Repr

/-- The shape of a method. -/
inductive Body where
  /-- Makes a register. -/
  | make (result : Expr)
  /-- Reads a register. -/
  | get (result : Expr)
  /-- Changes a register. -/
  | change (body : List Stmt)
  /-- Changes a register by a value that is passed in. -/
  | set (body : List Stmt)
  deriving DecidableEq, Repr

structure Method where
  /-- Its documentation, if it has any. -/
  doc : Option String := none
  name : String
  body : Body
  deriving DecidableEq, Repr

structure RegisterType where
  doc : String
  name : String
  storage : Storage
  address : UInt64
  reset : Word
  methods : List Method
  deriving DecidableEq, Repr

/-- The module of a register file. -/
structure Module where
  name : String
  doc : String
  /-- The name of the type that stands for the register file. -/
  fileName : String
  baseAddress : UInt64
  dataWidth : UInt32
  addrWidth : UInt32
  registers : List RegisterType
  deriving DecidableEq, Repr

end RegisterFile.Accessors
