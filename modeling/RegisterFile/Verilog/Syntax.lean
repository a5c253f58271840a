import RegisterFile.Text.Numeral
import RegisterFile.Word

/-!
The part of Verilog that generated modules are written in. A parenthesis is a node of its own, so
a tree says exactly which characters are printed; `Verilog.Printer` prints it. Assignments carry
the column that their targets are padded to.
-/

namespace RegisterFile.Verilog

/-- The radix of a sized literal. -/
inductive Radix where
  | binary
  | decimal
  | hex
  deriving DecidableEq, Repr

/-- Which bits of a signal are meant. -/
inductive Select where
  | whole
  | bit (index : Nat)
  | bits (high low : Nat)
  deriving DecidableEq, Repr

/-- A signal or some of its bits. -/
structure Ref where
  name : String
  select : Select := .whole
  deriving DecidableEq, Repr

inductive Expr where
  | ref (ref : Ref)
  | literal (radix : Radix) (width : Nat) (value : Word)
  /-- Every bit inverted. -/
  | invert (e : Expr)
  /-- The logical negation. -/
  | negate (e : Expr)
  /-- Whether any bit is set. -/
  | any (e : Expr)
  | and (left right : Expr)
  | or (left right : Expr)
  | equal (left right : Expr)
  | add (left right : Expr)
  | choose (condition yes no : Expr)
  | group (e : Expr)
  deriving DecidableEq, Repr

/-- A statement. The `no` branch of a condition is `skip` where there is none, another condition
    for `else if`, and otherwise a `block`. -/
inductive Stmt where
  | skip
  | comment (text : String)
  | seq (first second : Stmt)
  | nonblocking (column : Nat) (target : Ref) (value : Expr)
  | blocking (target : Ref) (value : Expr)
  | branch (condition : Expr) (yes no : Stmt)
  | block (body : Stmt)
  /-- A choice by the value of `subject`, each arm a constant's name and an assignment. -/
  | select (subject : Ref) (arms : List (String × Ref × Expr)) (default : Option (Ref × Expr))
  deriving DecidableEq, Repr

/-- When a block runs. -/
inductive Event where
  /-- At every rising clock edge. -/
  | clock
  /-- At every rising clock edge and when the reset is pulled low. -/
  | clockOrReset
  /-- Whenever something that it reads changes. -/
  | change
  deriving DecidableEq, Repr

/-- The direction of a port. -/
inductive Direction where
  | input
  | output
  /-- An output that is assigned in a block. -/
  | outputReg
  deriving DecidableEq, Repr

/-- A port; without a width it is a scalar. -/
structure Port where
  name : String
  direction : Direction
  width : Option Nat
  deriving DecidableEq, Repr

/-- A line or block of a module's body. Declarations carry the gap between keyword and name. -/
inductive Item where
  | blank
  | comment (text : String)
  | localparam (column : Nat) (name : String) (value : Expr)
  | reg (gap : Nat) (width : Option Nat) (name : String)
  | wire (gap : Nat) (name : String) (value : Expr)
  | assign (column : Nat) (name : String) (value : Expr)
  | always (event : Event) (body : Stmt)
  deriving DecidableEq, Repr

/-- A module with the comment lines in front of it. -/
structure Module where
  banner : List String
  name : String
  ports : List Port
  items : List Item
  deriving DecidableEq, Repr

/-- A whole signal as an expression. -/
def Expr.signal (name : String) : Expr :=
  .ref ⟨name, .whole⟩

/-- A hexadecimal literal. -/
def Expr.hex (width : Nat) (value : Word) : Expr :=
  .literal .hex width value

/-- A single bit as a literal. -/
def Expr.bit (value : Bool) : Expr :=
  .literal .binary 1 (if value then 1 else 0)

/-- Whether two expressions are equal, in parentheses. -/
def Expr.isEqual (left right : Expr) : Expr :=
  .group (.equal left right)

/-- Expressions joined from the left by an operator; `none` if there are none. -/
def Expr.join? (join : Expr → Expr → Expr) : List Expr → Option Expr
  | [] => none
  | e :: rest => some (rest.foldl join e)

/-- Statements one after another. -/
def Stmt.ofList : List Stmt → Stmt
  | [] => .skip
  | [stmt] => stmt
  | stmt :: rest => .seq stmt (ofList rest)

/-- A whole signal assigned at the end of the step. -/
def Stmt.store (name : String) (value : Expr) (column : Nat := 0) : Stmt :=
  .nonblocking column ⟨name, .whole⟩ value

/-- Bits `high` down to `low` of a signal of `width` bits. All of them need no select, and a
    single bit needs no range. -/
def Ref.part (name : String) (high low width : Nat) : Ref :=
  if low = 0 ∧ high + 1 = width then ⟨name, .whole⟩
  else if high = low then ⟨name, .bit low⟩
  else ⟨name, .bits high low⟩

namespace Port

def input (name : String) (width : Option Nat := none) : Port :=
  ⟨name, .input, width⟩

def output (name : String) (width : Option Nat := none) : Port :=
  ⟨name, .output, width⟩

/-- An output that is assigned in a block. -/
def outputReg (name : String) (width : Option Nat := none) : Port :=
  ⟨name, .outputReg, width⟩

end Port

/-- How registers are reset: by `rst`, active high, at a clock edge, or at once by `rst_n`, active
    low. -/
inductive Reset where
  | synchronous
  | asynchronous
  deriving DecidableEq, Repr

namespace Reset

/-- The reset of a module with or without synchronous reset. -/
def ofSync (sync : Bool) : Reset :=
  if sync then synchronous else asynchronous

/-- The name of the reset port. -/
def port : Reset → String
  | synchronous => "rst"
  | asynchronous => "rst_n"

/-- When sequential blocks run. -/
def event : Reset → Event
  | synchronous => .clock
  | asynchronous => .clockOrReset

/-- Whether the reset is asserted. -/
def active : Reset → Expr
  | synchronous => .signal "rst"
  | asynchronous => .negate (.signal "rst_n")

/-- A sequential block: what happens under reset, and what happens otherwise. -/
def sequential (reset : Reset) (onReset otherwise : Stmt) : Item :=
  .always reset.event (.branch reset.active onReset otherwise)

end Reset

end RegisterFile.Verilog
