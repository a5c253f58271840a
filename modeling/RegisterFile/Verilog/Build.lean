import RegisterFile.Verilog.Syntax

/-!
Shorthands for building Verilog trees.
-/

namespace RegisterFile.Verilog

/-- Conditions that must all hold. -/
def Expr.ands (first : Expr) (rest : List Expr) : Expr :=
  rest.foldl .and first

/-- A whole signal inverted. -/
def Expr.invertSignal (name : String) : Expr :=
  .invert (.signal name)

/-- A decimal literal. -/
def Expr.decimal (width value : Nat) : Expr :=
  .literal .decimal width (BitVec.ofNat 128 value)

/-- A binary literal. -/
def Expr.binary (width value : Nat) : Expr :=
  .literal .binary width (BitVec.ofNat 128 value)

/-- A choice between two signals by a third, in parentheses. -/
def Expr.chooseSignal (condition yes no : String) : Expr :=
  .group (.choose (.signal condition) (.signal yes) (.signal no))

/-- One assignment after another, the targets padded to one column. -/
def Stmt.stores (column : Nat) (assignments : List (String × Expr)) : Stmt :=
  .ofList (assignments.map fun (name, value) => .store name value column)

/-- A condition without an alternative. -/
def Stmt.when (condition : Expr) (body : Stmt) : Stmt :=
  .branch condition body .skip

/-- A condition with an alternative. -/
def Stmt.ifElse (condition : Expr) (yes no : Stmt) : Stmt :=
  .branch condition yes (.block no)

end RegisterFile.Verilog
