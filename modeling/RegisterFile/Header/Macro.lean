import RegisterFile.Text.Numeral
import RegisterFile.Word

/-!
C macros over unsigned integers. Every operation but the complement is printed in parentheses, and
so is every use of a parameter; `Macro.Expr.text` prints an expression.
-/

namespace RegisterFile.Header

/-- The type that a constant is written with. -/
inductive Suffix where
  /-- An unsigned integer of the first type that holds the value. -/
  | unsigned
  /-- An unsigned integer of at least 64 bits. -/
  | unsignedLongLong
  deriving DecidableEq, Repr

/-- What a macro stands for. -/
inductive Expr where
  /-- A hexadecimal constant of at least `digits` digits. -/
  | hex (digits : Nat) (value : Word) (suffix : Suffix)
  | decimal (value : Nat)
  /-- A use of a parameter of the macro. -/
  | parameter (name : String)
  /-- A use of another macro. -/
  | use (name : String)
  | complement (e : Expr)
  | and (left right : Expr)
  | or (left right : Expr)
  | shiftLeft (left right : Expr)
  | shiftRight (left right : Expr)
  deriving DecidableEq, Repr

structure Macro where
  name : String
  parameters : List String := []
  body : Expr
  deriving DecidableEq, Repr

/-- The letters of a suffix. -/
def Suffix.text : Suffix → String
  | unsigned => "U"
  | unsignedLongLong => "ULL"

/-- A hexadecimal number of at least `digits` digits. -/
def hexText (digits value : Nat) : String :=
  "0x" ++ String.ofList (Numeral.padded digits (Numeral.HEX value))

def Expr.text : Expr → String
  | hex digits value suffix => hexText digits value.toNat ++ suffix.text
  | decimal value => s!"{value}U"
  | parameter name => "(" ++ name ++ ")"
  | use name => name
  | complement e => "~" ++ e.text
  | and left right => "(" ++ left.text ++ " & " ++ right.text ++ ")"
  | or left right => "(" ++ left.text ++ " | " ++ right.text ++ ")"
  | shiftLeft left right => "(" ++ left.text ++ " << " ++ right.text ++ ")"
  | shiftRight left right => "(" ++ left.text ++ " >> " ++ right.text ++ ")"

/-- What follows a macro's name: its parameters, if it has any. -/
def parametersText : List String → String
  | [] => ""
  | names => "(" ++ ", ".intercalate names ++ ")"

/-- The definition of a macro. -/
def Macro.text (m : Macro) : String :=
  "#define " ++ m.name ++ parametersText m.parameters ++ " " ++ m.body.text

end RegisterFile.Header
