import RegisterFile.Verilog.Syntax

/-!
The text of Verilog modules. Bodies are indented by four spaces for each level.
-/

namespace RegisterFile.Verilog

/-- A text filled up with spaces on the right. -/
def padRight (width : Nat) (text : String) : String :=
  text ++ String.ofList (List.replicate (width - text.length) ' ')

/-- A run of spaces. -/
def spaces (count : Nat) : String :=
  String.ofList (List.replicate count ' ')

/-- A line at a level of indentation. -/
def line (level : Nat) (text : String) : String :=
  spaces (4 * level) ++ text

/-- The suffix that selects bits. -/
def Select.text : Select → String
  | whole => ""
  | bit index => s!"[{index}]"
  | bits high low => s!"[{high}:{low}]"

/-- A signal with its select. -/
def Ref.text (ref : Ref) : String :=
  ref.name ++ ref.select.text

/-- The digits of a literal, padded to its width except in decimal. -/
def literalDigits (radix : Radix) (width value : Nat) : List Char :=
  match radix with
  | .binary => Numeral.padded width (Numeral.binary value)
  | .decimal => Numeral.decimal value
  | .hex => Numeral.padded (Numeral.hexDigitCount width) (Numeral.HEX value)

def Radix.letter : Radix → Char
  | binary => 'b'
  | decimal => 'd'
  | hex => 'h'

/-- A sized literal such as `8'h0C`. -/
def literalText (radix : Radix) (width value : Nat) : String :=
  String.ofList
    (Numeral.decimal width ++ '\'' :: radix.letter :: literalDigits radix width value)

def Expr.text : Expr → String
  | ref r => r.text
  | literal radix width value => literalText radix width value.toNat
  | invert e => "~" ++ e.text
  | negate e => "!" ++ e.text
  | any e => "|" ++ e.text
  | and left right => left.text ++ " & " ++ right.text
  | or left right => left.text ++ " | " ++ right.text
  | equal left right => left.text ++ " == " ++ right.text
  | add left right => left.text ++ " + " ++ right.text
  | choose condition yes no => condition.text ++ " ? " ++ yes.text ++ " : " ++ no.text
  | group e => "(" ++ e.text ++ ")"

/-- The lines of a choice. -/
def selectLines (level : Nat) (subject : Ref) (arms : List (String × Ref × Expr))
    (default : Option (Ref × Expr)) : List String :=
  [line level ("case (" ++ subject.text ++ ")")] ++
    arms.map (fun (name, target, value) =>
      line (level + 1) (name ++ ": " ++ target.text ++ " = " ++ value.text ++ ";")) ++
    [line (level + 1) (match default with
      | some (target, value) => "default: " ++ target.text ++ " = " ++ value.text ++ ";"
      | none => "default: ;"),
    line level "endcase"]

mutual

/-- The lines of a statement. -/
def Stmt.lines (level : Nat) : Stmt → List String
  | skip => []
  | comment text => [line level ("// " ++ text)]
  | seq first second => first.lines level ++ second.lines level
  | nonblocking column target value =>
    [line level (padRight column target.text ++ " <= " ++ value.text ++ ";")]
  | blocking target value => [line level (target.text ++ " = " ++ value.text ++ ";")]
  | branch condition yes no =>
    line level ("if (" ++ condition.text ++ ") begin") ::
      (yes.lines (level + 1) ++ no.elseLines level)
  | block body => body.lines level
  | select subject arms default => selectLines level subject arms default

/-- The lines from the `end` of the branch before on. -/
def Stmt.elseLines (level : Nat) : Stmt → List String
  | branch condition yes no =>
    line level ("end else if (" ++ condition.text ++ ") begin") ::
      (yes.lines (level + 1) ++ no.elseLines level)
  | block body => line level "end else begin" :: (body.lines (level + 1) ++ [line level "end"])
  | _ => [line level "end"]

end

def Event.text : Event → String
  | clock => "posedge clk"
  | clockOrReset => "posedge clk or negedge rst_n"
  | change => "*"

/-- The keywords of a direction. -/
def Direction.text : Direction → String
  | input => "input  wire"
  | output => "output wire"
  | outputReg => "output reg "

/-- The declared range of a signal of `width` bits. -/
def rangeText (width : Nat) : String :=
  s!"[{width - 1}:0] "

/-- A port declaration without the comma behind it. -/
def Port.declaration (port : Port) : String :=
  port.direction.text ++ " " ++ (port.width.map rangeText).getD "" ++ port.name

def Item.lines : Item → List String
  | blank => [""]
  | comment text => [line 1 ("// " ++ text)]
  | localparam column name value =>
    [line 1 ("localparam " ++ padRight column name ++ " = " ++ value.text ++ ";")]
  | reg gap width name =>
    [line 1 ("reg" ++ spaces gap ++ (width.map rangeText).getD "" ++ name ++ ";")]
  | wire gap name value =>
    [line 1 ("wire" ++ spaces gap ++ name ++ " = " ++ value.text ++ ";")]
  | assign column name value =>
    [line 1 ("assign " ++ padRight column name ++ " = " ++ value.text ++ ";")]
  | always event body =>
    line 1 ("always @(" ++ event.text ++ ") begin") :: (body.lines 2 ++ [line 1 "end"])

/-- Declarations with commas between them. -/
def portLines : List Port → List String
  | [] => []
  | [port] => [line 1 port.declaration]
  | port :: rest => line 1 (port.declaration ++ ",") :: portLines rest

def Module.lines (m : Module) : List String :=
  m.banner.map (fun text => "// " ++ text) ++ ["", "module " ++ m.name ++ " ("] ++
    portLines m.ports ++ [");", ""] ++ m.items.flatMap Item.lines ++ ["endmodule"]

/-- Lines as a text, each with its line break. -/
def textOfLines (lines : List String) : String :=
  String.join (lines.map (· ++ "\n"))

def Module.text (m : Module) : String :=
  textOfLines m.lines

end RegisterFile.Verilog
