import RegisterFile.Verilog.Build

/-!
What a module declares: its ports, constants, registers and wires, each with its width. A
declaration without a range is one bit wide, and a constant is as wide as its value.
-/

namespace RegisterFile.Verilog

/-- How wide signals are. -/
abbrev Widths := String → Nat

/-- The number of bits that are meant. -/
def Ref.width (widths : Widths) : Ref → Nat
  | ⟨name, .whole⟩ => widths name
  | ⟨_, .bit _⟩ => 1
  | ⟨_, .bits high low⟩ => high - low + 1

/-- The width of an expression on its own. -/
def Expr.width (widths : Widths) : Expr → Nat
  | ref r => r.width widths
  | literal _ width _ => width
  | invert e | group e => e.width widths
  | negate _ | any _ | equal _ _ => 1
  | and left right | or left right | add left right =>
    max (left.width widths) (right.width widths)
  | choose _ yes no => max (yes.width widths) (no.width widths)

/-- What a port declares. -/
def Port.declares (port : Port) : String × Nat :=
  (port.name, port.width.getD 1)

/-- What an item declares. A constant's value names no signals. -/
def Item.declares? : Item → Option (String × Nat)
  | localparam _ name value => some (name, value.width fun _ => 0)
  | reg _ width name => some (name, width.getD 1)
  | wire _ name _ => some (name, 1)
  | _ => none

namespace Module

/-- The declarations of a module, ports first. -/
def declarations (m : Module) : List (String × Nat) :=
  m.ports.map Port.declares ++ m.items.filterMap Item.declares?

/-- The names that a module declares, as often as it does. -/
def declared (m : Module) : List String :=
  m.declarations.map Prod.fst

/-- The widths of a module's signals. -/
def widths (m : Module) : Widths :=
  fun name => (m.declarations.lookup name).getD 0

end Module

end RegisterFile.Verilog
