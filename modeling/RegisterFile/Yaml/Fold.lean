import RegisterFile.Yaml.Cursor

/-!
Line folding. Between two words of a flow scalar, spaces on one line are kept; a single line break
becomes a space, and of several all but the first are kept.
-/

namespace RegisterFile.Yaml

/-- What stands between two words. -/
structure Spacing where
  /-- The blanks, as long as no line has ended. -/
  blanks : List Char := []
  /-- A line has ended. -/
  broken : Bool := false
  /-- The break that ended the first line, unless it was escaped. -/
  first : Option Char := none
  /-- The breaks behind it. -/
  others : List Char := []
  deriving DecidableEq

namespace Spacing

/-- No space at all. -/
def none : Spacing := {}

/-- The start of the space behind an escaped line break. -/
def escapedBreak : Spacing := { broken := true }

/-- Adds a separator to what stands between two words. -/
def add (spacing : Spacing) (c : Char) : Spacing :=
  if isBreak c then
    if spacing.broken then { spacing with others := spacing.others ++ [c] }
    else { broken := true, first := some c }
  else if spacing.broken then spacing
  else { spacing with blanks := spacing.blanks ++ [c] }

/-- The separators from a cursor on, with the cursor behind them. -/
def take (spacing : Spacing) (c : Cursor) : Spacing × Cursor :=
  let run := c.run isSeparator
  (run.foldl add spacing, c.drop run.length)

/-- What stands between the words in the scalar. A line feed folds; other breaks are kept. -/
def text (spacing : Spacing) : List Char :=
  if spacing.broken then
    match spacing.first with
    | some '\n' => if spacing.others.isEmpty then [' '] else spacing.others
    | first => first.toList ++ spacing.others
  else spacing.blanks

end Spacing

end RegisterFile.Yaml
