import RegisterFile.Text.LowerCase

/-!
The names of generated types and methods. Keywords get the mark of a raw identifier, path keywords
an underscore behind them, and fields that would hide a method of every register a suffix.
-/

namespace RegisterFile.Accessors

/-- Keywords that stand in paths and cannot be raw identifiers. -/
def pathKeywords : List String :=
  ["self", "Self", "super", "crate"]

/-- Keywords that raw identifiers can spell. -/
def keywords : List String :=
  ["as", "break", "const", "continue", "else", "enum", "extern", "false", "fn", "for", "if",
    "impl", "in", "let", "loop", "match", "mod", "move", "mut", "pub", "ref", "return", "static",
    "struct", "trait", "true", "type", "unsafe", "use", "where", "while", "async", "await",
    "dyn", "abstract", "become", "box", "do", "final", "macro", "override", "priv", "typeof",
    "unsized", "virtual", "yield", "try"]

/-- The methods that every register has. -/
def commonMethods : List String :=
  ["reset", "new", "raw", "set_raw"]

def identifier (name : String) : String :=
  if pathKeywords.contains name then name ++ "_"
  else if keywords.contains name then "r#" ++ name
  else name

/-- A field's name in lower case, with a suffix where it would hide a common method. -/
def fieldStem (name : String) : String :=
  let stem := Text.lowerCase name
  if commonMethods.contains stem then stem ++ "_field" else stem

/-- Whether a name is the lone underscore, which names nothing. -/
def isHole (name : String) : Bool :=
  name == "_"

end RegisterFile.Accessors
