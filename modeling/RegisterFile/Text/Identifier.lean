/-!
Identifiers: a letter or underscore followed by letters, digits and underscores, all ASCII.
-/

namespace RegisterFile.Text

/-- Whether a character may start an identifier. -/
def startsIdentifier (c : Char) : Bool :=
  c.isAlpha || c == '_'

/-- Whether a character may stand in an identifier after its start. -/
def continuesIdentifier (c : Char) : Bool :=
  c.isAlphanum || c == '_'

def isIdentifier (text : String) : Bool :=
  match text.toList with
  | [] => false
  | c :: rest => startsIdentifier c && rest.all continuesIdentifier

end RegisterFile.Text
