import RegisterFile.Yaml.Fold

/-!
Plain scalars, which have no quotes. They end at a comment, at a colon in front of a separator,
inside brackets also at a comma or a bracket, and where the indentation goes back.
-/

namespace RegisterFile.Yaml.Plain

/-- Characters that no plain scalar starts with, or only in front of something else than a
    separator. -/
def indicators : List Char :=
  ['-', '?', ':', ',', '[', ']', '\x7b', '\x7d', '#', '&', '*', '!', '|', '>', '\'', '"', '%',
    '@', '`']

/-- Whether a plain scalar starts here, inside brackets or not. -/
def startsAt (flow : Bool) : List Char → Bool
  | [] => false
  | c :: rest =>
    (!isSeparator c && !indicators.contains c) || (c == '-' && !rest.head?.any isGap) ||
      (!flow && (c == '?' || c == ':') && !startsApart rest)

/-- Characters that end a plain scalar inside brackets. -/
def flowEnds : List Char :=
  [',', '[', ']', '\x7b', '\x7d']

/-- The run of characters of a plain scalar up to a separator. Inside brackets a colon cannot
    stand in front of another indicator. -/
def run? (flow : Bool) : List Char → Option (List Char)
  | [] => some []
  | c :: rest =>
    if isSeparator c then some []
    else if c == ':' && flow && rest.head?.any (fun next => next == '?' || flowEnds.contains next)
      then none
    else if c == ':' && startsApart rest then some []
    else if flow && flowEnds.contains c then some []
    else (run? flow rest).map (c :: ·)

/-- Whether a tab stands in the indentation of a line after the first: in front of column
    `indent`, among the separators ahead. -/
def hasIndentTab (indent : Nat) (broken : Bool) (column : Nat) : List Char → Bool
  | [] => false
  | c :: rest =>
    if isBreak c then hasIndentTab indent true 0 rest
    else (broken && c == '\t' && column < indent) || hasIndentTab indent broken (column + 1) rest

/-- A plain scalar with the cursor behind it and the separators that follow. -/
structure Result where
  text : List Char
  cursor : Cursor
  /-- There is a line break among the separators. -/
  broken : Bool

/-- Reads on in a plain scalar with `text` read so far and `spacing` behind it. Each run of
    characters takes one unit of `fuel`. -/
def readFrom? (flow : Bool) (indent : Nat) (text : List Char) (spacing : Spacing) :
    Nat → Cursor → Option Result
  | 0, _ => none
  | fuel + 1, c => do
    let stop : Result := ⟨text, c, spacing.broken⟩
    if c.isAtDocumentMark || c.isAt '#' then return stop
    let run ← run? flow c.rest
    if run.isEmpty then return stop
    let text := text ++ spacing.text ++ run
    let c := c.drop run.length
    if hasIndentTab indent false c.column (c.run isSeparator) then none
    let (spacing, c) := Spacing.none.take c
    if !flow && c.column < indent then return ⟨text, c, spacing.broken⟩
    readFrom? flow indent text spacing fuel c

/-- The plain scalar at a cursor. -/
def read? (flow : Bool) (indent : Nat) (c : Cursor) : Option Result :=
  readFrom? flow indent [] .none (c.rest.length + 1) c

end RegisterFile.Yaml.Plain
