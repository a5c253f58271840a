import RegisterFile.Text.Blank

/-!
Positions in YAML text. Line breaks are unified before a text is read: `normalize` turns carriage
returns and the next-line character into line feeds, so that the breaks that are left are the line
feed and the two Unicode separators. A cursor is the rest of a text and where it starts.
-/

namespace RegisterFile.Yaml

/-- Whether a character may stand in YAML text. -/
def isAllowed (c : Char) : Bool :=
  let n := c.toNat
  n == 0x09 || n == 0x0A || n == 0x0D || (0x20 ≤ n && n ≤ 0x7E) || n == 0x85 ||
    (0xA0 ≤ n && n ≤ 0xFFFD) || 0x10000 ≤ n

/-- A text with a line feed for each carriage return, pair of carriage return and line feed, and
    next-line character. -/
def normalize : List Char → List Char
  | [] => []
  | '\r' :: '\n' :: rest => '\n' :: normalize rest
  | c :: rest => (if c = '\r' ∨ c = '\u0085' then '\n' else c) :: normalize rest

/-- Whether a character ends a line. -/
def isBreak (c : Char) : Bool :=
  c == '\n' || c == '\u2028' || c == '\u2029'

/-- Whether a character separates words on a line. -/
def isGap (c : Char) : Bool :=
  c == ' ' || c == '\t'

/-- Whether a character separates words or lines. -/
def isSeparator (c : Char) : Bool :=
  isGap c || isBreak c

/-- Whether a text starts with a separator or is over. -/
def startsApart (cs : List Char) : Bool :=
  cs.head?.all isSeparator

/-- Whether a character may stand in the names of anchors, handles and directives. -/
def isNameChar (c : Char) : Bool :=
  c.isAlphanum || c == '_' || c == '-'

/-- The rest of a text, with the line and the column at which it starts. -/
structure Cursor where
  rest : List Char
  line : Nat
  column : Nat
  deriving DecidableEq

namespace Cursor

def start (text : List Char) : Cursor :=
  ⟨text, 0, 0⟩

/-- Whether the text is over. -/
def isAtEnd (c : Cursor) : Bool :=
  c.rest.isEmpty

/-- The cursor behind the next character. -/
def step (c : Cursor) : Cursor :=
  match c.rest with
  | [] => c
  | next :: rest => if isBreak next then ⟨rest, c.line + 1, 0⟩ else ⟨rest, c.line, c.column + 1⟩

/-- The cursor behind the next `count` characters. -/
def drop (count : Nat) (c : Cursor) : Cursor :=
  match count with
  | 0 => c
  | count + 1 => drop count c.step

/-- The characters ahead that satisfy a condition. -/
def run (p : Char → Bool) (c : Cursor) : List Char :=
  c.rest.takeWhile p

/-- The cursor behind the characters that satisfy a condition. -/
def skip (p : Char → Bool) (c : Cursor) : Cursor :=
  c.drop (c.run p).length

/-- Whether the next character is a given one. -/
def isAt (char : Char) (c : Cursor) : Bool :=
  c.rest.head? == some char

/-- The cursor behind a comment that starts here, if one does. -/
def skipComment (c : Cursor) : Cursor :=
  if c.isAt '#' then c.skip fun char => !isBreak char else c

/-- Whether a line starts here with three equal characters and a separator. -/
def isAtMark (char : Char) (c : Cursor) : Bool :=
  c.column == 0 &&
    match c.rest with
    | x :: y :: z :: rest => x == char && y == char && z == char && startsApart rest
    | _ => false

/-- Whether a line starts here that begins or ends a document. -/
def isAtDocumentMark (c : Cursor) : Bool :=
  c.isAtMark '-' || c.isAtMark '.'

/-- The cursor at the next line, where nothing but blanks and a comment is left of this one. -/
def endLine? (c : Cursor) : Option Cursor :=
  let c := (c.skip isGap).skipComment
  if c.rest.head?.all isBreak then some c.step else none

end Cursor

end RegisterFile.Yaml
