import RegisterFile.Yaml.Block
import RegisterFile.Yaml.Plain
import RegisterFile.Yaml.Property
import RegisterFile.Yaml.Quoted

/-!
Cutting YAML text into tokens. A block collection opens where a line is indented deeper than the
collections around it and closes where a line is not. A node can turn out to be a key when the
colon behind it is met; the key mark is then put in front of it. Such a key must lie on one line
and be shorter than 1024 characters.
-/

namespace RegisterFile.Yaml

/-- A node that may turn out to be a key. -/
structure KeyCandidate where
  /-- Nothing else can stand in its place. -/
  required : Bool
  /-- The number of tokens in front of it. -/
  count : Nat
  line : Nat
  column : Nat
  deriving DecidableEq

/-- The state of cutting a text into tokens. -/
structure Lexer where
  cursor : Cursor
  /-- The tokens so far, the last one in front. -/
  tokens : List Token := []
  /-- The columns of the block collections around the cursor, the innermost in front. -/
  indents : List Nat := []
  /-- A key may start here. -/
  keyAllowed : Bool := true
  /-- The candidate inside the innermost bracket. -/
  candidate : Option KeyCandidate := none
  /-- The candidates outside each bracket, the innermost in front. -/
  outer : List (Option KeyCandidate) := []

namespace Lexer

/-- Whether there is a bracket around the cursor. -/
def inFlow (s : Lexer) : Bool :=
  !s.outer.isEmpty

/-- Adds a token. -/
def push (s : Lexer) (token : Token) : Lexer :=
  { s with tokens := token :: s.tokens }

/-- Puts a token in behind the first `count` ones. -/
def insert (s : Lexer) (count : Nat) (token : Token) : Lexer :=
  { s with tokens := s.tokens.insertIdx (s.tokens.length - count) token }

/-- A candidate that is not out of date, or none; a failure if it has to be a key. -/
def fresh? (cursor : Cursor) : Option KeyCandidate → Option (Option KeyCandidate)
  | none => some none
  | some key =>
    if key.line < cursor.line || key.column + 1024 < cursor.column then
      if key.required then none else some none
    else some (some key)

/-- Gives up the candidates that are out of date. -/
def dropStale? (s : Lexer) : Option Lexer := do
  return { s with
    candidate := ← fresh? s.cursor s.candidate
    outer := ← s.outer.mapM (fresh? s.cursor) }

/-- Gives up the candidate, unless it has to be a key. -/
def dropCandidate? (s : Lexer) : Option Lexer :=
  if s.candidate.any KeyCandidate.required then none else some { s with candidate := none }

/-- Makes the node that starts here a candidate, if a key may start here. -/
def noteCandidate? (s : Lexer) : Option Lexer :=
  if s.keyAllowed then do
    let s ← s.dropCandidate?
    let required := !s.inFlow && s.indents.head? == some s.cursor.column
    return { s with
      candidate := some ⟨required, s.tokens.length, s.cursor.line, s.cursor.column⟩ }
  else some s

/-- Whether a column is deeper than the block collections around the cursor. -/
def isDeeper (s : Lexer) (column : Nat) : Bool :=
  s.indents.head?.all (· < column)

/-- Opens a block collection at a column, unless one is open there; its token goes behind the
    first `count` ones. -/
def openBlock (s : Lexer) (column count : Nat) (token : Token) : Lexer :=
  if !s.inFlow && s.isDeeper column then
    { s.insert count token with indents := column :: s.indents }
  else s

/-- Opens a block collection here. -/
def openHere (s : Lexer) (token : Token) : Lexer :=
  s.openBlock s.cursor.column s.tokens.length token

/-- Closes the block collections of `indents` that are deeper than a column, or all of them. -/
def closeFrom (column : Option Nat) (tokens : List Token) : List Nat → List Token × List Nat
  | [] => (tokens, [])
  | indent :: rest =>
    if column.all (· < indent) then closeFrom column (.blockEnd :: tokens) rest
    else (tokens, indent :: rest)

/-- Closes the block collections that are deeper than a column, or all of them. -/
def closeBlocks (s : Lexer) (column : Option Nat) : Lexer :=
  if s.inFlow then s
  else
    let (tokens, indents) := closeFrom column s.tokens s.indents
    { s with tokens, indents }

/-- Skips blanks, comments and line breaks. A tab is none of these where a key may start outside
    brackets. Each line takes one unit of `fuel`. -/
def skipLines : Nat → Lexer → Lexer
  | 0, s => s
  | fuel + 1, s =>
    let isBlank (c : Char) : Bool := c == ' ' || (c == '\t' && (s.inFlow || !s.keyAllowed))
    let cursor := (s.cursor.skip isBlank).skipComment
    if cursor.rest.head?.any isBreak then
      skipLines fuel { s with cursor := cursor.step, keyAllowed := s.keyAllowed || !s.inFlow }
    else { s with cursor }

/-- Goes to the next token. The mark of byte order may stand at the very start. -/
def toNextToken (s : Lexer) : Lexer :=
  let atStart := s.cursor.line == 0 && s.cursor.column == 0
  let cursor := if atStart && s.cursor.isAt '\ufeff' then s.cursor.step else s.cursor
  skipLines (cursor.rest.length + 1) { s with cursor }

/-- Takes the next `length` characters for a token. -/
def take (s : Lexer) (length : Nat) (token : Token) : Lexer :=
  { s.push token with cursor := s.cursor.drop length }

/-- The mark at the start or end of a document. -/
def documentMark? (s : Lexer) (token : Token) : Option Lexer := do
  let s ← (s.closeBlocks none).dropCandidate?
  return { s.take 3 token with keyAllowed := false }

def directive? (s : Lexer) : Option Lexer := do
  let s ← (s.closeBlocks none).dropCandidate?
  let (token, cursor) ← Property.directive? s.cursor
  return { s.push token with cursor, keyAllowed := false }

/-- An opening bracket. -/
def openFlow? (s : Lexer) (token : Token) : Option Lexer := do
  let s ← s.noteCandidate?
  return { s.take 1 token with
    candidate := none, outer := s.candidate :: s.outer, keyAllowed := true }

/-- A closing bracket. -/
def closeFlow? (s : Lexer) (token : Token) : Option Lexer := do
  let s ← s.dropCandidate?
  let s := { s.take 1 token with keyAllowed := false }
  match s.outer with
  | [] => return s
  | candidate :: outer => return { s with candidate, outer }

/-- A comma. -/
def flowEntry? (s : Lexer) : Option Lexer := do
  let s ← s.dropCandidate?
  return { s.take 1 .flowEntry with keyAllowed := true }

/-- The hyphen of a list item. -/
def blockEntry? (s : Lexer) : Option Lexer := do
  if !s.inFlow && !s.keyAllowed then none
  let s ← (s.openHere .blockSequenceStart).dropCandidate?
  return { s.take 1 .blockEntry with keyAllowed := true }

/-- The question mark of a key. -/
def key? (s : Lexer) : Option Lexer := do
  if !s.inFlow && !s.keyAllowed then none
  let s ← (s.openHere .blockMappingStart).dropCandidate?
  return { s.take 1 .key with keyAllowed := !s.inFlow }

/-- The colon of a value. If there is a candidate it is the key. -/
def value? (s : Lexer) : Option Lexer := do
  match s.candidate with
  | some key =>
    let s := (s.insert key.count .key).openBlock key.column key.count .blockMappingStart
    return { s.take 1 .value with candidate := none, keyAllowed := false }
  | none =>
    if !s.inFlow && !s.keyAllowed then none
    let s := s.openHere .blockMappingStart
    return { s.take 1 .value with keyAllowed := !s.inFlow }

/-- An anchor or alias. -/
def name? (s : Lexer) (token : String → Token) : Option Lexer := do
  let s ← s.noteCandidate?
  let (name, cursor) ← Property.name? s.cursor.step
  return { s.push (token name) with cursor, keyAllowed := false }

def tag? (s : Lexer) : Option Lexer := do
  let s ← s.noteCandidate?
  let (token, cursor) ← Property.tag? s.inFlow s.cursor
  return { s.push token with cursor, keyAllowed := false }

/-- A block scalar. -/
def block? (s : Lexer) (style : Style) : Option Lexer := do
  let s ← s.dropCandidate?
  let (text, cursor) ← Block.read? (style = .folded) s.indents.head? s.cursor
  return { s.push (.scalar style text) with cursor, keyAllowed := true }

/-- A quoted scalar. -/
def quoted? (s : Lexer) (double : Bool) : Option Lexer := do
  let s ← s.noteCandidate?
  let (text, cursor) ← Quoted.read? double s.cursor
  return { s.push (.scalar .quoted text) with cursor, keyAllowed := false }

/-- A plain scalar. Behind a line break a key may start again. -/
def plain? (s : Lexer) : Option Lexer := do
  let s ← s.noteCandidate?
  let indent := (s.indents.head?.map (· + 1)).getD 0
  let result ← Plain.read? s.inFlow indent s.cursor
  return { s.push (.scalar .plain (String.ofList result.text)) with
    cursor := result.cursor, keyAllowed := result.broken }

/-- The token that a character starts. -/
def token? (s : Lexer) (c : Char) (rest : List Char) : Option Lexer :=
  let indicates := s.inFlow || startsApart rest
  match c with
  | '[' => s.openFlow? .flowSequenceStart
  | '\x7b' => s.openFlow? .flowMappingStart
  | ']' => s.closeFlow? .flowSequenceEnd
  | '\x7d' => s.closeFlow? .flowMappingEnd
  | ',' => s.flowEntry?
  | '*' => s.name? .reference
  | '&' => s.name? .anchor
  | '!' => s.tag?
  | '\'' => s.quoted? false
  | '"' => s.quoted? true
  | _ =>
    if c = '-' && startsApart rest then s.blockEntry?
    else if c = '?' && indicates then s.key?
    else if c = ':' && indicates then s.value?
    else if c = '|' && !s.inFlow then s.block? .literal
    else if c = '>' && !s.inFlow then s.block? .folded
    else if Plain.startsAt s.inFlow (c :: rest) then s.plain?
    else none

/-- Reads the next token where there is one, or closes everything at the end of the text. -/
def next? (s : Lexer) : Option (Lexer × Bool) := do
  let s ← s.toNextToken.dropStale?
  let s := s.closeBlocks (some s.cursor.column)
  match s.cursor.rest with
  | [] => return (← (s.closeBlocks none).dropCandidate?, true)
  | c :: rest =>
    let s ←
      if s.cursor.column = 0 && c = '%' then s.directive?
      else if s.cursor.isAtMark '-' then s.documentMark? .documentStart
      else if s.cursor.isAtMark '.' then s.documentMark? .documentEnd
      else s.token? c rest
    return (s, false)

/-- Reads tokens up to the end. Each takes one unit of `fuel`. -/
def run? : Nat → Lexer → Option Lexer
  | 0, _ => none
  | fuel + 1, s => do
    let (s, atEnd) ← s.next?
    if atEnd then return s else run? fuel s

end Lexer

def tokens? (text : String) : Option (List Token) := do
  if !text.toList.all isAllowed then none
  let cs := normalize text.toList
  let s ← Lexer.run? (cs.length + 2) { cursor := .start cs }
  return s.tokens.reverse

end RegisterFile.Yaml
