import RegisterFile.Text.Numeral
import RegisterFile.Yaml.Fold

/-!
Quoted scalars. In single quotes a quote is written twice and nothing is escaped. In double quotes
a backslash escapes a character, and a line break behind it is not folded.
-/

namespace RegisterFile.Yaml.Quoted

/-- The character of a one-letter escape. -/
def escaped? : Char → Option Char
  | '0' => some '\x00'
  | 'a' => some '\x07'
  | 'b' => some '\x08'
  | 't' => some '\t'
  | '\t' => some '\t'
  | 'n' => some '\n'
  | 'v' => some '\x0b'
  | 'f' => some '\x0c'
  | 'r' => some '\r'
  | 'e' => some '\x1b'
  | ' ' => some ' '
  | '"' => some '"'
  | '/' => some '/'
  | '\\' => some '\\'
  | 'N' => some '\u0085'
  | '_' => some '\u00a0'
  | 'L' => some '\u2028'
  | 'P' => some '\u2029'
  | _ => none

/-- The character of a hexadecimal number. -/
def charOfHex? (digits : List Char) : Option Char := do
  let n ← Numeral.ofDigits? 16 digits
  if h : n.isValidChar then some (Char.ofNatAux n h) else none

/-- A run of characters without separators. -/
structure Run where
  /-- The characters that it stands for. -/
  text : List Char
  /-- The number of characters that it takes up. -/
  length : Nat
  /-- It ends with an escaped line break. -/
  escapedBreak : Bool

namespace Run

/-- The run of no characters. -/
def empty : Run := ⟨[], 0, false⟩

/-- A character that takes up `length` ones, in front of a run. -/
def cons (c : Char) (length : Nat) (run : Run) : Run :=
  ⟨c :: run.text, length + run.length, run.escapedBreak⟩

end Run

/-- The run up to a separator or a single quote. -/
def singleRun : List Char → Run
  | [] => .empty
  | '\'' :: '\'' :: rest => (singleRun rest).cons '\'' 2
  | c :: rest => if c = '\'' || isSeparator c then .empty else (singleRun rest).cons c 1

/-- The run up to a separator or a double quote; a malformed escape has none. -/
def doubleRun? : List Char → Option Run
  | [] => some .empty
  | '\\' :: 'x' :: a :: b :: rest => do
    return (← doubleRun? rest).cons (← charOfHex? [a, b]) 4
  | '\\' :: 'u' :: a :: b :: c :: d :: rest => do
    return (← doubleRun? rest).cons (← charOfHex? [a, b, c, d]) 6
  | '\\' :: 'U' :: a :: b :: c :: d :: e :: f :: g :: h :: rest => do
    return (← doubleRun? rest).cons (← charOfHex? [a, b, c, d, e, f, g, h]) 10
  | '\\' :: c :: rest =>
    if isBreak c then some ⟨[], 2, true⟩
    else do return (← doubleRun? rest).cons (← escaped? c) 2
  | c :: rest =>
    if c = '"' || isSeparator c then some .empty
    else if c = '\\' then none
    else do return (← doubleRun? rest).cons c 1

/-- Reads a quoted scalar from behind its opening quote, with `text` read so far. Each run of
    characters takes one unit of `fuel`. -/
def readFrom? (double : Bool) (text : List Char) : Nat → Cursor → Option (List Char × Cursor)
  | 0, _ => none
  | fuel + 1, c => do
    if c.isAtDocumentMark || c.isAtEnd then none
    let run ← if double then doubleRun? c.rest else some (singleRun c.rest)
    let text := text ++ run.text
    let c := c.drop run.length
    if c.isAt (if double then '"' else '\'') then return (text, c.step)
    let (spacing, c) := (if run.escapedBreak then Spacing.escapedBreak else .none).take c
    readFrom? double (text ++ spacing.text) fuel c

/-- The quoted scalar at a cursor, with the cursor behind it. -/
def read? (double : Bool) (c : Cursor) : Option (String × Cursor) := do
  let (text, c) ← readFrom? double [] (c.rest.length + 1) c.step
  return (String.ofList text, c)

end RegisterFile.Yaml.Quoted
