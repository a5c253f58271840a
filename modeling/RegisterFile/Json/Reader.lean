import RegisterFile.Node
import RegisterFile.Text.Decimal

/-!
Reading JSON text as a document tree, by the strict grammar: no comments, no trailing commas, no
raw control characters in strings, and only white space behind the value. A string with an
unpaired surrogate escape, and a number out of the range of doubles, is grammatical but
unreadable.
-/

namespace RegisterFile.Json

/-- The white space of JSON. -/
def isSpace (c : Char) : Bool :=
  c == ' ' || c == '\t' || c == '\n' || c == '\r'

/-- A text without the white space at its start. -/
def skipSpace (cs : List Char) : List Char :=
  cs.dropWhile isSpace

/-- A piece of a string: a character, or a 16-bit unit given by its number. -/
inductive Piece where
  | char (c : Char)
  | unit (n : Nat)
  deriving DecidableEq

/-- The character of a one-letter escape. -/
def escaped? : Char → Option Char
  | '"' => some '"'
  | '\\' => some '\\'
  | '/' => some '/'
  | 'b' => some '\x08'
  | 'f' => some '\x0c'
  | 'n' => some '\n'
  | 'r' => some '\r'
  | 't' => some '\t'
  | _ => none

/-- Reads a string behind its opening quote, up to and including the closing one. -/
def pieces? : List Char → Option (List Piece × List Char)
  | [] => none
  | '"' :: rest => some ([], rest)
  | '\\' :: 'u' :: a :: b :: c :: d :: rest => do
    let n ← Numeral.ofDigits? 16 [a, b, c, d]
    let (pieces, after) ← pieces? rest
    return (.unit n :: pieces, after)
  | '\\' :: c :: rest => do
    let c ← escaped? c
    let (pieces, after) ← pieces? rest
    return (.char c :: pieces, after)
  | c :: rest => do
    if c.toNat < 0x20 || c == '\\' then none
    let (pieces, after) ← pieces? rest
    return (.char c :: pieces, after)

/-- Whether a unit is the first half of a surrogate pair. -/
def isLeading (n : Nat) : Bool :=
  0xD800 ≤ n && n < 0xDC00

/-- Whether a unit is the second half of a surrogate pair. -/
def isTrailing (n : Nat) : Bool :=
  0xDC00 ≤ n && n < 0xE000

/-- The characters of a string, unless a surrogate in it is unpaired. -/
def characters? : List Piece → Option (List Char)
  | [] => some []
  | .char c :: rest => (characters? rest).map (c :: ·)
  | .unit n :: rest =>
    if isTrailing n then none
    else if isLeading n then
      match rest with
      | .unit m :: rest =>
        if isTrailing m then
          (characters? rest).map
            (Char.ofNat (0x10000 + (n - 0xD800) * 0x400 + (m - 0xDC00)) :: ·)
        else none
      | _ => none
    else (characters? rest).map (Char.ofNat n :: ·)

/-- The scalar of a string. -/
def ofPieces (pieces : List Piece) : Scalar :=
  match characters? pieces with
  | some cs => .ofKind .text (some (String.ofList cs))
  | none => .ofKind .unreadable none

/-- Whether digits are an integer part: no zero in front of other digits. -/
def isWhole (digits : List Char) : Bool :=
  match digits with
  | [] => false
  | '0' :: rest => rest.isEmpty
  | _ => true

/-- Splits off a fraction: a point and at least one digit. A text that starts with no point has an
    empty one. -/
def splitFraction? (cs : List Char) : Option (List Char × List Char) :=
  match cs with
  | '.' :: rest =>
    let (digits, after) := rest.span Char.isDigit
    if digits.isEmpty then none else some (digits, after)
  | _ => some ([], cs)

def number? (cs : List Char) : Option (Kind × List Char) := do
  let (negative, cs) := match cs with
    | '-' :: rest => (true, rest)
    | _ => (false, cs)
  let (whole, afterWhole) := cs.span Char.isDigit
  if !isWhole whole then none
  let (fraction, afterFraction) ← splitFraction? afterWhole
  let (exponent, rest) ← Decimal.splitExponent? afterFraction
  if !(Decimal.ofParts whole fraction exponent).isDouble then return (.unreadable, rest)
  if negative || rest.length < afterWhole.length then return (.number, rest)
  let n ← Numeral.ofDigits? 10 whole
  return (.natural n, rest)

/-- Reads a word of the grammar that stands for a value. -/
def word? (cs : List Char) : Option (Kind × List Char) :=
  match cs with
  | 't' :: 'r' :: 'u' :: 'e' :: rest => some (.bool true, rest)
  | 'f' :: 'a' :: 'l' :: 's' :: 'e' :: rest => some (.bool false, rest)
  | 'n' :: 'u' :: 'l' :: 'l' :: rest => some (.null, rest)
  | _ => none

mutual

/-- Reads a value, with what follows it. Each level of nesting and each element takes one unit of
    `fuel`, of which the length of the text is enough. -/
def value? : Nat → List Char → Option (Node × List Char)
  | 0, _ => none
  | fuel + 1, cs =>
    match skipSpace cs with
    | '"' :: rest => do
      let (pieces, after) ← pieces? rest
      return (.scalar (ofPieces pieces), after)
    | '[' :: rest =>
      match skipSpace rest with
      | ']' :: after => some (.sequence [], after)
      | rest => do
        let (items, after) ← items? fuel rest
        return (.sequence items, after)
    | '\x7b' :: rest =>
      match skipSpace rest with
      | '\x7d' :: after => some (.mapping [], after)
      | rest => do
        let (entries, after) ← entries? fuel rest
        return (.mapping entries, after)
    | cs => do
      let (kind, after) ← (word? cs).or (number? cs)
      return (.scalar (.ofKind kind none), after)

/-- Reads the elements of an array up to and including its closing bracket. -/
def items? : Nat → List Char → Option (List Node × List Char)
  | 0, _ => none
  | fuel + 1, cs => do
    let (item, rest) ← value? fuel cs
    match skipSpace rest with
    | ']' :: after => return ([item], after)
    | ',' :: rest =>
      let (items, after) ← items? fuel rest
      return (item :: items, after)
    | _ => none

/-- Reads the members of an object up to and including its closing brace. -/
def entries? : Nat → List Char → Option (List (Node × Node) × List Char)
  | 0, _ => none
  | fuel + 1, cs =>
    match skipSpace cs with
    | '"' :: rest => do
      let (pieces, rest) ← pieces? rest
      match skipSpace rest with
      | ':' :: rest =>
        let (value, rest) ← value? fuel rest
        let entry := (Node.scalar (ofPieces pieces), value)
        match skipSpace rest with
        | '\x7d' :: after => return ([entry], after)
        | ',' :: rest =>
          let (entries, after) ← entries? fuel rest
          return (entry :: entries, after)
        | _ => none
      | _ => none
    | _ => none

end

/-- The tree of a JSON text. -/
def read? (text : String) : Option Node := do
  let cs := text.toList
  let (node, rest) ← value? (2 * cs.length + 2) cs
  if (skipSpace rest).isEmpty then return node else none

end RegisterFile.Json
