import RegisterFile.Text.Numeral

/-!
JSON values and their text. `compact` writes no white space; `pretty` puts each element on a line
of its own, two spaces deeper than the bracket that opens its collection. Strings escape only
quotes, backslashes and control characters below the space.
-/

namespace RegisterFile

/-- A JSON value; of numbers there are the natural ones. -/
inductive Json where
  | null
  | bool (value : Bool)
  | natural (n : Nat)
  | string (s : String)
  | array (items : List Json)
  | object (members : List (String × Json))

namespace Json

/-- A string, or null where there is none. -/
def optionalString (s : Option String) : Json :=
  match s with
  | some s => string s
  | none => null

/-- The text of one character in a string. -/
def escape (c : Char) : List Char :=
  if c = '"' then ['\\', '"']
  else if c = '\\' then ['\\', '\\']
  else if c = '\x08' then ['\\', 'b']
  else if c = '\t' then ['\\', 't']
  else if c = '\n' then ['\\', 'n']
  else if c = '\x0c' then ['\\', 'f']
  else if c = '\r' then ['\\', 'r']
  else if c.toNat < 0x20 then ['\\', 'u', '0', '0'] ++ Numeral.padded 2 (Numeral.hex c.toNat)
  else [c]

def quoted (s : String) : List Char :=
  '"' :: (s.toList.flatMap escape ++ ['"'])

mutual

/-- The text of a value without white space. -/
def chars : Json → List Char
  | null => "null".toList
  | bool true => "true".toList
  | bool false => "false".toList
  | natural n => Numeral.decimal n
  | string s => quoted s
  | array items => '[' :: charsOfItems items
  | object members => '\x7b' :: charsOfMembers members

/-- The elements of an array and its closing bracket. -/
def charsOfItems : List Json → List Char
  | [] => [']']
  | [item] => item.chars ++ [']']
  | item :: rest => item.chars ++ ',' :: charsOfItems rest

/-- The members of an object and its closing brace. -/
def charsOfMembers : List (String × Json) → List Char
  | [] => ['\x7d']
  | [(key, value)] => quoted key ++ ':' :: value.chars ++ ['\x7d']
  | (key, value) :: rest => quoted key ++ ':' :: value.chars ++ ',' :: charsOfMembers rest

end

/-- The text of a value without white space. -/
def compact (json : Json) : String :=
  String.ofList json.chars

/-- A line break and the indentation of a nesting depth. -/
def lineBreak (depth : Nat) : String :=
  "\n" ++ String.ofList (List.replicate (2 * depth) ' ')

mutual

/-- The text of a value over several lines, inside collections of the given depth. -/
def prettyAt (depth : Nat) : Json → String
  | array [] => "[]"
  | array items =>
    "[" ++ ",".intercalate (prettyItems (depth + 1) items) ++ lineBreak depth ++ "]"
  | object [] => "\x7b\x7d"
  | object members =>
    "\x7b" ++ ",".intercalate (prettyMembers (depth + 1) members) ++ lineBreak depth ++ "\x7d"
  | json => json.compact

/-- The elements of an array, each on a line of its own. -/
def prettyItems (depth : Nat) : List Json → List String
  | [] => []
  | item :: rest => (lineBreak depth ++ item.prettyAt depth) :: prettyItems depth rest

/-- The members of an object, each on a line of its own. -/
def prettyMembers (depth : Nat) : List (String × Json) → List String
  | [] => []
  | (key, value) :: rest =>
    (lineBreak depth ++ String.ofList (quoted key) ++ ": " ++ value.prettyAt depth) ::
      prettyMembers depth rest

end

/-- The text of a value over several lines. -/
def pretty (json : Json) : String :=
  json.prettyAt 0

end Json

end RegisterFile
