import RegisterFile.Text.Numeral
import RegisterFile.Yaml.Token

/-!
What is said about nodes and documents: anchors and aliases, tags, and the directives for versions
and tag handles.
-/

namespace RegisterFile.Yaml.Property

/-- Characters that may follow a name directly. -/
def nameEnds : List Char :=
  ['?', ':', ',', ']', '\x7d', '%', '@', '`']

/-- The name of an anchor or alias behind its sign, with the cursor behind it. -/
def name? (c : Cursor) : Option (String × Cursor) :=
  let name := c.run isNameChar
  let c := c.drop name.length
  if !name.isEmpty && (startsApart c.rest || c.rest.head?.any nameEnds.contains) then
    some (String.ofList name, c)
  else none

def tagPunctuation : List Char :=
  [';', '/', '?', ':', '@', '&', '=', '+', '$', '.', '!', '~', '*', '\'', '(', ')']

/-- Whether a character may stand in a tag, written out in full or not. -/
def isTagChar (full : Bool) (c : Char) : Bool :=
  isNameChar c || tagPunctuation.contains c || (full && [',', '[', ']'].contains c)

/-- The bytes of percent escapes at the start of a text, and the number of escapes. -/
def escapedBytes? : List Char → Option (List UInt8)
  | '%' :: a :: b :: rest => do
    return (UInt8.ofNat (← Numeral.ofDigits? 16 [a, b])) :: (← escapedBytes? rest)
  | '%' :: _ => none
  | _ => some []

/-- The rest of a tag, with the number of characters that it takes up. Neighbouring escapes spell
    the bytes of characters. Each piece takes one unit of `fuel`. -/
def tagRest? (full : Bool) : Nat → List Char → Option (List Char × Nat)
  | 0, _ => none
  | fuel + 1, cs =>
    match cs with
    | '%' :: _ => do
      let bytes ← escapedBytes? cs
      let text ← String.fromUTF8? ⟨bytes.toArray⟩
      let length := 3 * bytes.length
      let (rest, count) ← tagRest? full fuel (cs.drop length)
      return (text.toList ++ rest, length + count)
    | c :: rest =>
      if isTagChar full c then do
        let (more, count) ← tagRest? full fuel rest
        return (c :: more, count + 1)
      else some ([], 0)
    | [] => some ([], 0)

/-- The rest of a tag at a cursor, with the cursor behind it. -/
def readTagRest? (full : Bool) (c : Cursor) : Option (List Char × Cursor) := do
  let (text, length) ← tagRest? full (c.rest.length + 1) c.rest
  return (text, c.drop length)

/-- The handle at a cursor: an exclamation mark, a name and perhaps another mark. -/
def handleAt (c : Cursor) : List Char × Cursor :=
  let name := c.step.run isNameChar
  let behind := c.step.drop name.length
  if behind.isAt '!' then ('!' :: (name ++ ['!']), behind.step) else ('!' :: name, behind)

/-- A tag written out between angle brackets. -/
def fullTag? (c : Cursor) : Option (Token × Cursor) := do
  let (text, c) ← readTagRest? true (c.drop 2)
  if text.isEmpty || !c.isAt '>' then none
  return (.tag "" (String.ofList text), c.step)

/-- A tag of a handle and a suffix, or the mark alone. -/
def shortTag? (c : Cursor) : Option (Token × Cursor) := do
  let (handle, c) := handleAt c
  let (text, c) ← readTagRest? false c
  if 2 ≤ handle.length && handle.getLast? == some '!' then
    if text.isEmpty then none
    return (.tag (String.ofList handle) (String.ofList text), c)
  match handle.drop 1 ++ text with
  | [] => return (.tag "" "!", c)
  | suffix => return (.tag "!" (String.ofList suffix), c)

/-- The tag at a cursor, inside brackets or not, with the cursor behind it. -/
def tag? (flow : Bool) (c : Cursor) : Option (Token × Cursor) := do
  let (token, c) ← if c.step.isAt '<' then fullTag? c else shortTag? c
  if startsApart c.rest || (flow && c.isAt ',') then return (token, c) else none

/-- The digits of a version number, of which there are one to nine. -/
def versionNumber? (c : Cursor) : Option (Nat × Cursor) := do
  let digits := c.run Char.isDigit
  if 9 < digits.length then none
  return (← Numeral.ofDigits? 10 digits, c.drop digits.length)

/-- The value of a version directive. -/
def version? (c : Cursor) : Option (Token × Cursor) := do
  let (major, c) ← versionNumber? (c.skip isGap)
  if !c.isAt '.' then none
  let (minor, c) ← versionNumber? c.step
  return (.version major minor, c)

/-- The value of a handle directive. -/
def handleDirective? (c : Cursor) : Option (Token × Cursor) := do
  let c := c.skip isGap
  if !c.isAt '!' then none
  let (handle, c) := handleAt c
  if 1 < handle.length && handle.getLast? != some '!' then none
  if !c.rest.head?.any isGap then none
  let (stem, c) ← readTagRest? true (c.skip isGap)
  if stem.isEmpty || !startsApart c.rest then none
  return (.handle (String.ofList handle) (String.ofList stem), c)

/-- The directive at a cursor, with the cursor at the next line. -/
def directive? (c : Cursor) : Option (Token × Cursor) := do
  let c := c.step
  let name := c.run isNameChar
  let c := c.drop name.length
  if !startsApart c.rest then none
  let (token, c) ← match String.ofList name with
    | "YAML" => version? c
    | "TAG" => handleDirective? c
    | _ => none
  return (token, ← c.endLine?)

end RegisterFile.Yaml.Property
