import RegisterFile.Yaml.Cursor

/-!
Block scalars: the lines below a vertical bar or a greater-than sign, as far as they are indented.
Behind the sign may stand how deep they are, and whether the breaks at the end are kept or
dropped. Below a greater-than sign lines are folded, except those that start with a blank.
-/

namespace RegisterFile.Yaml.Block

/-- What becomes of the line breaks at the end of a scalar. -/
inductive Chomping where
  /-- The last line keeps its break. -/
  | clip
  /-- All breaks go. -/
  | strip
  /-- All breaks stay. -/
  | keep
  deriving DecidableEq, Repr

/-- What stands behind the sign. -/
structure Header where
  chomping : Chomping
  /-- The indentation beyond that of the surrounding collection, where it is given. -/
  increment : Option Nat

/-- The chomping at the start of a text, with the number of characters that it takes up. -/
def chompingAt : List Char → Chomping × Nat
  | '+' :: _ => (.keep, 1)
  | '-' :: _ => (.strip, 1)
  | _ => (.clip, 0)

/-- The increment at the start of a text, with the number of characters that it takes up. Zero is
    refused. -/
def incrementAt? : List Char → Option (Option Nat × Nat)
  | [] => some (none, 0)
  | c :: _ =>
    if c = '0' then none
    else if c.isDigit then some (some (c.toNat - '0'.toNat), 1)
    else some (none, 0)

/-- Reads a header, its two parts in either order, with the cursor at the next line. -/
def header? (c : Cursor) : Option (Header × Cursor) := do
  let (chomping, length) := chompingAt c.rest
  let c := c.drop length
  let (increment, digits) ← incrementAt? c.rest
  let c := c.drop digits
  let (chomping, length) :=
    if length = 0 && digits = 1 then chompingAt c.rest else (chomping, 0)
  return (⟨chomping, increment⟩, ← (c.drop length).endLine?)

/-- The column at which the spaces ahead end, going no further than `limit`. -/
def indentEnd (limit : Option Nat) (c : Cursor) : Cursor :=
  let spaces := (c.run (· == ' ')).length
  match limit with
  | none => c.drop spaces
  | some limit => c.drop (min spaces (limit - c.column))

/-- The breaks of empty lines ahead, the greatest column among them, and the cursor at the next
    line that is not empty. A tab in the indentation is refused. -/
def emptyLines? (limit : Option Nat) (breaks : List Char) (widest : Nat) :
    Nat → Cursor → Option (List Char × Nat × Cursor)
  | 0, _ => none
  | fuel + 1, c =>
    let c := indentEnd limit c
    let widest := max widest c.column
    if c.isAt '\t' && limit.all (c.column < ·) then none
    else match c.rest with
      | char :: _ =>
        if isBreak char then emptyLines? limit (breaks ++ [char]) widest fuel c.step
        else some (breaks, widest, c)
      | [] => some (breaks, widest, c)

/-- What has been read of a scalar. -/
structure Lines where
  text : List Char
  /-- The break of the last line. -/
  lastBreak : Option Char
  /-- The breaks of the empty lines behind it. -/
  emptyBreaks : List Char
  /-- The last line starts with a blank. -/
  blank : Bool

/-- What stands between the lines read so far and the next one, which starts with a blank or
    not. -/
def Lines.joint (lines : Lines) (folded blank : Bool) : List Char :=
  if folded && lines.lastBreak == some '\n' && !lines.blank && !blank then
    if lines.emptyBreaks.isEmpty then [' '] else lines.emptyBreaks
  else lines.lastBreak.toList ++ lines.emptyBreaks

/-- Reads the lines that are indented to column `indent`. Each takes one unit of `fuel`. -/
def lines? (folded : Bool) (indent : Nat) (lines : Lines) :
    Nat → Cursor → Option (Lines × Cursor)
  | 0, _ => none
  | fuel + 1, c => do
    if c.column != indent || c.isAtEnd then return (lines, c)
    let blank := c.rest.head?.any isGap
    let line := c.run fun char => !isBreak char
    let c := c.drop line.length
    let text := lines.text ++ lines.joint folded blank ++ line
    let (breaks, _, next) ← emptyLines? (some indent) [] 0 (c.rest.length + 1) c.step
    lines? folded indent ⟨text, c.rest.head?, breaks, blank⟩ fuel next

/-- The text of a scalar with its end treated as its header says. -/
def Lines.finish (lines : Lines) (chomping : Chomping) : List Char :=
  lines.text ++
    match chomping with
    | .strip => []
    | .clip => lines.lastBreak.toList
    | .keep => lines.lastBreak.toList ++ lines.emptyBreaks

/-- The block scalar at a cursor in a collection indented to a column, if there is any around it;
    with the cursor behind it. -/
def read? (folded : Bool) (outer : Option Nat) (c : Cursor) : Option (String × Cursor) := do
  let (header, c) ← header? c.step
  let limit := header.increment.map (outer.getD 0 + ·)
  let (breaks, widest, c) ← emptyLines? limit [] 0 (c.rest.length + 1) c
  let least := match outer with
    | some column => column + 1
    | none => 1
  let indent := limit.getD (max widest least)
  let (lines, c) ← lines? folded indent ⟨[], none, breaks, false⟩ (c.rest.length + 1) c
  return (String.ofList (lines.finish header.chomping), c)

end RegisterFile.Yaml.Block
