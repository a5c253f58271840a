import RegisterFile.Node

/-!
Records in document trees. A record is a mapping from field names or the list of its values in
order. Names that no field has are passed over; a field given twice, under one name or under two
of its names, is refused. Values left out at the end of a list are absent like missing names.
-/

namespace RegisterFile

/-- The document formats. They differ in how the variants of a choice may be spelled and in how
    deep a value that is set aside may nest. -/
inductive Format where
  | json
  | yaml
  deriving DecidableEq, Repr

/-- How deep a value inside an entry of the field list may nest: what the format's limit leaves
    inside the document, the list and the entry. -/
def Format.entryRoom : Format → Nat
  | json => 124
  | yaml => 125

/-- The fields of a record in order, each with the names under which it may be given. -/
abbrev Shape := List (List String)

namespace Node

/-- The one value given under some of the names: none if there is none, a failure if there are
    several. -/
def given? (names : List String) (entries : List (String × Node)) : Option (Option Node) :=
  match entries.filter fun entry => names.contains entry.1 with
  | [] => some none
  | [entry] => some (some entry.2)
  | _ => none

/-- The values of a record's fields, by name. -/
def fieldsByName? (shape : Shape) (entries : List (String × Node)) :
    Option (List (Option Node)) :=
  shape.mapM fun names => given? names entries

/-- The values of a record's fields, by position. -/
def fieldsByPosition? (shape : Shape) (items : List Node) : Option (List (Option Node)) :=
  if items.length ≤ shape.length then
    some (items.map some ++ List.replicate (shape.length - items.length) none)
  else none

/-- The field that a key names: by its text or, for a number that was set aside, by its
    position. A position that no field has is as good as an unknown name. -/
def keyName? (shape : Shape) (key : Node) : Option String :=
  match key.text?, key.kind? with
  | some name, _ => some name
  | none, some (.natural n) => some ((shape[n]?.bind List.head?).getD "")
  | none, _ => none

/-- The entries of a mapping under the names of their keys. -/
def namedEntries? (shape : Shape) (node : Node) : Option (List (String × Node)) := do
  (← node.entries?).mapM fun (key, value) => (keyName? shape key).map fun name => (name, value)

/-- The values of a record's fields. -/
def fields? (shape : Shape) (node : Node) : Option (List (Option Node)) :=
  match node.untagged with
  | sequence items => fieldsByPosition? shape items
  | _ => (node.namedEntries? shape).bind (fieldsByName? shape)

/-- The name of a variant of a choice. -/
def variant? (format : Format) : Node → Option String
  | tagged label content => if content.presence = .absent then some label else none
  | mapping [(key, value)] =>
    if format = .json && value.presence = .absent then key.plainText? else none
  | node => node.text?

end Node

/-- The value of a field that must be given. -/
def required {α : Type} (read : Node → Option α) (value : Option Node) : Option α :=
  value.bind read

/-- The value of a field, or its default where it is not given. -/
def defaulting {α : Type} (default : α) (read : Node → Option α) (value : Option Node) :
    Option α :=
  match value with
  | none => some default
  | some node => read node

/-- The value of a field that may also be null. -/
def nullable {α : Type} (read : Node → Option α) (value : Option Node) : Option (Option α) :=
  match value with
  | none => some none
  | some node =>
    match node.presence with
    | .absent => some none
    | .present => (read node).map some
    | .contradictory => none

/-- A list, each item read alike. -/
def listOf {α : Type} (read : Node → Option α) (node : Node) : Option (List α) := do
  (← node.items?).mapM read

/-- A number of 32 bits. -/
def Node.word32? (node : Node) : Option UInt32 :=
  (node.natural? UInt32.size).map UInt32.ofNat

/-- A number of 64 bits. -/
def Node.word64? (node : Node) : Option UInt64 :=
  (node.natural? UInt64.size).map UInt64.ofNat

end RegisterFile
