/-!
Document trees: what a JSON or YAML text holds before it is known what it describes. What a scalar
is depends on how it is asked: the YAML `12` is a number, but reads as the string `12` where a
string is wanted, and an empty place reads as null or as an empty list. A scalar keeps an answer
to each question.
-/

namespace RegisterFile

/-- What kind of value a scalar is. -/
inductive Kind where
  | null
  | bool (value : Bool)
  | natural (n : Nat)
  /-- Any other number: negative, with a fraction or with an exponent. -/
  | number
  | text
  /-- Grammatical, but without a value. -/
  | unreadable
  deriving DecidableEq

/-- What a scalar is where a value may also be null. -/
inductive Presence where
  | absent
  | present
  /-- It says that it is null, and is not. -/
  | contradictory
  deriving DecidableEq

/-- A value without parts. -/
structure Scalar where
  /-- What it is when nothing is known about its use. -/
  kind : Kind
  /-- What it is where a number or a truth value is wanted. -/
  wanted : Kind
  presence : Presence
  /-- Nothing at all is written, which stands for an empty collection. -/
  blank : Bool
  /-- What it is where a string is wanted. -/
  text : Option String
  deriving DecidableEq

/-- A scalar of the same kind in every use. -/
def Scalar.ofKind (kind : Kind) (text : Option String) : Scalar where
  kind := kind
  wanted := kind
  presence := if kind = .null then .absent else .present
  blank := false
  text := text

/-- A document tree. The keys of a mapping are kept in order, repeated ones too. -/
inductive Node where
  | scalar (scalar : Scalar)
  | sequence (items : List Node)
  | mapping (entries : List (Node × Node))
  /-- A node with an application tag. -/
  | tagged (label : String) (content : Node)

namespace Node

/-- A node that is a string in every use. -/
def ofString (s : String) : Node :=
  scalar (.ofKind .text (some s))

/-- A node without its tags. -/
def untagged : Node → Node
  | tagged _ content => content.untagged
  | node => node

/-- A node read as a string. -/
def text? (node : Node) : Option String :=
  match node.untagged with
  | scalar s => s.text
  | _ => none

/-- What kind of scalar a node is when nothing is known about its use. -/
def kind? : Node → Option Kind
  | scalar s => some s.kind
  | _ => none

/-- The text of a node that is a string without being asked. -/
def plainText? (node : Node) : Option String :=
  if node.kind? = some .text then node.text? else none

/-- A node read as a number below `bound`. -/
def natural? (bound : Nat) (node : Node) : Option Nat :=
  match node.untagged with
  | scalar ⟨_, .natural n, _, _, _⟩ => if n < bound then some n else none
  | _ => none

/-- A node read as a truth value. -/
def bool? (node : Node) : Option Bool :=
  match node.untagged with
  | scalar ⟨_, .bool value, _, _, _⟩ => some value
  | _ => none

/-- What a node is where it may be null. -/
def presence : Node → Presence
  | scalar s => s.presence
  | _ => .present

/-- Whether nothing at all is written. -/
def isBlank (node : Node) : Bool :=
  match node.untagged with
  | scalar s => s.blank
  | _ => false

/-- A node read as a list; nothing at all stands for the empty one. -/
def items? (node : Node) : Option (List Node) :=
  match node.untagged with
  | sequence items => some items
  | node => if node.isBlank then some [] else none

/-- A node read as a mapping; nothing at all stands for the empty one. -/
def entries? (node : Node) : Option (List (Node × Node)) :=
  match node.untagged with
  | mapping entries => some entries
  | node => if node.isBlank then some [] else none

/-- A scalar that is set aside before its use is known: it keeps its kind, and a text only if it
    is one. -/
def setScalarAside? (s : Scalar) : Option Node :=
  match s.kind with
  | .unreadable => none
  | .text => some (scalar (.ofKind .text s.text))
  | kind => some (scalar (.ofKind kind none))

mutual

/-- A value that is set aside before its use is known. Collections may nest at most `room` deep,
    and tags cannot be kept. -/
def setAside? (room : Nat) : Node → Option Node
  | scalar s => setScalarAside? s
  | sequence items =>
    match room with
    | 0 => none
    | room + 1 => (setItemsAside? room items).map sequence
  | mapping entries =>
    match room with
    | 0 => none
    | room + 1 => (setEntriesAside? room entries).map mapping
  | tagged _ _ => none

/-- The items of a list that is set aside. -/
def setItemsAside? (room : Nat) : List Node → Option (List Node)
  | [] => some []
  | item :: rest => do
    let item ← setAside? room item
    return item :: (← setItemsAside? room rest)

/-- The entries of a mapping that is set aside. -/
def setEntriesAside? (room : Nat) : List (Node × Node) → Option (List (Node × Node))
  | [] => some []
  | (key, value) :: rest => do
    let key ← setAside? room key
    let value ← setAside? room value
    return (key, value) :: (← setEntriesAside? room rest)

end

end Node

end RegisterFile
