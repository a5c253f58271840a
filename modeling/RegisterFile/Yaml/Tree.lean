import RegisterFile.Yaml.Token

/-!
The tree of a YAML document: collections, scalars with how they are written, tags resolved to what
their handles stand for, anchors and aliases. Anchors are numbered by how many names there were
before; an alias has the number that its name stands for where it is met, and refers to the last
node of that number in the whole document.
-/

namespace RegisterFile.Yaml

/-- A node of a document. -/
inductive Tree where
  | scalar (style : Style) (tag : Option String) (text : String)
  | sequence (tag : Option String) (items : List Tree)
  | mapping (tag : Option String) (entries : List (Tree × Tree))
  | anchored (number : Nat) (content : Tree)
  /-- An alias. -/
  | reference (number : Nat)

namespace Tree

/-- The place of a node where none is written. -/
def empty : Tree := scalar .plain none ""

/-- What is left to read, and the numbers of the anchors met so far. -/
structure Input where
  tokens : List Token
  anchors : List (String × Nat) := []

namespace Input

/-- The next token. -/
def head? (input : Input) : Option Token :=
  input.tokens.head?

/-- The input behind the next token. -/
def tail (input : Input) : Input :=
  { input with tokens := input.tokens.tail }

/-- The input behind a token that has to be the next one. -/
def expect? (input : Input) (token : Token) : Option Input :=
  if input.head? = some token then some input.tail else none

/-- Whether the next token is one of some tokens. -/
def isAt (input : Input) (tokens : List Token) : Bool :=
  input.head?.any tokens.contains

/-- Gives a name a number. -/
def addAnchor (input : Input) (name : String) : Nat × Input :=
  let number := input.anchors.length
  let others := input.anchors.filter fun anchor => anchor.1 != name
  (number, { input with anchors := (name, number) :: others })

/-- The number of a name. -/
def anchor? (input : Input) (name : String) : Option Nat :=
  (input.anchors.find? fun anchor => anchor.1 == name).map (·.2)

end Input

/-- What handles stand for. -/
abbrev Handles := List (String × String)

/-- The handles that need no directive. -/
def standardHandles : Handles :=
  [("!", "!"), ("!!", "tag:yaml.org,2002:")]

/-- The full form of a tag; the handle has to be known. -/
def fullTag? (handles : Handles) (handle suffix : String) : Option String :=
  if handle.isEmpty then some suffix
  else (handles.find? fun known => known.1 == handle).map fun known => known.2 ++ suffix

/-- The anchor and the tag in front of a node. -/
structure Properties where
  anchor : Option String := none
  tag : Option String := none

/-- Whether anything stands in front of the node. -/
def Properties.isPresent (properties : Properties) : Bool :=
  properties.anchor.isSome || properties.tag.isSome

/-- Reads an anchor, if there is one. -/
def anchorName (input : Input) : Option String × Input :=
  match input.head? with
  | some (.anchor name) => (some name, input.tail)
  | _ => (none, input)

/-- Reads a tag, if there is one. -/
def tagName? (handles : Handles) (input : Input) : Option (Option String × Input) :=
  match input.head? with
  | some (.tag handle suffix) => (fullTag? handles handle suffix).map fun tag =>
      (some tag, input.tail)
  | _ => some (none, input)

/-- Reads what stands in front of a node: an anchor and a tag at most, in either order. -/
def properties? (handles : Handles) (input : Input) : Option (Properties × Input) := do
  let (anchor, input) := anchorName input
  let (tag, input) ← tagName? handles input
  let (anchor, input) := match anchor with
    | some _ => (anchor, input)
    | none => if tag.isSome then anchorName input else (none, input)
  return (⟨anchor, tag⟩, input)

/-- Notes an anchor, whose number its node gets. -/
def noteAnchor (anchor : Option String) (input : Input) : Option Nat × Input :=
  match anchor with
  | some name =>
    let (number, input) := input.addAnchor name
    (some number, input)
  | none => (none, input)

/-- A node with its anchor. -/
def withAnchor (number : Option Nat) (tree : Tree) : Tree :=
  match number with
  | some number => anchored number tree
  | none => tree

/-- A scalar with its tag; the non-specific tag says that it is to be read as if it were plain. -/
def ofScalar (style : Style) (tag : Option String) (text : String) : Tree :=
  if tag = some "!" then scalar style none text else scalar style tag text

mutual

/-- Reads a node, which may be a block collection or not; a list whose items are indented no
    deeper than the mapping around it may take the place of a value. Every step takes one unit of
    `fuel`. -/
def node? (handles : Handles) (block indentless : Bool) :
    Nat → Input → Option (Tree × Input)
  | 0, _ => none
  | fuel + 1, input => do
    if let some (.reference name) := input.head? then
      return (reference (← input.anchor? name), input.tail)
    let (properties, input) ← properties? handles input
    let (number, input) := noteAnchor properties.anchor input
    let (tree, input) ← content? handles block indentless properties fuel input
    return (withAnchor number tree, input)

/-- Reads a node behind its properties. -/
def content? (handles : Handles) (block indentless : Bool) (properties : Properties) :
    Nat → Input → Option (Tree × Input)
  | 0, _ => none
  | fuel + 1, input => do
    let tag := properties.tag
    match input.head? with
    | some (.scalar style text) => return (ofScalar style tag text, input.tail)
    | some .flowSequenceStart =>
      let (items, input) ← flowItems? handles true fuel input.tail
      return (sequence tag items, input)
    | some .flowMappingStart =>
      let (entries, input) ← flowEntries? handles true fuel input.tail
      return (mapping tag entries, input)
    | token =>
      if indentless && token = some .blockEntry then
        let (items, input) ← plainItems? handles fuel input
        return (sequence tag items, input)
      else if block && token = some .blockSequenceStart then
        let (items, input) ← blockItems? handles fuel input.tail
        return (sequence tag items, input)
      else if block && token = some .blockMappingStart then
        let (entries, input) ← blockEntries? handles fuel input.tail
        return (mapping tag entries, input)
      else if properties.isPresent then return (scalar .plain tag "", input)
      else none

/-- Reads a node, or none where one of some tokens is ahead. -/
def nodeUnless? (handles : Handles) (tokens : List Token) (block indentless : Bool) :
    Nat → Input → Option (Tree × Input)
  | 0, _ => none
  | fuel + 1, input =>
    if input.isAt tokens then some (empty, input) else node? handles block indentless fuel input

/-- Reads the items of a block sequence. -/
def blockItems? (handles : Handles) : Nat → Input → Option (List Tree × Input)
  | 0, _ => none
  | fuel + 1, input => do
    match input.head? with
    | some .blockEntry =>
      let (item, input) ← nodeUnless? handles [.blockEntry, .blockEnd] true false fuel input.tail
      let (items, input) ← blockItems? handles fuel input
      return (item :: items, input)
    | _ => return ([], ← input.expect? .blockEnd)

/-- Reads the items of a block sequence without indentation of its own. -/
def plainItems? (handles : Handles) : Nat → Input → Option (List Tree × Input)
  | 0, _ => none
  | fuel + 1, input => do
    match input.head? with
    | some .blockEntry =>
      let (item, input) ← nodeUnless? handles [.blockEntry, .key, .value, .blockEnd] true false
        fuel input.tail
      let (items, input) ← plainItems? handles fuel input
      return (item :: items, input)
    | _ => return ([], input)

/-- Reads a value of a block mapping, if there is one. -/
def blockValue? (handles : Handles) : Nat → Input → Option (Tree × Input)
  | 0, _ => none
  | fuel + 1, input =>
    if input.head? = some .value then
      nodeUnless? handles [.key, .value, .blockEnd] true true fuel input.tail
    else some (empty, input)

/-- Reads the entries of a block mapping. -/
def blockEntries? (handles : Handles) : Nat → Input → Option (List (Tree × Tree) × Input)
  | 0, _ => none
  | fuel + 1, input => do
    match input.head? with
    | some .key =>
      let (key, input) ← nodeUnless? handles [.key, .value, .blockEnd] true true fuel input.tail
      let (value, input) ← blockValue? handles fuel input
      let (entries, input) ← blockEntries? handles fuel input
      return ((key, value) :: entries, input)
    | _ => return ([], ← input.expect? .blockEnd)

/-- Reads the value of a pair in a flow collection that `close` ends, if there is one. -/
def flowValue? (handles : Handles) (close : Token) : Nat → Input → Option (Tree × Input)
  | 0, _ => none
  | fuel + 1, input =>
    if input.head? = some .value then
      nodeUnless? handles [.flowEntry, close] false false fuel input.tail
    else some (empty, input)

/-- Reads a pair that is an item of a flow sequence, behind its key mark. Where the key is left
    out, the token in its place goes with it. -/
def flowPair? (handles : Handles) : Nat → Input → Option (Tree × Input)
  | 0, _ => none
  | fuel + 1, input => do
    let (key, input) ←
      if input.isAt [.value, .flowEntry, .flowSequenceEnd] then some (empty, input.tail)
      else node? handles false false fuel input
    let (value, input) ← flowValue? handles .flowSequenceEnd fuel input
    return (mapping none [(key, value)], input)

/-- Reads the items of a flow sequence, the first one or further ones. -/
def flowItems? (handles : Handles) (first : Bool) : Nat → Input → Option (List Tree × Input)
  | 0, _ => none
  | fuel + 1, input => do
    if input.head? = some .flowSequenceEnd then return ([], input.tail)
    let input ← if first then some input else input.expect? .flowEntry
    if input.head? = some .flowSequenceEnd then return ([], input.tail)
    let (item, input) ←
      if input.head? = some .key then flowPair? handles fuel input.tail
      else node? handles false false fuel input
    let (items, input) ← flowItems? handles false fuel input
    return (item :: items, input)

/-- Reads the entries of a flow mapping, the first one or further ones. -/
def flowEntries? (handles : Handles) (first : Bool) :
    Nat → Input → Option (List (Tree × Tree) × Input)
  | 0, _ => none
  | fuel + 1, input => do
    if input.head? = some .flowMappingEnd then return ([], input.tail)
    let input ← if first then some input else input.expect? .flowEntry
    if input.head? = some .flowMappingEnd then return ([], input.tail)
    let (key, value, input) ←
      if input.head? = some .key then
        let (key, input) ← nodeUnless? handles [.value, .flowEntry, .flowMappingEnd] false false
          fuel input.tail
        let (value, input) ← flowValue? handles .flowMappingEnd fuel input
        some (key, value, input)
      else
        let (key, input) ← node? handles false false fuel input
        some (key, empty, input)
    let (entries, input) ← flowEntries? handles false fuel input
    return ((key, value) :: entries, input)

end

/-- Reads the directives in front of a document: one version at most, and each handle once. -/
def directives? (version : Bool) (handles : Handles) : List Token → Option (Handles × List Token)
  | .version major minor :: rest =>
    if version || major != 1 || (minor != 1 && minor != 2) then none
    else directives? true handles rest
  | .handle name stem :: rest =>
    if handles.any fun known => known.1 == name then none
    else directives? version ((name, stem) :: handles) rest
  | tokens => some (handles, tokens)

/-- Reads the one document of a text. Directives need the mark of a document's start behind them,
    and behind the mark the document may be empty. -/
def ofTokens? (tokens : List Token) : Option Tree := do
  let fuel := 6 * tokens.length + 6
  let (known, rest) ← directives? false [] tokens
  let handles := known ++ standardHandles
  let marked := rest.head? = some .documentStart
  if rest.isEmpty || (!marked && rest.length < tokens.length) then none
  let input : Input := { tokens := if marked then rest.tail else rest }
  let (tree, input) ←
    if marked && (input.tokens.isEmpty || input.isAt [.documentStart, .documentEnd]) then
      some (empty, input)
    else node? handles true false fuel input
  if input.tokens.all (· == .documentEnd) then return tree else none

end Tree

end RegisterFile.Yaml
