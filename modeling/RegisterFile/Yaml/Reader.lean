import RegisterFile.Yaml.Lexer
import RegisterFile.Yaml.Tree
import RegisterFile.Yaml.Value

/-!
Reading YAML text as a document tree. An alias stands for the node of its anchor. A node that
contains an alias of itself has no end; it is unrolled deeper than anything is read.
-/

namespace RegisterFile.Yaml

namespace Tree

mutual

/-- The anchored nodes of a tree in the order in which they start. -/
def anchors : Tree → List (Nat × Tree)
  | scalar _ _ _ => []
  | reference _ => []
  | anchored number content => (number, content) :: content.anchors
  | sequence _ items => anchorsOfItems items
  | mapping _ entries => anchorsOfEntries entries

/-- The anchored nodes of items. -/
def anchorsOfItems : List Tree → List (Nat × Tree)
  | [] => []
  | item :: rest => item.anchors ++ anchorsOfItems rest

/-- The anchored nodes of entries. -/
def anchorsOfEntries : List (Tree × Tree) → List (Nat × Tree)
  | [] => []
  | (key, value) :: rest => key.anchors ++ value.anchors ++ anchorsOfEntries rest

end

/-- The label of an application tag. -/
def label? (tag : Option String) : Option String :=
  match tag.map String.toList with
  | some ['!'] => some "!"
  | some ('!' :: label) => some (String.ofList label)
  | _ => none

/-- A node under its application tag, if it has one. -/
def labelled (tag : Option String) (node : Node) : Node :=
  match label? tag with
  | some label => .tagged label node
  | none => node

/-- The node of a scalar. Under an application tag it is as if it had none. -/
def scalarNode (style : Style) (tag : Option String) (text : String) : Node :=
  let standard := if (label? tag).isSome then none else tag
  labelled tag (.scalar (scalarOf style standard text))

/-- A node that can only be passed over. -/
def unreadable : Node :=
  .scalar (.ofKind .unreadable none)

mutual

/-- The node of a tree, where `known` holds the nodes of anchors by number. -/
def node (known : List Node) : Tree → Node
  | scalar style tag text => scalarNode style tag text
  | reference number => known[number]?.getD unreadable
  | anchored _ content => content.node known
  | sequence tag items => labelled tag (.sequence (nodes known items))
  | mapping tag entries => labelled tag (.mapping (nodePairs known entries))

/-- The nodes of items. -/
def nodes (known : List Node) : List Tree → List Node
  | [] => []
  | item :: rest => item.node known :: nodes known rest

/-- The nodes of entries. -/
def nodePairs (known : List Node) : List (Tree × Tree) → List (Node × Node)
  | [] => []
  | (key, value) :: rest => (key.node known, value.node known) :: nodePairs known rest

end

/-- The last anchored tree of a number. -/
def lastOf? (anchors : List (Nat × Tree)) (number : Nat) : Option Tree :=
  (anchors.reverse.find? fun anchor => anchor.1 == number).map (·.2)

/-- The trees that aliases refer to, by number. -/
def targets (anchors : List (Nat × Tree)) : List Tree :=
  (List.range anchors.length).filterMap (lastOf? anchors)

/-- The nodes of the targets with aliases in them followed `depth` deep; those further down are
    unreadable. -/
def expansions (targets : List Tree) : Nat → List Node
  | 0 => []
  | depth + 1 => targets.map (node (expansions targets depth))

/-- How often a node may contain itself on the way to a value that is read: a document's registers,
    one of them, its fields, one of them, its magic gate and the value of that. -/
def selfReferences : Nat := 8

/-- The node of a whole document. Following aliases goes through every target once at most, unless
    a node contains itself. -/
def toNode (tree : Tree) : Node :=
  let targets := targets tree.anchors
  tree.node (expansions targets (targets.length + selfReferences))

end Tree

/-- The document tree of a YAML text. -/
def read? (text : String) : Option Node := do
  return (← Tree.ofTokens? (← tokens? text)).toNode

end RegisterFile.Yaml
