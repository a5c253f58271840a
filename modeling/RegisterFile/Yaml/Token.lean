import RegisterFile.Yaml.Cursor

/-!
The tokens of YAML. Block collections have no brackets of their own in the text; the tokens that
open and close them come from indentation.
-/

namespace RegisterFile.Yaml

/-- How a scalar is written. -/
inductive Style where
  | plain
  | quoted
  /-- After a vertical bar. -/
  | literal
  /-- After a greater-than sign. -/
  | folded
  deriving DecidableEq, Repr

inductive Token where
  /-- The version that a text is written for. -/
  | version (major minor : Nat)
  /-- A handle for tags and what it stands for. -/
  | handle (name stem : String)
  | documentStart
  | documentEnd
  | blockSequenceStart
  | blockMappingStart
  | blockEnd
  | flowSequenceStart
  | flowSequenceEnd
  | flowMappingStart
  | flowMappingEnd
  | blockEntry
  | flowEntry
  | key
  | value
  /-- An alias, which refers to an anchor. -/
  | reference (name : String)
  | anchor (name : String)
  | tag (handle suffix : String)
  | scalar (style : Style) (text : String)
  deriving DecidableEq, Repr

end RegisterFile.Yaml
