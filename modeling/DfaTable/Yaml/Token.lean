import DfaTable.Yaml.Cursor

/-!
# DfaTable.Yaml.Token

The tokens of a YAML text.
-/

namespace DfaTable.Yaml

/-- How a node is tagged: by a shorthand with a handle or by a full tag. -/
structure TagText where
  handle : Option Text
  suffix : Text
deriving DecidableEq, Repr

inductive Directive where
  | version (major : Int)
  | handle (handle replacement : Text)
  | other
deriving DecidableEq, Repr

inductive Token where
  | directive (d : Directive)
  | documentStart
  | documentEnd
  | blockSequenceStart
  | blockMappingStart
  | blockEnd
  | flowSequenceStart
  | flowSequenceEnd
  | flowMappingStart
  | flowMappingEnd
  | flowEntry
  | blockEntry
  | key
  | value
  | alias (name : Text)
  | anchor (name : Text)
  | tag (t : TagText)
  /-- A plain scalar may stand for something else than its text. -/
  | scalar (text : WideText) (isPlain : Bool)
  /-- The text cannot be read beyond this place. -/
  | broken (f : Failure)

end DfaTable.Yaml
