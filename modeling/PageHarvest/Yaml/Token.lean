import PageHarvest.Text.Basic

/-!
# Tokens of a YAML stream
-/

namespace PageHarvest.Yaml

/-- How a scalar is written. -/
inductive Style where
  | plain
  | singleQuoted
  | doubleQuoted
  | literal
  | folded
  deriving DecidableEq, Repr

/-- A token. Blocks have no indicators of their own: their beginnings and ends follow from the indentation. -/
inductive Token where
  | streamEnd
  | version (major minor : Nat)
  | tagPrefix (handle start : Text)
  | documentStart
  | documentEnd
  | blockSequenceStart
  | blockMappingStart
  | blockEnd
  | flowSequenceStart
  | flowSequenceEnd
  | flowMappingStart
  | flowMappingEnd
  | blockEntry
  | flowEntry
  | key
  | value
  | alias (name : Text)
  | anchor (name : Text)
  | tag (handle suffix : Text)
  | scalar (style : Style) (text : Text)
  deriving DecidableEq, Repr

end PageHarvest.Yaml
