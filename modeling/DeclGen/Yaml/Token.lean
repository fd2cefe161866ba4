/-!
# DeclGen.Yaml.Token

The tokens of YAML documents.
-/

namespace DeclGen.Yaml

/-- A token.  A scalar is plain if it has no quotes and no block indicator. -/
inductive Token where
  | version (major minor : Nat)
  | tagDirective (handle pre : List Char)
  | documentStart
  | documentEnd
  | blockSequenceStart
  | blockMappingStart
  | blockEnd
  | flowSequenceStart
  | flowSequenceEnd
  | flowMappingStart
  | flowMappingEnd
  | blockEntry
  | flowEntry
  | key
  | value
  | aliasTo (name : List Char)
  | anchor (name : List Char)
  | tag (handle suffix : List Char)
  | scalar (plain : Bool) (text : List Char)
  deriving DecidableEq, Repr

end DeclGen.Yaml
