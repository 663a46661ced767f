import KeyPath.Yaml.Tag
/-!
# Tokens

Tokens are the marks and scalars of YAML text. Collections that are told by indentation get
tokens of their own for their start and end, and each key of a mapping is announced by a token.
-/

namespace KeyPath.Yaml

inductive Token where
  | directive (directive : Directive)
  | documentStart
  | documentEnd
  | blockSequenceStart
  | blockMappingStart
  | blockEnd
  | flowSequenceStart
  | flowSequenceEnd
  | flowMappingStart
  | flowMappingEnd
  | blockEntry
  | flowEntry
  | key
  | value
  | anchor (name : List Char)
  | reference (name : List Char)
  | tag (tag : WrittenTag)
  | scalar (text : List Char) (plain : Bool)
  deriving DecidableEq, Repr, Inhabited

end KeyPath.Yaml
