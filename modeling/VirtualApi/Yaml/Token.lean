/-!
# Tokens of YAML

A text is cut into tokens before nodes are read from it. Indentation appears as the start and end
of block collections, and a key is marked before its text even when only the colon after it shows
that it is one. Directives come before the mark of a document's start.
-/

namespace VirtualApi.Yaml

/-- How a scalar is written. -/
inductive ScalarStyle where
  /-- Without quotes; what is written so may mean something else than a text. -/
  | plain
  /-- As a block whose line breaks are kept. -/
  | literal
  /-- In quotes, or as a folded block. -/
  | other
deriving DecidableEq, Repr, Inhabited

/-- A token of a YAML text. -/
inductive Token where
  /-- The directive that says which version of the notation is meant. -/
  | version (major minor : Nat)
  /-- The directive that says what the handle of a tag stands for. -/
  | handle (name meaning : String)
  | documentStart
  | documentEnd
  | blockSequenceStart
  | blockMappingStart
  | blockEnd
  | flowSequenceStart
  | flowSequenceEnd
  | flowMappingStart
  | flowMappingEnd
  | blockEntry
  | flowEntry
  | key
  | value
  | alias (name : String)
  | anchor (name : String)
  /-- A tag; without a handle the rest is the whole tag. -/
  | tag (handle rest : String)
  | scalar (text : String) (style : ScalarStyle)
deriving DecidableEq, Repr, Inhabited

end VirtualApi.Yaml
