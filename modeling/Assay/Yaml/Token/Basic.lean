import Assay.Yaml.Cursor

/-! # Tokens

The marks of a YAML text. The structure that indentation gives to a text is written out in marks
of its own, so that the tokens can be read without regard to lines and columns.
-/

namespace Assay.Yaml

/-- A tag as it is written: a handle that stands for the start of the tag, and the rest of it. -/
structure WrittenTag where
  handle : Option String
  suffix : String
  deriving DecidableEq

/-- A line at the top of a document that concerns its reading. -/
inductive Directive where
  | version (major : Nat)
  | handle (handle start : String)
  | other
  deriving DecidableEq

/-- A mark of a text. -/
inductive Token where
  | directive (directive : Directive)
  | documentStart
  | documentEnd
  | blockSequenceStart
  | blockMappingStart
  | blockEnd
  | flowSequenceStart
  | flowSequenceEnd
  | flowMappingStart
  | flowMappingEnd
  | flowEntry
  | blockEntry
  | key
  | value
  | alias (name : String)
  | anchor (name : String)
  | tag (tag : WrittenTag)
  | scalar (text : String) (plain : Bool)
  | streamEnd
  /-- From here on the text has no tokens. -/
  | fault (fault : Fault)
  deriving DecidableEq

end Assay.Yaml
