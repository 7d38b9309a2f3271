/-!
# Tokens of a YAML text

The pieces that a YAML text is cut into.  The starts and ends of block collections and the marks of
mapping keys have no characters of their own; they follow from indentation.
-/

namespace SchemaMigration.Yaml

/-- A tag or a part of one, as bytes: the percent escapes in it need not spell a text. -/
abbrev Tag := List UInt8

/-- The tag with the given text. -/
def Tag.ofText (text : String) : Tag := text.toUTF8.toList

/-- A piece of a YAML text. -/
inductive Token where
  | streamStart
  | streamEnd
  | versionDirective (major minor : Nat)
  | tagDirective (handle : String) (expansion : Tag)
  | documentStart
  | documentEnd
  | blockSequenceStart
  | blockMappingStart
  | blockEnd
  | flowSequenceStart
  | flowSequenceEnd
  | flowMappingStart
  | flowMappingEnd
  | blockEntry
  | flowEntry
  | key
  | value
  | alias (name : String)
  | anchor (name : String)
  | tag (handle : String) (suffix : Tag)
  | scalar (plain : Bool) (text : String)
  deriving DecidableEq, Repr, Inhabited

end SchemaMigration.Yaml
