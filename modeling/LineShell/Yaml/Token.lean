import LineShell.Yaml.Scalar

/-!
# Tokens

The tokens of a YAML text.  Indentation is gone from them: the beginnings and ends of block
collections are tokens of their own, and so is the beginning of a key, which the text itself shows
only by the colon after it.
-/

namespace LineShell.Yaml

/-- The text of a tag.  It is kept in bytes, because a tag can have its bytes escaped one by one. -/
abbrev TagText := List UInt8

/-- The text of a tag that is written without escapes. -/
def TagText.ofString (text : String) : TagText := text.toUTF8.toList

/-- A token. -/
inductive Token
  | version (major minor : Nat)
  | tagHandle (handle : String) (root : TagText)
  | documentStart
  | documentEnd
  | blockSequenceStart
  | blockMappingStart
  | blockEnd
  | flowSequenceStart
  | flowSequenceEnd
  | flowMappingStart
  | flowMappingEnd
  | blockEntry
  | flowEntry
  | key
  | value
  | alias (name : String)
  | anchor (name : String)
  | tag (handle : String) (suffix : TagText)
  | scalar (style : Style) (text : String)
  deriving DecidableEq, Repr

end LineShell.Yaml
