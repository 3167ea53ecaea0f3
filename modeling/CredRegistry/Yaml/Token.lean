import CredRegistry.Text.Utf8
import CredRegistry.Yaml.MarkedText

/-!
# YAML tokens

The tokens a YAML text is made of, and the reasons a text has none.

A token keeps the position where it starts and the position right after it:
the second is where an empty node that follows it would stand.
-/

namespace CredRegistry.Yaml

open CredRegistry.Text

/-- Why a text is not well-formed YAML. -/
inductive SyntaxFault where
  /-- The text holds a character YAML does not allow. -/
  | unreadableCharacter
  /-- A directive is misspelt or unknown. -/
  | badDirective
  /-- A directive appears twice, or names a version this reader does not know. -/
  | badDirectives
  /-- A tag does not follow the grammar of tags. -/
  | badTag
  /-- A tag uses a handle that no directive declares. -/
  | undefinedHandle
  /-- An anchor or alias has no name, or something sticks to its name. -/
  | badAnchor
  /-- A required key is not followed by a colon on its line. -/
  | missingColon
  /-- A dash, question mark or colon stands where none may start. -/
  | misplacedIndicator
  /-- No token can start with this character. -/
  | unexpectedCharacter
  /-- A tab stands where only spaces may indent. -/
  | tabIndentation
  /-- The header of a block scalar is malformed. -/
  | badBlockHeader
  /-- A quoted scalar is never closed. -/
  | unclosedQuote
  /-- A backslash is followed by no known escape. -/
  | badEscape
  /-- A colon inside a flow collection runs into punctuation. -/
  | badFlowColon
  /-- A token stands where the grammar wants another one. -/
  | unexpectedToken
deriving Repr, DecidableEq

/-- The text of a tag, as bytes: escapes may spell bytes that are no characters. -/
structure TagText where
  bytes : List UInt8
deriving Repr, DecidableEq

namespace TagText

def ofList (cs : List Char) : TagText := ⟨utf8 (String.ofList cs)⟩

def append (a b : TagText) : TagText := ⟨a.bytes ++ b.bytes⟩

def isEmpty (t : TagText) : Bool := t.bytes.isEmpty

/-- The tag up to the first zero byte, which ends every tag. -/
def ended (t : TagText) : TagText := ⟨t.bytes.takeWhile (· ≠ 0)⟩

end TagText

/-- What a token is. -/
inductive Token.Kind where
  | streamStart
  | streamEnd
  | versionDirective (major minor : Nat)
  | tagDirective (handle : List Char) (expansion : TagText)
  | documentStart
  | documentEnd
  | blockSequenceStart
  | blockMappingStart
  | blockEnd
  | flowSequenceStart
  | flowSequenceEnd
  | flowMappingStart
  | flowMappingEnd
  | blockEntry
  | flowEntry
  | key
  | value
  | alias (name : List Char)
  | anchor (name : List Char)
  /-- A tag with an empty handle is written out in full. -/
  | tag (handle : List Char) (suffix : TagText)
  /-- `plain` is false for a scalar in quotes or in a block. -/
  | scalar (text : List Char) (plain : Bool)
deriving Repr, DecidableEq

/-- A token and the two positions around it. -/
structure Token where
  kind : Token.Kind
  start : Mark
  stop : Mark
deriving Repr, DecidableEq

end CredRegistry.Yaml
