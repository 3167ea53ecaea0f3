import CredRegistry.Yaml.Token
import CredRegistry.Yaml.Value
import CredRegistry.Text.Quoted

/-!
# Why a YAML text is refused

A text can fail to be YAML, or be YAML of the wrong shape. Faults of shape say
where in the data they were met, as a path and a position; `Error.message` is
the wording.
-/

namespace CredRegistry.Yaml

open CredRegistry.Text

/-- The way from the root of a document to a node. -/
inductive Path where
  | root
  | index (parent : Path) (i : Nat)
  | field (parent : Path) (key : String)
  /-- The value of a key that is no scalar. -/
  | unnamed (parent : Path)
deriving Repr, DecidableEq

namespace Path

def text : Path → String
  | .root => "."
  | .index parent i => s!"{parent.text}[{i}]"
  | .field parent key => inside parent ++ key
  | .unnamed parent => inside parent ++ "?"
where
  /-- What stands in front of a field of the node at this path. -/
  inside : Path → String
    | .root => ""
    | .index parent i => s!"{parent.text}[{i}]."
    | .field parent key => inside parent ++ key ++ "."
    | .unnamed parent => inside parent ++ "?."

end Path

/-- What was met where something else was wanted. -/
inductive Found where
  | unit
  | bool (b : Bool)
  | int (n : Int)
  | wideInt (n : Int)
  | float (x : Decimal.Binary64)
  | str (s : String)
  | seq
  | map
deriving Repr, DecidableEq

/-- The wording of what was met. An integer of more than 64 bits is named by the
width it takes. -/
def Found.text : Found → String
  | .unit => "unit value"
  | .bool b => s!"boolean `{b}`"
  | .int n => s!"integer `{n}`"
  | .wideInt n => s!"integer `{n}` as " ++ if n < 0 then "i128" else "u128"
  | .float x => s!"floating point `{x.spelled}`"
  | .str s => s!"string {quoted s}"
  | .seq => "sequence"
  | .map => "map"

/-- Why well-formed YAML does not hold what is wanted. -/
inductive DataFault where
  | invalidType (found : Found) (expected : String)
  | invalidValue (found : Found) (expected : String)
  | duplicateField (name : String)
  | duplicateKey (key : Value)
  | unexpectedTag
  | recursionLimit
  | repetitionLimit
  | unknownAnchor
  | severalDocuments
  | endOfStream
  | nestedTags
deriving Repr, DecidableEq

def duplicateKeyText : Value → String
  | .null => "duplicate entry with null key"
  | .bool b => s!"duplicate entry with key `{b}`"
  | .int n => s!"duplicate entry with key {n}"
  | .float x => s!"duplicate entry with key {floatText x}"
  | .str s => s!"duplicate entry with key {quoted s}"
  | _ => "duplicate entry in YAML map"

/-- The wording of a fault, without its place. -/
def DataFault.text : DataFault → String
  | .invalidType found expected => s!"invalid type: {found.text}, expected {expected}"
  | .invalidValue found expected => s!"invalid value: {found.text}, expected {expected}"
  | .duplicateField name => s!"duplicate field `{name}`"
  | .duplicateKey key => duplicateKeyText key
  | .unexpectedTag => "untagged and internally tagged enums do not support enum input"
  | .recursionLimit => "recursion limit exceeded"
  | .repetitionLimit => "repetition limit exceeded"
  | .unknownAnchor => "unknown anchor"
  | .severalDocuments =>
      "deserializing from YAML containing more than one document is not supported"
  | .endOfStream => "EOF while parsing a value"
  | .nestedTags => "serializing nested enums in YAML is not supported yet"

/-- Can a fault take the place of the node around it? The limits of reading name
their own place, or none. -/
def DataFault.locatable : DataFault → Bool
  | .invalidType _ _ => true
  | .invalidValue _ _ => true
  | .duplicateField _ => true
  | .duplicateKey _ => true
  | .unexpectedTag => true
  | _ => false

/-- Why a YAML text is refused, and where. -/
inductive Error where
  | malformed (fault : SyntaxFault)
  | data (fault : DataFault) (path : Option Path) (mark : Option Mark)
deriving Repr, DecidableEq

namespace Error

def unplaced (fault : DataFault) : Error := .data fault none none

/-- The same error, placed at a node unless it has a place already. -/
def placed (path : Path) (mark : Mark) : Error → Error
  | .data fault none none =>
      if fault.locatable then .data fault (some path) (some mark) else .data fault none none
  | e => e

/-- The wording of an error. What is wrong with malformed text is not said. -/
def message : Error → String
  | .malformed _ => "<yaml syntax error>"
  | .data fault path mark =>
      let front := match path with
        | some .root => ""
        | some p => p.text ++ ": "
        | none => ""
      let back := match mark with
        | some m => if m.isOrigin then "" else " at " ++ m.text
        | none => ""
      front ++ fault.text ++ back

end Error

end CredRegistry.Yaml
