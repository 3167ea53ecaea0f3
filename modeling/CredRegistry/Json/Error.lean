import CredRegistry.Json.Value
import CredRegistry.Text.Quoted

/-!
# Why a JSON text is refused

A text can fail to be JSON, or be JSON of the wrong shape. What is wrong is a
`Cause`; a cause that was met in a text has a position there. `Error.message` is
the wording.
-/

namespace CredRegistry.Json

open CredRegistry.Text

/-- Why a text is not JSON. -/
inductive Malformed where
  | endInList
  | endInObject
  | endInString
  | endInValue
  | expectedColon
  | expectedListCommaOrEnd
  | expectedObjectCommaOrEnd
  | expectedWord
  | expectedValue
  | invalidEscape
  | invalidNumber
  | numberOutOfRange
  | controlCharacter
  | keyMustBeString
  | loneSurrogate
  | trailingComma
  | trailingCharacters
  | endOfHexEscape
  | tooDeep
deriving Repr, DecidableEq

def Malformed.text : Malformed → String
  | .endInList => "EOF while parsing a list"
  | .endInObject => "EOF while parsing an object"
  | .endInString => "EOF while parsing a string"
  | .endInValue => "EOF while parsing a value"
  | .expectedColon => "expected `:`"
  | .expectedListCommaOrEnd => "expected `,` or `]`"
  | .expectedObjectCommaOrEnd => "expected `,` or `\x7d`"
  | .expectedWord => "expected ident"
  | .expectedValue => "expected value"
  | .invalidEscape => "invalid escape"
  | .invalidNumber => "invalid number"
  | .numberOutOfRange => "number out of range"
  | .controlCharacter => "control character (\\u0000-\\u001F) found while parsing a string"
  | .keyMustBeString => "key must be a string"
  | .loneSurrogate => "lone leading surrogate in hex escape"
  | .trailingComma => "trailing comma"
  | .trailingCharacters => "trailing characters"
  | .endOfHexEscape => "unexpected end of hex escape"
  | .tooDeep => "recursion limit exceeded"

/-- What was met where something else was wanted. -/
inductive Found where
  | null
  | bool (b : Bool)
  | int (n : Int)
  | float (x : Decimal.Binary64)
  | str (s : String)
  | seq
  | map
deriving Repr, DecidableEq

def Found.text : Found → String
  | .null => "null"
  | .bool b => s!"boolean `{b}`"
  | .int n => s!"integer `{n}`"
  | .float x => s!"floating point `{x.compact exponentStyle}`"
  | .str s => s!"string {quoted s}"
  | .seq => "sequence"
  | .map => "map"

def Value.found : Value → Found
  | .null => .null
  | .bool b => .bool b
  | .int n => .int n
  | .float x => .float x
  | .str s => .str s
  | .array _ => .seq
  | .object _ => .map

/-- Why a text or a value is refused. -/
inductive Cause where
  | malformed (m : Malformed)
  | invalidType (found : Found) (expected : String)
  | invalidValue (found : Found) (expected : String)
  | invalidLength (count : Nat) (expected : String)
  | unknownVariant (variant : String) (expected : List String)
  | missingField (name : String)
  | duplicateField (name : String)
deriving Repr, DecidableEq

def Cause.text : Cause → String
  | .malformed m => m.text
  | .invalidType found expected => s!"invalid type: {found.text}, expected {expected}"
  | .invalidValue found expected => s!"invalid value: {found.text}, expected {expected}"
  | .invalidLength count expected => s!"invalid length {count}, expected {expected}"
  | .unknownVariant variant expected =>
      let names := ", ".intercalate (expected.map fun e => s!"`{e}`")
      s!"unknown variant `{variant}`, expected one of {names}"
  | .missingField name => s!"missing field `{name}`"
  | .duplicateField name => s!"duplicate field `{name}`"

/-- A place in a text: the line, and the bytes of that line in front of it. -/
structure Position where
  line : Nat
  column : Nat
deriving Repr, DecidableEq

/-- Why a text or a value is refused, and where in the text. -/
structure Error where
  cause : Cause
  position : Option Position
deriving Repr, DecidableEq

def Error.message (e : Error) : String :=
  match e.position with
  | some p => s!"{e.cause.text} at line {p.line} column {p.column}"
  | none => e.cause.text

end CredRegistry.Json
