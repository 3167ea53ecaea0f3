import CredRegistry.Decimal.Read
import CredRegistry.Yaml.Error

/-!
# What a scalar stands for

A plain scalar stands for null, a boolean or a number if it is spelt like one,
and else for its own text. A scalar in quotes stands for its text. A tag of the
core schema settles the kind, and then the text has to be spelt like that kind.
-/

namespace CredRegistry.Yaml

open CredRegistry.Decimal
open CredRegistry.Text

def isNullText (cs : List Char) : Bool :=
  ["null", "Null", "NULL", "~"].any fun s => s.toList == cs

def bool? (cs : List Char) : Option Bool :=
  if ["true", "True", "TRUE"].any fun s => s.toList == cs then some true
  else if ["false", "False", "FALSE"].any fun s => s.toList == cs then some false
  else none

/-- Digits that begin with a zero are no number, with or without a sign. -/
def isPaddedDigits (cs : List Char) : Bool :=
  let digits := match cs with
    | '-' :: cs => cs
    | '+' :: cs => cs
    | cs => cs
  match digits with
  | '0' :: c :: cs => (c :: cs).all Char.isDigit
  | _ => false

/-- The magnitude spelt by `cs` without a sign: in base sixteen, eight or two after
`0x`, `0o` or `0b`, else in base ten. -/
def magnitude? : List Char → Option Nat
  | '0' :: 'x' :: cs => nat? 16 cs
  | '0' :: 'o' :: cs => nat? 8 cs
  | '0' :: 'b' :: cs => nat? 2 cs
  | cs => nat? 10 cs

def integer? (cs : List Char) : Option Int :=
  if isPaddedDigits cs then none
  else match cs with
    | '-' :: cs => (magnitude? cs).map fun n => -(n : Int)
    | '+' :: cs => (magnitude? cs).map Int.ofNat
    | cs => (magnitude? cs).map Int.ofNat

/-- An integer of at most 64 bits, or of at most 128. -/
def intFound? (n : Int) : Option Found :=
  if -0x8000000000000000 ≤ n ∧ n < 0x10000000000000000 then some (.int n)
  else if -0x80000000000000000000000000000000 ≤ n ∧ n < 0x100000000000000000000000000000000 then some (.wideInt n)
  else none

/-- The float spelt by `cs`. A numeral beyond the range of floats is none. -/
def floatText? (cs : List Char) : Option Binary64 :=
  let unsigned := match cs with
    | '+' :: rest => rest
    | rest => rest
  let isOneOf (names : List String) (cs : List Char) : Bool := names.any fun s => s.toList == cs
  if isOneOf [".inf", ".Inf", ".INF"] unsigned then some .infinity
  else if isOneOf ["-.inf", "-.Inf", "-.INF"] cs then some .negInfinity
  else if isOneOf [".nan", ".NaN", ".NAN"] cs then some .nan
  else match cs with
    | '+' :: '+' :: _ => none
    | '+' :: '-' :: _ => none
    | cs => (float? cs).filter (·.isFinite)

/-- What the text of an untagged plain scalar stands for. -/
def plainFound (cs : List Char) : Found :=
  if cs.isEmpty || isNullText cs then .unit
  else match bool? cs with
    | some b => .bool b
    | none =>
        match (integer? cs).bind intFound? with
        | some f => f
        | none =>
            match if isPaddedDigits cs then none else floatText? cs with
            | some x => .float x
            | none => .str (String.ofList cs)

/-! ## Tags -/

/-- The tag of the core schema with this name. -/
def coreTag (name : String) : TagText := .ofList ("tag:yaml.org,2002:" ++ name).toList

/-- Does the tag begin with an exclamation mark? -/
def TagText.isLocal (t : TagText) : Bool := t.bytes.head? == some '!'.toUInt8

/-- Does the tag make its node one of a choice of variants? -/
def marksVariant : Option TagText → Bool
  | some t => t.isLocal && (fromUtf8 t.bytes).isOk
  | none => false

/-- What a scalar stands for, or why its tag does not suit its text. -/
def scalarFound (tag : Option TagText) (text : String) (plain : Bool) : Except DataFault Found :=
  let cs := text.toList
  let orRefuse (found : Option Found) (expected : String) : Except DataFault Found :=
    match found with
    | some f => .ok f
    | none => .error (.invalidValue (.str text) expected)
  match tag with
  | none => .ok (if plain then plainFound cs else .str text)
  | some t =>
      if t == coreTag "bool" then orRefuse ((bool? cs).map .bool) "a boolean"
      else if t == coreTag "int" then orRefuse ((integer? cs).bind intFound?) "an integer"
      else if t == coreTag "float" then orRefuse ((floatText? cs).map .float) "a float"
      else if t == coreTag "null" then
        orRefuse (if isNullText cs then some .unit else none) "null"
      else .ok (if t.isLocal && plain then plainFound cs else .str text)

/-- Does a scalar stand for the absence of a value? A tag that says so and a text
that does not are refused. -/
def scalarIsAbsent (tag : Option TagText) (text : String) (plain : Bool) :
    Except DataFault Bool :=
  if !plain then .ok false
  else match tag with
    | none => .ok (text.isEmpty || isNullText text.toList)
    | some t =>
        if t == coreTag "null" then
          if isNullText text.toList then .ok true
          else .error (.invalidValue (.str text) "null")
        else .ok false

end CredRegistry.Yaml
