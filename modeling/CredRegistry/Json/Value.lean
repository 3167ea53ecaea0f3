import CredRegistry.Decimal.Shortest
import CredRegistry.Dict

/-!
# JSON values

The values a JSON text can hold, and their compact text.

An object is the list of its fields. `Value.ofFields` puts the fields in key
order and keeps the last of several with one key, as reading a text does; a
value that is built to be written keeps the order it is given.
-/

namespace CredRegistry.Json

open CredRegistry.Decimal

def exponentStyle : ExponentStyle := .plus

/-- A JSON value. An integer has at most 64 bits. -/
inductive Value where
  | null
  | bool (b : Bool)
  | int (n : Int)
  | float (x : Binary64)
  | str (s : String)
  | array (items : List Value)
  | object (fields : List (String × Value))
deriving Repr, Inhabited

def lookup (name : String) (fields : List (String × Value)) : Option Value :=
  (fields.find? (·.1 == name)).map (·.2)

namespace Value

/-- The object with these fields, in key order; of several with one key the last
counts. -/
def ofFields (fields : List (String × Value)) : Value := .object (Dict.ofList fields).entries

def ofString? : Option String → Value
  | some s => .str s
  | none => .null

mutual

/-- Are the two values equal? Unlike a comparison of numbers this looks at the bits of a
float. -/
def isEqual : Value → Value → Bool
  | .null, .null => true
  | .bool a, .bool b => a == b
  | .int a, .int b => a == b
  | .float a, .float b => a == b
  | .str a, .str b => a == b
  | .array as, .array bs => equalItems as bs
  | .object as, .object bs => equalFields as bs
  | _, _ => false

def equalItems : List Value → List Value → Bool
  | [], [] => true
  | a :: as, b :: bs => isEqual a b && equalItems as bs
  | _, _ => false

def equalFields : List (String × Value) → List (String × Value) → Bool
  | [], [] => true
  | (k, v) :: as, (k', v') :: bs => (k == k' && isEqual v v') && equalFields as bs
  | _, _ => false

end

mutual

theorem isEqual_iff : ∀ (a b : Value), isEqual a b = true ↔ a = b
  | .null, b => by cases b <;> simp [isEqual]
  | .bool _, b => by cases b <;> simp [isEqual]
  | .int _, b => by cases b <;> simp [isEqual]
  | .float _, b => by cases b <;> simp [isEqual]
  | .str _, b => by cases b <;> simp [isEqual]
  | .array as, b => by cases b <;> simp [isEqual, equalItems_iff as]
  | .object as, b => by cases b <;> simp [isEqual, equalFields_iff as]

theorem equalItems_iff : ∀ (as bs : List Value), equalItems as bs = true ↔ as = bs
  | [], bs => by cases bs <;> simp [equalItems]
  | a :: as, bs => by
      cases bs <;> simp [equalItems, isEqual_iff a, equalItems_iff as]

theorem equalFields_iff :
    ∀ (as bs : List (String × Value)), equalFields as bs = true ↔ as = bs
  | [], bs => by cases bs <;> simp [equalFields]
  | (k, v) :: as, bs => by
      cases bs <;> simp [equalFields, isEqual_iff v, equalFields_iff as, Prod.ext_iff]

end

instance : DecidableEq Value := fun a b => decidable_of_iff _ (isEqual_iff a b)

/-- The value of the field `name`, if this is an object with such a field. -/
def field? (v : Value) (name : String) : Option Value :=
  match v with
  | .object fields => lookup name fields
  | _ => none

end Value

/-! ## Writing -/

/-- A digit of a base up to sixteen, in lower case. -/
def hexDigit (n : Nat) : Char := (Nat.toDigits 16 (n % 16)).headD '0'

/-- How a character is written inside a string: quotes, backslashes and controls
are escaped, all else stands for itself. -/
def escapedChar (c : Char) : List Char :=
  match c with
  | '"' => ['\\', '"']
  | '\\' => ['\\', '\\']
  | '\x08' => ['\\', 'b']
  | '\x0c' => ['\\', 'f']
  | '\n' => ['\\', 'n']
  | '\r' => ['\\', 'r']
  | '\t' => ['\\', 't']
  | c =>
      if c.toNat < 0x20 then ['\\', 'u', '0', '0', hexDigit (c.toNat / 16), hexDigit c.toNat]
      else [c]

def stringChars (s : String) : List Char := '"' :: (s.toList.flatMap escapedChar ++ ['"'])

namespace Value

mutual

/-- The characters of a value's text, without blanks between the parts. -/
def chars : Value → List Char
  | .null => ['n', 'u', 'l', 'l']
  | .bool true => ['t', 'r', 'u', 'e']
  | .bool false => ['f', 'a', 'l', 's', 'e']
  | .int n => (toString n).toList
  | .float x => if x.isFinite then (x.compact exponentStyle).toList else ['n', 'u', 'l', 'l']
  | .str s => stringChars s
  | .array items => '[' :: (itemChars items ++ [']'])
  | .object fields => '\x7b' :: (fieldChars fields ++ ['\x7d'])

/-- The items of an array with commas between them. -/
def itemChars : List Value → List Char
  | [] => []
  | [v] => v.chars
  | v :: vs => v.chars ++ ',' :: itemChars vs

/-- The fields of an object with commas between them. -/
def fieldChars : List (String × Value) → List Char
  | [] => []
  | [(k, v)] => stringChars k ++ ':' :: v.chars
  | (k, v) :: fields => stringChars k ++ ':' :: (v.chars ++ ',' :: fieldChars fields)

end

def text (v : Value) : String := String.ofList v.chars

end Value

end CredRegistry.Json
