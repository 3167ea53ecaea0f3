import CredRegistry.Decimal.Shortest

/-!
# YAML values

The values a YAML document can hold, and when two of them are the same.

Mappings keep the order of their entries, but the order plays no part in
sameness. Numbers are the same when they are equal as numbers of one kind: an
integer is never the same as a float.
-/

namespace CredRegistry.Yaml

open CredRegistry.Decimal

/-- Exponents are written with a sign only when negative. -/
def exponentStyle : ExponentStyle := .bare

/-- A YAML value. -/
inductive Value where
  | null
  | bool (b : Bool)
  | int (n : Int)
  | float (x : Binary64)
  | str (s : String)
  | seq (items : List Value)
  | map (pairs : List (Value × Value))
  | tagged (tag : String) (value : Value)
deriving Repr, Inhabited

/-- A tag without the exclamation mark in front of it, if that leaves anything. -/
def unbanged (tag : String) : List Char :=
  match tag.toList with
  | '!' :: c :: cs => c :: cs
  | cs => cs

def floatText (x : Binary64) : String :=
  if x.isFinite then x.compact exponentStyle
  else if x.isNaN then ".nan"
  else if x.isNegative then "-.inf"
  else ".inf"

namespace Value

mutual

def same : Value → Value → Bool
  | .null, .null => true
  | .bool a, .bool b => a == b
  | .int a, .int b => a == b
  | .float a, .float b => a.sameNumber b
  | .str a, .str b => a == b
  | .seq as, .seq bs => sameItems as bs
  | .map as, .map bs => as.length == bs.length && samePairs as bs
  | .tagged s a, .tagged t b => unbanged s == unbanged t && same a b
  | _, _ => false

def sameItems : List Value → List Value → Bool
  | [], [] => true
  | a :: as, b :: bs => same a b && sameItems as bs
  | _, _ => false

/-- Does each entry of the first list occur in the second? -/
def samePairs : List (Value × Value) → List (Value × Value) → Bool
  | [], _ => true
  | (k, v) :: as, bs => bs.any (fun b => same k b.1 && same v b.2) && samePairs as bs

end

mutual

/-- Are the two values equal? Unlike sameness this looks at the order of the entries, the
bits of a float and the spelling of a tag. -/
def isEqual : Value → Value → Bool
  | .null, .null => true
  | .bool a, .bool b => a == b
  | .int a, .int b => a == b
  | .float a, .float b => a == b
  | .str a, .str b => a == b
  | .seq as, .seq bs => equalItems as bs
  | .map as, .map bs => equalPairs as bs
  | .tagged s a, .tagged t b => s == t && isEqual a b
  | _, _ => false

def equalItems : List Value → List Value → Bool
  | [], [] => true
  | a :: as, b :: bs => isEqual a b && equalItems as bs
  | _, _ => false

def equalPairs : List (Value × Value) → List (Value × Value) → Bool
  | [], [] => true
  | (k, v) :: as, (k', v') :: bs => (isEqual k k' && isEqual v v') && equalPairs as bs
  | _, _ => false

end

mutual

theorem isEqual_iff : ∀ (a b : Value), isEqual a b = true ↔ a = b
  | .null, b => by cases b <;> simp [isEqual]
  | .bool _, b => by cases b <;> simp [isEqual]
  | .int _, b => by cases b <;> simp [isEqual]
  | .float _, b => by cases b <;> simp [isEqual]
  | .str _, b => by cases b <;> simp [isEqual]
  | .seq as, b => by cases b <;> simp [isEqual, equalItems_iff as]
  | .map as, b => by cases b <;> simp [isEqual, equalPairs_iff as]
  | .tagged _ a, b => by cases b <;> simp [isEqual, isEqual_iff a]

theorem equalItems_iff : ∀ (as bs : List Value), equalItems as bs = true ↔ as = bs
  | [], bs => by cases bs <;> simp [equalItems]
  | a :: as, bs => by
      cases bs <;> simp [equalItems, isEqual_iff a, equalItems_iff as]

theorem equalPairs_iff : ∀ (as bs : List (Value × Value)), equalPairs as bs = true ↔ as = bs
  | [], bs => by cases bs <;> simp [equalPairs]
  | (k, v) :: as, bs => by
      cases bs <;>
        simp [equalPairs, isEqual_iff k, isEqual_iff v, equalPairs_iff as, Prod.ext_iff]

end

instance : DecidableEq Value := fun a b => decidable_of_iff _ (isEqual_iff a b)

mutual

/-- The first key, in reading order, that stands twice in one mapping. -/
def duplicateKey? : Value → Option Value
  | .seq items => duplicateInItems? items
  | .map pairs => duplicateInPairs? [] pairs
  | .tagged _ v => duplicateKey? v
  | _ => none

def duplicateInItems? : List Value → Option Value
  | [] => none
  | v :: vs => (duplicateKey? v).or (duplicateInItems? vs)

/-- The first such key in the entries of a mapping, given the keys before them. -/
def duplicateInPairs? : List Value → List (Value × Value) → Option Value
  | _, [] => none
  | seen, (k, v) :: pairs =>
      match duplicateKey? k with
      | some d => some d
      | none =>
          match seen.find? (same k) with
          | some d => some d
          | none =>
              match duplicateKey? v with
              | some d => some d
              | none => duplicateInPairs? (k :: seen) pairs

end

end Value

end CredRegistry.Yaml
