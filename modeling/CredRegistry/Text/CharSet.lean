import CredRegistry.Text.CaseFold
import CredRegistry.Text.Category

/-!
# Sets of characters

Sets of characters as expressions, so that they can be written down, compared and
looked into.
-/

namespace CredRegistry.Text

/-- A set of characters. -/
inductive CharSet where
  | none
  /-- The characters between the two, both included. -/
  | range (first last : Char)
  | kind (k : CharKind)
  | union (s t : CharSet)
  | intersection (s t : CharSet)
  | difference (s t : CharSet)
  | complement (s : CharSet)
  /-- The characters that differ from one of the set in case only. -/
  | anyCase (s : CharSet)
  /-- The same with letters of ASCII alone. -/
  | anyAsciiCase (s : CharSet)
deriving Repr, DecidableEq

/-- The characters of ASCII that differ from `c` in case only, and `c` itself. -/
def asciiCaseVariants (c : Char) : List Char := [c, c.toLower, c.toUpper]

namespace CharSet

def holds : CharSet → Char → Bool
  | .none, _ => false
  | .range first last, c => first ≤ c && c ≤ last
  | .kind k, c => k.holds c
  | .union s t, c => s.holds c || t.holds c
  | .intersection s t, c => s.holds c && t.holds c
  | .difference s t, c => s.holds c && !t.holds c
  | .complement s, c => !s.holds c
  | .anyCase s, c => (caseVariants c).any fun d => s.holds d
  | .anyAsciiCase s, c => (asciiCaseVariants c).any fun d => s.holds d

def single (c : Char) : CharSet := .range c c

def ofList : List Char → CharSet
  | [] => .none
  | [c] => single c
  | c :: cs => .union (single c) (ofList cs)

def all : CharSet := .complement .none

/-- The characters in one of two sets and not in both. -/
def symmetricDifference (s t : CharSet) : CharSet :=
  .union (.difference s t) (.difference t s)

/-! ## Sets of ASCII -/

def asciiDigit : CharSet := .range '0' '9'

def asciiLower : CharSet := .range 'a' 'z'

def asciiUpper : CharSet := .range 'A' 'Z'

def asciiLetter : CharSet := .union asciiLower asciiUpper

def asciiAlphanumeric : CharSet := .union asciiLetter asciiDigit

def asciiWord : CharSet := .union asciiAlphanumeric (single '_')

def asciiBlank : CharSet := .union (.range '\t' '\r') (single ' ')

def asciiGraph : CharSet := .range '!' '~'

def ofAsciiName? : String → Option CharSet
  | "alnum" => some asciiAlphanumeric
  | "alpha" => some asciiLetter
  | "ascii" => some (.range '\x00' '\x7f')
  | "blank" => some (ofList ['\t', ' '])
  | "cntrl" => some (.union (.range '\x00' '\x1f') (single '\x7f'))
  | "digit" => some asciiDigit
  | "graph" => some asciiGraph
  | "lower" => some asciiLower
  | "print" => some (.range ' ' '~')
  | "punct" => some (.difference asciiGraph asciiAlphanumeric)
  | "space" => some asciiBlank
  | "upper" => some asciiUpper
  | "word" => some asciiWord
  | "xdigit" => some (.union asciiDigit (.union (.range 'A' 'F') (.range 'a' 'f')))
  | _ => .none

end CharSet

end CredRegistry.Text
