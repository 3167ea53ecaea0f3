import CredRegistry.Text.CharSet

/-!
# Patterns

What a text can be tested for: characters of a set, one thing after the other, one
thing or the other, a thing again and again, and conditions on the place.

Where a pattern can go on in more than one way, the ways are tried in an order. A
match may begin anywhere in a text. As soon as the ways that come first have come to
an end, those after them are given up: a text *fits* a pattern if at its end one of
the ways that are left is at an end as well.

`Pattern.moves` says how a pattern can go on at a place, and `Pattern.fits` walks
through a text with it.
-/

namespace CredRegistry.Text

/-! ## Places -/

/-- How a place can lie to the words around it. -/
inductive WordEdge where
  /-- Between a word and what is none, on either side. -/
  | boundary
  /-- Inside of a word or outside of any. -/
  | noBoundary
  | start
  | stop
deriving Repr, DecidableEq

/-- A condition on a place in a text. -/
inductive Anchor where
  | textStart
  | textEnd
  | lineStart
  | lineEnd
  /-- The same with lines that end in a carriage return, a line feed or both. -/
  | returnLineStart
  | returnLineEnd
  /-- `wide` words are those of all scripts, the others those of ASCII. -/
  | word (edge : WordEdge) (wide : Bool)
deriving Repr, DecidableEq

namespace Anchor

/-- Is `c` there, and does it belong to a word? -/
def inWord (wide : Bool) : Option Char → Bool
  | some c => if wide then isWordChar c else CharSet.asciiWord.holds c
  | none => false

/-- Does the condition hold of the place between the two characters, which are missing
at the start and at the end of the text? -/
def holds (a : Anchor) (before next : Option Char) : Bool :=
  match a with
  | .textStart => before.isNone
  | .textEnd => next.isNone
  | .lineStart => before.isNone || before == some '\n'
  | .lineEnd => next.isNone || next == some '\n'
  | .returnLineStart =>
      before.isNone || before == some '\n' || (before == some '\r' && next != some '\n')
  | .returnLineEnd =>
      next.isNone || next == some '\r' || (next == some '\n' && before != some '\r')
  | .word edge wide =>
      let left := inWord wide before
      let right := inWord wide next
      match edge with
      | .boundary => left != right
      | .noBoundary => left == right
      | .start => !left && right
      | .stop => left && !right

end Anchor

/-! ## Patterns -/

/-- A pattern. Of the two ways to repeat, an `eager` one goes on first and the other
one ends first. -/
inductive Pattern where
  | empty
  | one (s : CharSet)
  | anchor (a : Anchor)
  | seq (p q : Pattern)
  /-- The first, and else the second. -/
  | either (p q : Pattern)
  /-- At least once. -/
  | repeated (eager : Bool) (p : Pattern)
  /-- Any number of further times. -/
  | more (eager : Bool) (p : Pattern)
deriving Repr, DecidableEq

/-- How a pattern can go on at a place: with a character of a set and what is left of
the pattern after it, or by being at an end. The ways are in the order in which they
are tried, those before the end and those after it. -/
structure Moves where
  before : List (CharSet × Pattern)
  ends : Bool
  after : List (CharSet × Pattern)

namespace Moves

def none : Moves := ⟨[], false, []⟩

/-- The ways of one and then those of another. A second end adds nothing. -/
def or (m n : Moves) : Moves :=
  if m.ends then ⟨m.before, true, m.after ++ n.before ++ n.after⟩
  else ⟨m.before ++ n.before, n.ends, n.after⟩

end Moves

namespace Pattern

/-- What is left of a pattern, and then another. -/
def andThen : Pattern → Pattern → Pattern
  | .empty, q => q
  | p, q => .seq p q

/-- The ways to go on with `q` after what is left. -/
def followedBy (ways : List (CharSet × Pattern)) (q : Pattern) : List (CharSet × Pattern) :=
  ways.map fun (s, p) => (s, p.andThen q)

/-- How a pattern can go on between two characters. A round of a repetition that takes
no character does not lead to another round. -/
def moves (before next : Option Char) : Pattern → Moves
  | .empty => ⟨[], true, []⟩
  | .one s => ⟨[(s, .empty)], false, []⟩
  | .anchor a => ⟨[], a.holds before next, []⟩
  | .seq p q =>
      let m := p.moves before next
      if m.ends then
        let n := q.moves before next
        ⟨followedBy m.before q ++ n.before, n.ends, n.after ++ followedBy m.after q⟩
      else ⟨followedBy m.before q, false, []⟩
  | .either p q => (p.moves before next).or (q.moves before next)
  | .repeated eager p =>
      let m := p.moves before next
      let rest := .more eager p
      ⟨followedBy m.before rest, m.ends, followedBy m.after rest⟩
  | .more eager p =>
      let m := p.moves before next
      let round := followedBy (m.before ++ m.after) (.more eager p)
      if eager then ⟨round, true, []⟩ else ⟨[], true, round⟩

def maybe (eager : Bool) (p : Pattern) : Pattern :=
  if eager then .either p .empty else .either .empty p

def anyTimes (eager : Bool) (p : Pattern) : Pattern := maybe eager (.repeated eager p)

def sequence : List Pattern → Pattern
  | [] => .empty
  | [p] => p
  | p :: ps => .seq p (sequence ps)

/-- The first of some patterns, and else the next of them. -/
def choice : List Pattern → Pattern
  | [] => .one .none
  | [p] => p
  | p :: ps => .either p (choice ps)

/-- Does the pattern look at the words of all scripts? -/
def looksAtWideWords : Pattern → Bool
  | .anchor (.word _ wide) => wide
  | .seq p q => p.looksAtWideWords || q.looksAtWideWords
  | .either p q => p.looksAtWideWords || q.looksAtWideWords
  | .repeated _ p => p.looksAtWideWords
  | .more _ p => p.looksAtWideWords
  | _ => false

/-- Walk through a text with what is left of the pattern on each way. While it is
`opened`, a match may still begin. -/
def walk (p : Pattern) : List Pattern → Bool → Option Char → List Char → Bool
  | ways, opened, before, cs =>
      let ways := if opened then ways ++ [p] else ways
      let m := ways.foldr (fun w m => (w.moves before cs.head?).or m) .none
      match cs with
      | [] => m.ends
      | c :: cs =>
          let left := m.before.filterMap fun (s, w) => if s.holds c then some w else none
          walk p left.eraseDups (opened && !m.ends) (some c) cs

def fits (p : Pattern) (cs : List Char) : Bool := p.walk [] true none cs

end Pattern

end CredRegistry.Text
