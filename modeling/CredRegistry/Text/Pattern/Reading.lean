import CredRegistry.Text.Pattern

/-!
# Reading patterns

The usual notation of regular expressions: characters stand for themselves, a point
for any character of a line, brackets for a set, parentheses for a group, a bar for a
choice, and `?`, `*` and `+` for repetitions. Modes are switched on and off within
parentheses.

A closing brace cannot be written in such a text, so nothing that needs one can be
read, be it a counted repetition or an escape.
-/

namespace CredRegistry.Text.Pattern

/-- Why a text is no pattern. -/
inductive Fault where
  | malformed
  /-- It looks at the words of all scripts. -/
  | wideWords
deriving Repr, DecidableEq

def Fault.message : Fault → String
  | .malformed => "error building NFA"
  | .wideWords =>
      "unsupported regex feature for DFAs: cannot build DFAs for regexes with Unicode word " ++
        "boundaries; switch to ASCII word boundaries, or heuristically enable Unicode word " ++
        "boundaries or use a different regex engine"

/-! ## Modes -/

/-- What is switched on at a place in a pattern. -/
structure Modes where
  anyCase : Bool
  /-- Are the anchors of the text those of its lines? -/
  lines : Bool
  /-- Does a point stand for a line feed as well? -/
  pointsToAll : Bool
  /-- Are repetitions lazy where they would be eager? -/
  swapped : Bool
  /-- Does a carriage return end a line? -/
  returns : Bool
  /-- Are sets those of all scripts? -/
  wide : Bool
  /-- Are blanks and comments passed over? -/
  spaced : Bool
deriving Repr, DecidableEq

namespace Modes

def standard : Modes := ⟨false, false, false, false, false, true, false⟩

/-- The modes with the one of a letter switched. -/
def switch? (m : Modes) (letter : Char) (on : Bool) : Option Modes :=
  match letter with
  | 'i' => some { m with anyCase := on }
  | 'm' => some { m with lines := on }
  | 's' => some { m with pointsToAll := on }
  | 'U' => some { m with swapped := on }
  | 'R' => some { m with returns := on }
  | 'u' => some { m with wide := on }
  | 'x' => some { m with spaced := on }
  | _ => none

/-- Read switches up to a colon or a closing parenthesis; of the letters and the minus
sign in `seen` none may come again, and a minus sign is not the last. Gives the modes,
whether there was a switch, whether a colon ends them, and the rest. -/
def readSwitches (m : Modes) (seen : List Char) :
    List Char → Option (Modes × Bool × Bool × List Char)
  | [] => none
  | c :: cs =>
      if c == ':' || c == ')' then
        if seen.head? == some '-' then none else some (m, !seen.isEmpty, c == ':', cs)
      else if seen.contains c then none
      else if c == '-' then readSwitches m (c :: seen) cs
      else
        match m.switch? c (!seen.contains '-') with
        | some m => readSwitches m (c :: seen) cs
        | none => none

/-- The rest after any blanks and comments that are passed over. -/
def skip (m : Modes) (cs : List Char) : List Char :=
  if m.spaced then go false cs else cs
where
  /-- Pass over blanks, and over all there is while a comment lasts. -/
  go (inComment : Bool) : List Char → List Char
    | [] => []
    | c :: cs =>
        if inComment then go (c != '\n') cs
        else if isBlank c then go false cs
        else if c == '#' then go true cs
        else c :: cs

/-- The character to come after any blanks; a sign that begins a comment is passed over
as well. -/
def peek? (m : Modes) (cs : List Char) : Option Char :=
  if m.spaced then
    match cs.dropWhile isBlank with
    | '#' :: cs => (cs.dropWhile isBlank).head?
    | cs => cs.head?
  else cs.head?

/-- A set with the characters that differ in case only, if case does not count. -/
def folded (m : Modes) (s : CharSet) : CharSet :=
  if m.anyCase then if m.wide then .anyCase s else .anyAsciiCase s else s

/-- A set or its complement; a complement holds more than ASCII. -/
def negated? (m : Modes) (negated : Bool) (s : CharSet) : Option CharSet :=
  if negated then if m.wide then some (.complement s) else none else some s

end Modes

/-! ## Escapes -/

/-- What a character or an escape stands for. -/
inductive Atom where
  | char (c : Char)
  | set (s : CharSet)
  | anchor (a : Anchor)

/-- The characters that have a meaning of their own somewhere. -/
def isMeta (c : Char) : Bool := "\\.+*?()|[]\x7b\x7d^$#&-~".toList.contains c

/-- The characters that a backslash can be put in front of for nothing. -/
def isEscapable (c : Char) : Bool :=
  isMeta c || (c.toNat < 0x80 && !c.isAlphanum && c != '<' && c != '>')

/-- The value of `count` more hexadecimal digits, `n` being that of those before. -/
def hexDigits (m : Modes) : Nat → Nat → List Char → Option (Nat × List Char)
  | 0, n, cs => some (n, cs)
  | count + 1, n, cs =>
      match m.skip cs with
      | [] => none
      | c :: cs =>
          let value :=
            if c.isDigit then some (c.toNat - '0'.toNat)
            else if 'a' ≤ c && c ≤ 'f' then some (c.toNat - 'a'.toNat + 10)
            else if 'A' ≤ c && c ≤ 'F' then some (c.toNat - 'A'.toNat + 10)
            else none
          match value with
          | some d => hexDigits m count (16 * n + d) cs
          | none => none

/-- A character given by a number of digits. A number of two digits is a byte where
sets are those of ASCII. -/
def codePoint (m : Modes) (count : Nat) (cs : List Char) : Option (Atom × List Char) :=
  match hexDigits m count 0 cs with
  | none => none
  | some (n, cs) =>
      if !n.isValidChar || (count == 2 && !m.wide && 0x80 ≤ n) then none
      else some (.char (Char.ofNat n), cs)

/-- A set of digits, blanks or word characters. -/
def shorthand (m : Modes) (kind : CharKind) (ascii : CharSet) (negated : Bool)
    (cs : List Char) : Option (Atom × List Char) :=
  (m.negated? negated (if m.wide then .kind kind else ascii)).map fun s => (.set s, cs)

def category (m : Modes) (negated : Bool) (cs : List Char) : Option (Atom × List Char) :=
  match m.skip cs with
  | [] => none
  | c :: cs =>
      match m.wide, CharKind.ofLetter? c with
      | true, some k => (m.negated? negated (m.folded (.kind k))).map fun s => (.set s, cs)
      | _, _ => none

def wordEdge (m : Modes) (edge : WordEdge) (cs : List Char) : Option (Atom × List Char) :=
  some (.anchor (.word edge m.wide), cs)

def escape (m : Modes) : List Char → Option (Atom × List Char)
  | [] => none
  | c :: cs =>
      match c with
      | 'x' => codePoint m 2 cs
      | 'u' => codePoint m 4 cs
      | 'U' => codePoint m 8 cs
      | 'p' => category m false cs
      | 'P' => category m true cs
      | 'd' => shorthand m .digit CharSet.asciiDigit false cs
      | 'D' => shorthand m .digit CharSet.asciiDigit true cs
      | 's' => shorthand m .blank CharSet.asciiBlank false cs
      | 'S' => shorthand m .blank CharSet.asciiBlank true cs
      | 'w' => shorthand m .word CharSet.asciiWord false cs
      | 'W' => shorthand m .word CharSet.asciiWord true cs
      | 'a' => some (.char '\x07', cs)
      | 'f' => some (.char '\x0c', cs)
      | 't' => some (.char '\t', cs)
      | 'n' => some (.char '\n', cs)
      | 'r' => some (.char '\r', cs)
      | 'v' => some (.char '\x0b', cs)
      | 'A' => some (.anchor .textStart, cs)
      | 'z' => some (.anchor .textEnd, cs)
      | 'b' => wordEdge m .boundary cs
      | 'B' => wordEdge m .noBoundary cs
      | '<' => wordEdge m .start cs
      | '>' => wordEdge m .stop cs
      | c => if isEscapable c then some (.char c, cs) else none

/-! ## Sets in brackets -/

/-- What two sets are joined by. -/
inductive SetOperator where
  | intersection
  | difference
  | symmetricDifference

def SetOperator.join : SetOperator → CharSet → CharSet → CharSet
  | .intersection, s, t => .intersection s t
  | .difference, s, t => .difference s t
  | .symmetricDifference, s, t => .symmetricDifference s t

/-- A set in brackets as far as it has been read. -/
structure SetSoFar where
  negated : Bool
  /-- What stands in front of an operator, how deep it is, and the operator. -/
  left : Option (CharSet × Nat × SetOperator)
  /-- The items since then. -/
  items : CharSet
  count : Nat
  depth : Nat

namespace SetSoFar

def start (negated : Bool) : SetSoFar := ⟨negated, none, .none, 0, 0⟩

def add (s : SetSoFar) (item : CharSet) (depth : Nat) : SetSoFar :=
  { s with
    items := if s.count = 0 then item else .union s.items item
    count := s.count + 1
    depth := max s.depth depth }

/-- What has been read, with its depth: several items are one level deeper than each. -/
def joined (s : SetSoFar) (m : Modes) : CharSet × Nat :=
  let depth := if 2 ≤ s.count then s.depth + 1 else s.depth
  match s.left with
  | some (t, d, op) => (op.join t (m.folded s.items), max d depth + 1)
  | none => (s.items, depth)

def operator (s : SetSoFar) (m : Modes) (op : SetOperator) : SetSoFar :=
  let (t, d) := s.joined m
  { start s.negated with left := some (m.folded t, d, op) }

def close? (s : SetSoFar) (m : Modes) : Option (CharSet × Nat) :=
  let (t, d) := s.joined m
  (m.negated? s.negated (m.folded t)).map fun t => (t, d + 1)

end SetSoFar

/-- What follows an opening bracket: a sign that negates the set, dashes, and a closing
bracket that stands for itself if it is the first item. -/
def openSet (m : Modes) (cs : List Char) : Option (SetSoFar × List Char) :=
  let (negated, cs) := match m.skip cs with
    | '^' :: cs => (true, m.skip cs)
    | cs => (false, cs)
  dashes cs.length (SetSoFar.start negated) cs
where
  /-- The dashes, at most `fuel` of them, and the bracket. -/
  dashes : Nat → SetSoFar → List Char → Option (SetSoFar × List Char)
    | _, _, [] => none
    | 0, s, cs => some (s, cs)
    | fuel + 1, s, c :: cs =>
        if c == '-' then dashes fuel (s.add (.single '-') 0) (m.skip cs)
        else if c == ']' && s.count == 0 then some (s.add (.single ']') 0, m.skip cs)
        else some (s, c :: cs)

/-- A named set of ASCII characters, standing after its opening bracket. -/
def namedSet? (m : Modes) : List Char → Option (Option CharSet × List Char)
  | ':' :: cs =>
      let (negated, cs) := match cs with
        | '^' :: cs => (true, cs)
        | cs => (false, cs)
      match cs.dropWhile (· != ':'), CharSet.ofAsciiName? (String.ofList (cs.takeWhile (· != ':'))) with
      | ':' :: ']' :: rest, some s => some (m.negated? negated (m.folded s), rest)
      | _, _ => none
  | _ => none

def setAtom (m : Modes) : List Char → Option (Atom × List Char)
  | '\\' :: cs => escape m cs
  | c :: cs => some (.char c, cs)
  | [] => none

/-- Can the character be in a set? Sets of ASCII hold no other characters. -/
def canHold (m : Modes) (c : Char) : Bool := m.wide || c.toNat < 0x80

def itemSet? (m : Modes) : Atom → Option CharSet
  | .char c => if canHold m c then some (.single c) else none
  | .set s => some s
  | .anchor _ => none

/-- An item of a set or a range of characters. A dash in front of a closing bracket or
of another dash makes no range. -/
def setItem (m : Modes) (cs : List Char) : Option (CharSet × List Char) := do
  let (a, cs) ← setAtom m cs
  match m.skip cs with
  | [] => none
  | '-' :: rest =>
      if m.peek? rest == some ']' || m.peek? rest == some '-' then
        (itemSet? m a).map fun s => (s, '-' :: rest)
      else
        let (b, rest) ← setAtom m (m.skip rest)
        match a, b with
        | .char first, .char last =>
            if first ≤ last && canHold m first && canHold m last then
              some (.range first last, rest)
            else none
        | _, _ => none
  | cs => (itemSet? m a).map fun s => (s, cs)

/-- Read a set up to its closing bracket, at most `fuel` items and operators of it.
Gives the set, how deep it is, and the rest. -/
def readSet (m : Modes) : Nat → SetSoFar → List Char → Option (CharSet × Nat × List Char)
  | 0, _, _ => none
  | fuel + 1, s, cs =>
      match m.skip cs with
      | [] => none
      | ']' :: cs => (s.close? m).map fun (t, d) => (t, d, cs)
      | '[' :: cs =>
          match namedSet? m cs with
          | some (none, _) => none
          | some (some t, cs) => readSet m fuel (s.add t 0) cs
          | none => do
              let (inner, cs) ← openSet m cs
              let (t, d, cs) ← readSet m fuel inner cs
              readSet m fuel (s.add t d) cs
      | '&' :: '&' :: cs => readSet m fuel (s.operator m .intersection) cs
      | '-' :: '-' :: cs => readSet m fuel (s.operator m .difference) cs
      | '~' :: '~' :: cs => readSet m fuel (s.operator m .symmetricDifference) cs
      | cs => do
          let (t, cs) ← setItem m cs
          readSet m fuel (s.add t 0) cs

/-! ## Groups -/

/-- A part of a pattern: how deep it is, and whether it can be repeated, which a switch
of modes cannot. -/
structure Part where
  pattern : Pattern
  depth : Nat
  repeatable : Bool

/-- A group that is still open: its modes, the parts of the current branch and the
branches before it, the latest first. -/
structure Group where
  modes : Modes
  parts : List Part
  branches : List Part

namespace Group

def start (modes : Modes) : Group := ⟨modes, [], []⟩

def push (g : Group) (p : Pattern) (depth : Nat) : Group :=
  { g with parts := ⟨p, depth, true⟩ :: g.parts }

def greatestDepth (ps : List Part) : Nat := ps.foldl (fun d p => max d p.depth) 0

/-- The current branch: several parts are one level deeper than each. -/
def branch (g : Group) : Part :=
  match g.parts with
  | [p] => p
  | ps =>
      let depth := if ps.isEmpty then 0 else greatestDepth ps + 1
      ⟨.sequence (ps.reverse.map (·.pattern)), depth, true⟩

def nextBranch (g : Group) : Group :=
  { g with parts := [], branches := g.branch :: g.branches }

/-- All of the group: several branches are one level deeper than each. -/
def whole (g : Group) : Part :=
  if g.branches.isEmpty then g.branch
  else
    let ps := g.branch :: g.branches
    ⟨.choice (ps.reverse.map (·.pattern)), greatestDepth ps + 1, true⟩

end Group

/-- A pattern as far as it has been read: the innermost open group, the groups around
it, and the names that are taken. -/
structure Reading where
  group : Group
  outer : List Group
  names : List (List Char)

namespace Reading

def start : Reading := ⟨.start .standard, [], []⟩

def push (r : Reading) (p : Pattern) (depth : Nat) : Reading :=
  { r with group := r.group.push p depth }

/-- Can the character stand in the name of a group? -/
def isNameChar (first : Bool) (c : Char) : Bool :=
  c == '_' || (if first then isAlphabetic c
    else isAlphanumeric c || c == '.' || c == '[' || c == ']')

def opened (r : Reading) (modes : Modes) : Reading :=
  { r with group := .start modes, outer := r.group :: r.outer }

/-- The name of a group, standing behind its angle bracket. -/
def openNamed (r : Reading) (cs : List Char) : Option (Reading × List Char) :=
  let name := cs.takeWhile (· != '>')
  match name, cs.drop name.length with
  | c :: tail, _ :: rest =>
      if isNameChar true c && tail.all (isNameChar false) && !r.names.contains name then
        some ({ r.opened r.group.modes with names := name :: r.names }, rest)
      else none
  | _, _ => none

def openGroup (r : Reading) (cs : List Char) : Option (Reading × List Char) :=
  match r.group.modes.skip cs with
  | '?' :: '<' :: '=' :: _ => none
  | '?' :: '<' :: '!' :: _ => none
  | '?' :: 'P' :: '<' :: cs => r.openNamed cs
  | '?' :: '<' :: cs => r.openNamed cs
  | '?' :: cs =>
      match r.group.modes.readSwitches [] cs with
      | none => none
      | some (modes, _, true, cs) => some (r.opened modes, cs)
      | some (modes, switched, false, cs) =>
          if switched then
            let parts := ⟨.empty, 0, false⟩ :: r.group.parts
            some ({ r with group := { r.group with modes, parts } }, cs)
          else none
  | cs => some (r.opened r.group.modes, cs)

def closeGroup (r : Reading) : Option Reading :=
  match r.outer with
  | [] => none
  | g :: outer =>
      let p := r.group.whole
      some { r with group := g.push p.pattern (p.depth + 1), outer }

/-- The last part is repeated; a question mark behind the sign makes that lazy, or eager
where it would be lazy. -/
def repeatLast (r : Reading) (sign : Char) (cs : List Char) : Option (Reading × List Char) :=
  match r.group.parts with
  | p :: ps =>
      if !p.repeatable then none
      else
        let (marked, cs) := match cs with
          | '?' :: cs => (true, cs)
          | cs => (false, cs)
        let eager := marked == r.group.modes.swapped
        let repeated :=
          if sign == '?' then maybe eager p.pattern
          else if sign == '*' then anyTimes eager p.pattern
          else Pattern.repeated eager p.pattern
        let group := { r.group with parts := ps }
        some ({ r with group := group.push repeated (p.depth + 1) }, cs)
  | [] => none

def pointSet? (m : Modes) : Option CharSet :=
  if !m.wide then none
  else if m.pointsToAll then some .all
  else if m.returns then some (.complement (.ofList ['\r', '\n']))
  else some (.complement (.single '\n'))

/-- The anchor of the start of the text or of its lines. -/
def startAnchor (m : Modes) : Anchor :=
  if m.lines then if m.returns then .returnLineStart else .lineStart else .textStart

/-- The anchor of the end of the text or of its lines. -/
def endAnchor (m : Modes) : Anchor :=
  if m.lines then if m.returns then .returnLineEnd else .lineEnd else .textEnd

/-- What a character or an escape stands for becomes the next part. -/
def pushAtom (r : Reading) : Atom → Reading
  | .char c => r.push (.one (r.group.modes.folded (.single c))) 0
  | .set s => r.push (.one s) 0
  | .anchor a => r.push (.anchor a) 0

/-- Take the character `c` and what belongs to it; `cs` stands behind it. -/
def take (r : Reading) (c : Char) (cs : List Char) : Option (Reading × List Char) :=
  let m := r.group.modes
  match c with
  | '(' => r.openGroup cs
  | ')' => r.closeGroup.map (·, cs)
  | '|' => some ({ r with group := r.group.nextBranch }, cs)
  | '[' => do
      let (s, cs) ← openSet m cs
      let (s, depth, cs) ← readSet m (cs.length + 1) s cs
      some (r.push (.one s) depth, cs)
  | '?' => r.repeatLast c cs
  | '*' => r.repeatLast c cs
  | '+' => r.repeatLast c cs
  | '\x7b' => none
  | '\\' => (escape m cs).map fun (a, cs) => (r.pushAtom a, cs)
  | '.' => (pointSet? m).map fun s => (r.push (.one s) 0, cs)
  | '^' => some (r.push (.anchor (startAnchor m)) 0, cs)
  | '$' => some (r.push (.anchor (endAnchor m)) 0, cs)
  | c => some (r.pushAtom (.char c), cs)

/-- Read a text to its end, in at most `fuel` steps. -/
def readAll : Nat → Reading → List Char → Option Reading
  | 0, _, _ => none
  | fuel + 1, r, cs =>
      match r.group.modes.skip cs with
      | [] => some r
      | c :: cs => do
          let (r, cs) ← r.take c cs
          readAll fuel r cs

end Reading

def depthLimit : Nat := 250

/-- The pattern that a text spells, if all groups are closed and none is too deep. -/
def read? (cs : List Char) : Option Pattern := do
  let r ← Reading.start.readAll (cs.length + 1) cs
  let p := r.group.whole
  if r.outer.isEmpty && p.depth ≤ depthLimit then some p.pattern else none

def ofChars (cs : List Char) : Except Fault Pattern :=
  match read? cs with
  | none => .error .malformed
  | some p => if p.looksAtWideWords then .error .wideWords else .ok p

end CredRegistry.Text.Pattern
