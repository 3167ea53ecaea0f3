import CredRegistry.Yaml.Token.Scalar

/-!
# From marked text to tokens

The lexer reads tokens one after the other, as they are asked for: a fault in
the text is met only when a token near it is wanted.

A *simple key* is a key without a question mark, which only the colon after it
shows to be one. Until that colon can no longer come, the tokens from the key on
are held back, because the key token, and the start of the mapping it belongs
to, are put in front of them.
-/

namespace CredRegistry.Yaml

/-- A token that becomes a key if a colon follows it in time. -/
structure PendingKey where
  /-- The number of tokens before it. -/
  position : Nat
  mark : Mark
  /-- Only a key can stand at this column. -/
  required : Bool
deriving Repr, DecidableEq

/-- A lexer between two tokens. -/
structure Lexer where
  rest : List Glyph
  stop : Mark
  /-- The text goes on after `rest` with a character that cannot be read. -/
  cut : Bool
  /-- Tokens read but not yet taken. -/
  queue : List Token
  /-- The number of tokens taken. -/
  taken : Nat
  /-- The column of the innermost block collection, `-1` outside of any. -/
  indent : Int
  /-- The columns of the block collections around it. -/
  outer : List Int
  /-- May a simple key start here? -/
  keyAllowed : Bool
  /-- The key that may be pending in each open flow collection, innermost first,
  and last the one outside of all of them. -/
  keys : List (Option PendingKey)
  started : Bool

namespace Lexer

def ofText (text : MarkedText) (cut : Bool) : Lexer :=
  ⟨text.glyphs, text.stop, cut, [], 0, -1, [], true, [none], false⟩

def mark (l : Lexer) : Mark := markAt l.stop l.rest

def column (l : Lexer) : Int := l.mark.column

def inFlow (l : Lexer) : Bool := 1 < l.keys.length

/-! ## Pending keys -/

/-- Can no colon make a key of `k` any more once `m` is reached? A key ends on
its line, within 1024 bytes. -/
def isStale (k : PendingKey) (m : Mark) : Bool :=
  k.mark.line < m.line || k.mark.index + 1024 < m.index

def dropStale (l : Lexer) : Except SyntaxFault Lexer := do
  let keys ← l.keys.mapM fun
    | none => .ok none
    | some k =>
        if isStale k l.mark then
          if k.required then .error .missingColon else .ok none
        else .ok (some k)
  .ok { l with keys }

/-- Drop the pending key of the innermost collection. -/
def dropKey (l : Lexer) : Except SyntaxFault Lexer :=
  match l.keys with
  | [] => .ok l
  | k :: keys =>
      if k.any (·.required) then .error .missingColon
      else .ok { l with keys := none :: keys }

/-- Note that the next token may be a simple key. -/
def saveKey (l : Lexer) : Except SyntaxFault Lexer :=
  if l.keyAllowed then do
    let required := !l.inFlow && l.indent == l.column
    let k : PendingKey := ⟨l.taken + l.queue.length, l.mark, required⟩
    let l ← l.dropKey
    .ok { l with keys := some k :: l.keys.drop 1 }
  else .ok l

/-! ## The queue and the indentation -/

def push (l : Lexer) (kind : Token.Kind) (start stop : Mark) : Lexer :=
  { l with queue := l.queue ++ [⟨kind, start, stop⟩] }

/-- Put an empty token in front of the `position`-th token of the text. -/
def insert (l : Lexer) (position : Nat) (kind : Token.Kind) (m : Mark) : Lexer :=
  let i := position - l.taken
  { l with queue := l.queue.take i ++ [⟨kind, m, m⟩] ++ l.queue.drop i }

/-- Open a block collection at `column`, unless one is open there already. Its
first token is the `position`-th of the text. -/
def openBlock (l : Lexer) (column : Nat) (position : Nat) (kind : Token.Kind) (m : Mark) : Lexer :=
  if !l.inFlow && l.indent < column then
    { l with outer := l.indent :: l.outer, indent := column }.insert position kind m
  else l

/-- Close `l.outer`'s collections that lie right of `column`. -/
def closeBlocksGo (column : Int) (m : Mark) : List Int → Lexer → Lexer
  | [], l => l
  | i :: outer, l =>
      if column < l.indent then
        closeBlocksGo column m outer ({ l with indent := i, outer }.push .blockEnd m m)
      else l

/-- Close the block collections that lie right of `column`. -/
def closeBlocks (l : Lexer) (column : Int) (m : Mark) : Lexer :=
  if l.inFlow then l else closeBlocksGo column m l.outer l

/-- Take a sign of `width` characters as a token. -/
def takeSign (l : Lexer) (width : Nat) (kind : Token.Kind) : Lexer :=
  let l' := { l with rest := l.rest.drop width }
  l'.push kind l.mark l'.mark

/-! ## Reading one token -/

/-- The rest after white space, comments and line breaks, and whether a simple
key may start there. A tab may not indent a block. A byte-order mark may stand at
the start of any line, and takes up a column of it. -/
def skipGaps (inFlow : Bool) : Bool → Bool → List Glyph → Bool × List Glyph
  | keyAllowed, _, [] => (keyAllowed, [])
  | keyAllowed, inComment, g :: rest =>
      if g.isBreak then skipGaps inFlow (keyAllowed || !inFlow) false rest
      else if inComment then skipGaps inFlow keyAllowed true rest
      else if g.char == ' ' || ((inFlow || !keyAllowed) && g.char == '\t') then
        skipGaps inFlow keyAllowed false rest
      else if g.char == '#' then skipGaps inFlow keyAllowed true rest
      else if g.char == '\ufeff' && g.mark.column == 0 then
        skipGaps inFlow keyAllowed false rest
      else (keyAllowed, g :: rest)

def skipToToken (l : Lexer) : Lexer :=
  let (keyAllowed, rest) := skipGaps l.inFlow l.keyAllowed false l.rest
  { l with keyAllowed, rest }

def fetchEnd (l : Lexer) : Except SyntaxFault Lexer := do
  let m := l.mark
  let m := if m.column == 0 then m else ⟨m.index, m.line + 1, 0⟩
  let l ← (l.closeBlocks (-1) m).dropKey
  .ok ({ l with keyAllowed := false }.push .streamEnd m m)

def fetchDirective (l : Lexer) : Except SyntaxFault Lexer := do
  let l ← (l.closeBlocks (-1) l.mark).dropKey
  let (kind, rest) ← scanDirective (l.rest.drop 1)
  let l' := { l with keyAllowed := false, rest }
  .ok (l'.push kind l.mark l'.mark)

def fetchMarker (l : Lexer) (kind : Token.Kind) : Except SyntaxFault Lexer := do
  let l ← (l.closeBlocks (-1) l.mark).dropKey
  .ok ({ l with keyAllowed := false }.takeSign 3 kind)

def fetchFlowStart (l : Lexer) (kind : Token.Kind) : Except SyntaxFault Lexer := do
  let l ← l.saveKey
  .ok ({ l with keys := none :: l.keys, keyAllowed := true }.takeSign 1 kind)

def fetchFlowEnd (l : Lexer) (kind : Token.Kind) : Except SyntaxFault Lexer := do
  let l ← l.dropKey
  let keys := if l.inFlow then l.keys.drop 1 else l.keys
  .ok ({ l with keys, keyAllowed := false }.takeSign 1 kind)

/-- A comma between the entries of a flow collection. -/
def fetchFlowEntry (l : Lexer) : Except SyntaxFault Lexer := do
  let l ← l.dropKey
  .ok ({ l with keyAllowed := true }.takeSign 1 .flowEntry)

/-- Open the block collection that a dash, question mark or lone colon starts. -/
def startBlock (l : Lexer) (kind : Token.Kind) : Except SyntaxFault Lexer :=
  if l.inFlow then .ok l
  else if !l.keyAllowed then .error .misplacedIndicator
  else .ok (l.openBlock l.mark.column (l.taken + l.queue.length) kind l.mark)

def fetchBlockEntry (l : Lexer) : Except SyntaxFault Lexer := do
  let l ← (← l.startBlock .blockSequenceStart).dropKey
  .ok ({ l with keyAllowed := true }.takeSign 1 .blockEntry)

def fetchKey (l : Lexer) : Except SyntaxFault Lexer := do
  let l ← (← l.startBlock .blockMappingStart).dropKey
  .ok ({ l with keyAllowed := !l.inFlow }.takeSign 1 .key)

def fetchValue (l : Lexer) : Except SyntaxFault Lexer := do
  match l.keys with
  | some k :: keys =>
      let l := (l.insert k.position .key k.mark).openBlock k.mark.column k.position
        .blockMappingStart k.mark
      .ok ({ l with keys := none :: keys, keyAllowed := false }.takeSign 1 .value)
  | _ =>
      let l ← l.startBlock .blockMappingStart
      .ok ({ l with keyAllowed := !l.inFlow }.takeSign 1 .value)

def fetchAnchor (l : Lexer) (kind : List Char → Token.Kind) : Except SyntaxFault Lexer := do
  let l ← l.saveKey
  let (name, rest) ← scanAnchorName (l.rest.drop 1)
  let l' := { l with keyAllowed := false, rest }
  .ok (l'.push (kind name) l.mark l'.mark)

def fetchTag (l : Lexer) : Except SyntaxFault Lexer := do
  let l ← l.saveKey
  let (handle, suffix, rest) ← scanTag l.inFlow l.rest
  let l' := { l with keyAllowed := false, rest }
  .ok (l'.push (.tag handle suffix) l.mark l'.mark)

def fetchBlockScalar (l : Lexer) (folded : Bool) : Except SyntaxFault Lexer := do
  let l ← l.dropKey
  let (text, rest) ← scanBlock folded l.indent (l.rest.drop 1)
  let l' := { l with keyAllowed := true, rest }
  .ok (l'.push (.scalar text false) l.mark l'.mark)

def fetchQuoted (l : Lexer) (single : Bool) : Except SyntaxFault Lexer := do
  let l ← l.saveKey
  let (text, rest) ← scanQuoted single (l.rest.drop 1) [] .none
  let l' := { l with keyAllowed := false, rest }
  .ok (l'.push (.scalar text false) l.mark l'.mark)

def fetchPlain (l : Lexer) : Except SyntaxFault Lexer := do
  let l ← l.saveKey
  let (text, crossed, rest) ← scanPlain l.inFlow (l.indent + 1) l.rest [] .none
  let l' := { l with keyAllowed := crossed, rest }
  .ok (l'.push (.scalar text true) l.mark l'.mark)

/-- The signs that no plain scalar starts with. A dash, a question mark and a
colon may start one when something sticks to them. -/
def isIndicator (c : Char) : Bool :=
  "-?:,[]#&*!|>'\"%@`".toList.contains c || c == '\x7b' || c == '\x7d'

def startsPlain (inFlow : Bool) (g : Glyph) (rest : List Glyph) : Bool :=
  !(g.isSpacing || g.isBreak || isIndicator g.char)
    || (g.char == '-' && !(startsWithAny [' ', '\t'] rest))
    || (!inFlow && (g.char == '?' || g.char == ':') && !gapAhead rest)

def fetchHere (l : Lexer) : Except SyntaxFault Lexer :=
  match l.rest with
  | [] => l.fetchEnd
  | g :: rest =>
      let lineStart := g.mark.column == 0
      if lineStart && g.char == '%' then l.fetchDirective
      else if lineStart && markerAhead '-' l.rest then l.fetchMarker .documentStart
      else if lineStart && markerAhead '.' l.rest then l.fetchMarker .documentEnd
      else if g.char == '[' then l.fetchFlowStart .flowSequenceStart
      else if g.char == '\x7b' then l.fetchFlowStart .flowMappingStart
      else if g.char == ']' then l.fetchFlowEnd .flowSequenceEnd
      else if g.char == '\x7d' then l.fetchFlowEnd .flowMappingEnd
      else if g.char == ',' then l.fetchFlowEntry
      else if g.char == '-' && gapAhead rest then l.fetchBlockEntry
      else if g.char == '?' && (l.inFlow || gapAhead rest) then l.fetchKey
      else if g.char == ':' && (l.inFlow || gapAhead rest) then l.fetchValue
      else if g.char == '*' then l.fetchAnchor .alias
      else if g.char == '&' then l.fetchAnchor .anchor
      else if g.char == '!' then l.fetchTag
      else if g.char == '|' && !l.inFlow then l.fetchBlockScalar false
      else if g.char == '>' && !l.inFlow then l.fetchBlockScalar true
      else if g.char == '\'' then l.fetchQuoted true
      else if g.char == '"' then l.fetchQuoted false
      else if startsPlain l.inFlow g rest then l.fetchPlain
      else .error .unexpectedCharacter

/-- A lexer that has run up to an unreadable character fails there. -/
def checkCut (l : Lexer) : Except SyntaxFault Lexer :=
  if l.cut && l.rest.isEmpty then .error .unreadableCharacter else .ok l

def fetch (l : Lexer) : Except SyntaxFault Lexer := do
  let l ← l.checkCut
  if !l.started then
    .ok ({ l with started := true }.push .streamStart l.mark l.mark)
  else
    let l ← l.skipToToken.checkCut
    let l ← l.dropStale
    let l := l.closeBlocks l.column l.mark
    let l ← l.fetchHere
    l.checkCut

/-! ## Taking tokens -/

/-- May a token still be put in front of the next one? -/
def headPending (l : Lexer) : Bool :=
  l.queue.isEmpty || l.keys.any fun k => k.any (·.position == l.taken)

/-- Read on until the next token is settled, with at most `fuel` more tokens. -/
def settleGo : Nat → Lexer → Except SyntaxFault Lexer
  | 0, l => .ok l
  | fuel + 1, l => do
      let l ← if l.queue.isEmpty then .ok l else l.dropStale
      if l.headPending then settleGo fuel (← l.fetch) else .ok l

/-- Read on until the next token is settled. Each token but the first and the
last takes at least one character of the text. -/
def settle (l : Lexer) : Except SyntaxFault Lexer :=
  settleGo (l.rest.length + 3) l

/-- The next token, which stays in the queue. -/
def peek (l : Lexer) : Except SyntaxFault (Token × Lexer) := do
  let l ← l.settle
  match l.queue with
  | t :: _ => .ok (t, l)
  | [] => .error .unexpectedToken

def drop (l : Lexer) : Lexer :=
  { l with queue := l.queue.drop 1, taken := l.taken + 1 }

end Lexer

end CredRegistry.Yaml
