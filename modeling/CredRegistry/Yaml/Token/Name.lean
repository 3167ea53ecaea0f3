import CredRegistry.Yaml.Token

/-!
# Names in a YAML text

Anchors, tags and directives: the tokens that are spelt with name characters.
-/

namespace CredRegistry.Yaml

open CredRegistry.Text

/-- ASCII letters, digits, the underscore and the dash. -/
def isNameChar (c : Char) : Bool := c.isAlphanum || c == '_' || c == '-'

/-- The characters a tag may hold as they are. The percent sign starts an
escape. -/
def isTagChar (c : Char) : Bool :=
  isNameChar c || ";/?:@&=+$.%!~*'()".toList.contains c

/-- The characters a tag between angle brackets may hold on top of those. -/
def isVerbatimTagChar (c : Char) : Bool :=
  isTagChar c || c == ',' || c == '[' || c == ']'

def hexValue? (c : Char) : Option Nat :=
  if c.isDigit then some (c.toNat - '0'.toNat)
  else if 'a' ≤ c && c ≤ 'f' then some (c.toNat - 'a'.toNat + 10)
  else if 'A' ≤ c && c ≤ 'F' then some (c.toNat - 'A'.toNat + 10)
  else none

/-- The glyphs up to the first that fails `p`, and the rest. -/
def spanChars (p : Char → Bool) (gs : List Glyph) : List Char × List Glyph :=
  let (taken, rest) := gs.span (fun g => p g.char)
  (taken.map (·.char), rest)

def skipSpacing (gs : List Glyph) : List Glyph := gs.dropWhile (·.isSpacing)

/-- The rest after any spaces, tabs and comment, at the end of a line. -/
def skipToLineEnd (gs : List Glyph) : List Glyph :=
  let gs := skipSpacing gs
  if startsWith '#' gs then gs.dropWhile (fun g => !g.isBreak) else gs

/-! ## Escapes in tags -/

/-- One escaped byte: a percent sign and two hexadecimal digits. -/
def escapedByte : List Glyph → Except SyntaxFault (UInt8 × List Glyph)
  | p :: a :: b :: rest =>
      match p.char == '%', hexValue? a.char, hexValue? b.char with
      | true, some x, some y => .ok (UInt8.ofNat (16 * x + y), rest)
      | _, _, _ => .error .badTag
  | _ => .error .badTag

/-- `n` more escaped bytes, each of which goes on with a character. -/
def escapedTail : Nat → List Glyph → Except SyntaxFault (List UInt8 × List Glyph)
  | 0, gs => .ok ([], gs)
  | n + 1, gs => do
      let (b, rest) ← escapedByte gs
      if isContinuation b then
        let (bs, rest) ← escapedTail n rest
        .ok (b :: bs, rest)
      else .error .badTag

/-- How many bytes follow one that begins a character, told by its upper bits alone. -/
def followers? (b : UInt8) : Option Nat :=
  let n := b.toNat
  if n < 0x80 then some 0
  else if n / 32 == 6 then some 1
  else if n / 16 == 14 then some 2
  else if n / 8 == 30 then some 3
  else none

/-- The bytes of one escaped character. They have the form of a character and may
still encode none. -/
def escapedChar (gs : List Glyph) : Except SyntaxFault (TagText × List Glyph) := do
  let (b, rest) ← escapedByte gs
  match followers? b with
  | none => .error .badTag
  | some n =>
      let (bs, rest) ← escapedTail n rest
      .ok (⟨b :: bs⟩, rest)

/-- The characters of a tag as far as they go, at most `fuel` of them. -/
def tagChars (allowed : Char → Bool) :
    Nat → List Glyph → TagText → Except SyntaxFault (TagText × List Glyph)
  | 0, gs, acc => .ok (acc, gs)
  | fuel + 1, gs, acc =>
      match gs with
      | [] => .ok (acc, [])
      | g :: rest =>
          if g.char == '%' then do
            let (t, rest) ← escapedChar (g :: rest)
            tagChars allowed fuel rest (acc.append t)
          else if allowed g.char then
            tagChars allowed fuel rest (acc.append (.ofList [g.char]))
          else .ok (acc, g :: rest)

/-- The characters of a tag as far as they go. -/
def scanTagChars (allowed : Char → Bool) (gs : List Glyph) :
    Except SyntaxFault (TagText × List Glyph) :=
  tagChars allowed gs.length gs (.ofList [])

/-! ## Tokens -/

def endsAnchor (gs : List Glyph) : Bool :=
  gapAhead gs || startsWithAny "?:,]\x7d%@`".toList gs

/-- The name after the sign of an anchor or an alias. -/
def scanAnchorName (gs : List Glyph) : Except SyntaxFault (List Char × List Glyph) :=
  let (name, rest) := spanChars isNameChar gs
  if name.isEmpty || !endsAnchor rest then .error .badAnchor
  else .ok (name, rest)

/-- A handle: an exclamation mark, name characters, and a second exclamation
mark if there is one. -/
def scanHandle (gs : List Glyph) : Except SyntaxFault (List Char × List Glyph) :=
  match gs with
  | [] => .error .badTag
  | g :: rest =>
      if g.char != '!' then .error .badTag
      else
        let (name, rest) := spanChars isNameChar rest
        match rest with
        | h :: rest' => if h.char == '!' then .ok ('!' :: name ++ ['!'], rest') else .ok ('!' :: name, rest)
        | [] => .ok ('!' :: name, rest)

/-- The handle and the suffix of a tag. `inFlow` allows a comma right after it. -/
def scanTag (inFlow : Bool) (gs : List Glyph) :
    Except SyntaxFault (List Char × TagText × List Glyph) := do
  let (handle, suffix, rest) ←
    match gs with
    | _ :: lt :: body =>
        if lt.char == '<' then do
          let (suffix, rest) ← scanTagChars isVerbatimTagChar body
          if suffix.isEmpty then .error .badTag
          match rest with
          | gt :: rest => if gt.char == '>' then .ok ([], suffix, rest) else .error .badTag
          | [] => .error .badTag
        else shorthand gs
    | _ => shorthand gs
  if gapAhead rest || (inFlow && startsWith ',' rest) then .ok (handle, suffix, rest)
  else .error .badTag
where
  /-- A tag that is not written out in full: `!suffix`, `!handle!suffix` or a
  lone `!`. -/
  shorthand (gs : List Glyph) : Except SyntaxFault (List Char × TagText × List Glyph) := do
    let (handle, rest) ← scanHandle gs
    if 2 ≤ handle.length && handle.getLast? == some '!' then
      let (suffix, rest) ← scanTagChars isTagChar rest
      if suffix.isEmpty then .error .badTag
      .ok (handle, suffix, rest)
    else
      let (tail, rest) ← scanTagChars isTagChar rest
      let suffix := TagText.append (.ofList (handle.drop 1)) tail
      if suffix.ended.isEmpty then .ok ([], .ofList ['!'], rest)
      else .ok (['!'], suffix, rest)

def scanVersionNumber (gs : List Glyph) : Except SyntaxFault (Nat × List Glyph) :=
  let (digits, rest) := spanChars Char.isDigit gs
  if digits.isEmpty || 9 < digits.length then .error .badDirective
  else .ok (digits.foldl (fun n d => 10 * n + (d.toNat - '0'.toNat)) 0, rest)

/-- What stands on a directive's line after its percent sign. -/
def scanDirective (gs : List Glyph) : Except SyntaxFault (Token.Kind × List Glyph) := do
  let (name, rest) := spanChars isNameChar gs
  if name.isEmpty || !gapAhead rest then .error .badDirective
  let (kind, rest) ←
    if name == "YAML".toList then do
      let (major, rest) ← scanVersionNumber (skipSpacing rest)
      match rest with
      | dot :: rest =>
          if dot.char != '.' then .error .badDirective
          let (minor, rest) ← scanVersionNumber rest
          .ok (Token.Kind.versionDirective major minor, rest)
      | [] => .error .badDirective
    else if name == "TAG".toList then do
      let (handle, rest) ← scanHandle (skipSpacing rest)
      if handle.length ≠ 1 && handle.getLast? ≠ some '!' then .error .badTag
      match rest with
      | g :: _ => if !g.isSpacing then .error .badTag
      | [] => .error .badTag
      let (expansion, rest) ← scanTagChars isVerbatimTagChar (skipSpacing rest)
      if expansion.isEmpty || !gapAhead rest then .error .badTag
      .ok (Token.Kind.tagDirective handle expansion, rest)
    else .error .badDirective
  let rest := skipToLineEnd rest
  if !lineEndAhead rest then .error .badDirective
  .ok (kind, rest.drop 1)

end CredRegistry.Yaml
