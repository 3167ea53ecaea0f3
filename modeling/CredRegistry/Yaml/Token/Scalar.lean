import CredRegistry.Yaml.Token.Name

/-!
# Scalars in a YAML text

The three ways a scalar is spelt: plain, in quotes, and as an indented block.
Each reader takes the glyphs right after what opens the scalar and gives the
characters the scalar stands for with the glyphs that follow it.

The white space between two words of a plain or quoted scalar is a `Gap`. A gap
on one line stands for itself. A gap with line breaks is folded: one break
stands for a space, and of several all but the first stand for themselves.
-/

namespace CredRegistry.Yaml

/-- White space met since the last word of a scalar, latest character first. -/
inductive Gap where
  | none
  | spaces (reversed : List Char)
  /-- The first break, unless it was escaped, and the breaks after it. -/
  | lines (first : Option Char) (reversed : List Char)
deriving Repr, DecidableEq

namespace Gap

def isNone : Gap → Bool
  | none => true
  | _ => false

def isLines : Gap → Bool
  | lines _ _ => true
  | _ => false

/-- One more white-space glyph. Spaces around a line break are dropped. -/
def add (gap : Gap) (g : Glyph) : Gap :=
  if g.isBreak then
    match gap with
    | lines first more => lines first (g.char :: more)
    | _ => lines (some g.char) []
  else
    match gap with
    | none => spaces [g.char]
    | spaces cs => spaces (g.char :: cs)
    | lines first more => lines first more

/-- What the gap stands for, latest character first. -/
def folded : Gap → List Char
  | none => []
  | spaces cs => cs
  | lines (some '\n') [] => [' ']
  | lines (some '\n') more => more
  | lines (some c) more => more ++ [c]
  | lines Option.none more => more

end Gap

/-! ## Plain scalars -/

/-- The punctuation of flow collections that ends a plain scalar inside one. -/
def isFlowPunctuation (c : Char) : Bool :=
  c == ',' || c == '[' || c == ']' || c == '\x7b' || c == '\x7d'

/-- Does a new word at `g` lie outside the plain scalar? -/
def endsPlain (inFlow : Bool) (indent : Int) (g : Glyph) (rest : List Glyph) : Bool :=
  (!inFlow && decide ((g.mark.column : Int) < indent))
    || documentMarkerAhead (g :: rest) || g.char == '#'

/-- The words of a plain scalar. `indent` is the column its further lines have to
reach. The flag tells whether the last gap crossed a line. -/
def scanPlain (inFlow : Bool) (indent : Int) :
    List Glyph → List Char → Gap → Except SyntaxFault (List Char × Bool × List Glyph)
  | [], acc, gap => .ok (acc.reverse, gap.isLines, [])
  | g :: rest, acc, gap =>
      if g.isSpacing || g.isBreak then
        if gap.isLines && g.char == '\t' && decide ((g.mark.column : Int) < indent) then
          .error .tabIndentation
        else scanPlain inFlow indent rest acc (gap.add g)
      else if !gap.isNone && endsPlain inFlow indent g rest then
        .ok (acc.reverse, gap.isLines, g :: rest)
      else if inFlow && g.char == ':' &&
          (startsWith '?' rest || (startsWithAny [',', '[', ']', '\x7b', '\x7d'] rest)) then
        .error .badFlowColon
      else if (g.char == ':' && gapAhead rest) || (inFlow && isFlowPunctuation g.char) then
        .ok (acc.reverse, gap.isLines, g :: rest)
      else scanPlain inFlow indent rest (g.char :: (gap.folded ++ acc)) .none

/-! ## Quoted scalars -/

/-- The character a one-letter escape stands for. -/
def escape? : Char → Option Char
  | '0' => some '\x00'
  | 'a' => some '\x07'
  | 'b' => some '\x08'
  | 't' => some '\t'
  | '\t' => some '\t'
  | 'n' => some '\n'
  | 'v' => some '\x0b'
  | 'f' => some '\x0c'
  | 'r' => some '\r'
  | 'e' => some '\x1b'
  | ' ' => some ' '
  | '"' => some '"'
  | '/' => some '/'
  | '\\' => some '\\'
  | 'N' => some '\x85'
  | '_' => some '\xa0'
  | 'L' => some '\u2028'
  | 'P' => some '\u2029'
  | _ => none

/-- The number of hexadecimal digits an escape letter announces. -/
def escapeDigits? : Char → Option Nat
  | 'x' => some 2
  | 'u' => some 4
  | 'U' => some 8
  | _ => none

/-- The code point spelt by the first `n` glyphs. -/
def hexCode? : Nat → List Glyph → Nat → Option Nat
  | 0, _, code => some code
  | _ + 1, [], _ => none
  | n + 1, g :: rest, code =>
      match hexValue? g.char with
      | some d => hexCode? n rest (16 * code + d)
      | none => none

/-- The content of a quoted scalar, up to and without the closing quote. -/
def scanQuoted (single : Bool) (gs : List Glyph) (acc : List Char) (gap : Gap) :
    Except SyntaxFault (List Char × List Glyph) :=
  match gs with
  | [] => .error .unclosedQuote
  | g :: rest =>
      if g.isSpacing || g.isBreak then scanQuoted single rest acc (gap.add g)
      else if documentMarkerAhead (g :: rest) && !gap.isNone then .error .unclosedQuote
      else
        let acc := gap.folded ++ acc
        if single then
          if g.char == '\'' then
            match rest with
            | h :: rest' =>
                if h.char == '\'' then scanQuoted single rest' ('\'' :: acc) .none
                else .ok (acc.reverse, h :: rest')
            | [] => .ok (acc.reverse, [])
          else scanQuoted single rest (g.char :: acc) .none
        else if g.char == '"' then .ok (acc.reverse, rest)
        else if g.char == '\\' then
          match rest with
          | [] => .error .badEscape
          | e :: rest' =>
              if e.isBreak then scanQuoted single rest' acc (.lines Option.none [])
              else
                match escape? e.char, escapeDigits? e.char with
                | some c, _ => scanQuoted single rest' (c :: acc) .none
                | Option.none, some n =>
                    match hexCode? n rest' 0 with
                    | some code =>
                        if code.isValidChar then
                          scanQuoted single (rest'.drop n) (Char.ofNat code :: acc) .none
                        else .error .badEscape
                    | Option.none => .error .badEscape
                | Option.none, Option.none => .error .badEscape
        else scanQuoted single rest (g.char :: acc) .none
termination_by gs.length
decreasing_by all_goals (simp only [List.length_cons, List.length_drop]; omega)

/-! ## Block scalars -/

/-- What becomes of the line breaks at the end of a block scalar. -/
inductive Chomping where
  /-- All of them are dropped. -/
  | strip
  /-- The first is kept. -/
  | clip
  /-- All of them are kept. -/
  | keep
deriving Repr, DecidableEq

def chomping? : Char → Option Chomping
  | '+' => some .keep
  | '-' => some .strip
  | _ => none

/-- The chomping sign a header starts with, if it starts with one. -/
def takeChomping (gs : List Glyph) : Option Chomping × List Glyph :=
  match gs with
  | g :: rest =>
      match chomping? g.char with
      | some c => (some c, rest)
      | none => (none, gs)
  | [] => (none, [])

/-- The indentation digit a header starts with; a zero is refused. -/
def takeIndentation (gs : List Glyph) : Except SyntaxFault (Option Nat × List Glyph) :=
  match gs with
  | g :: rest =>
      if g.char == '0' then .error .badBlockHeader
      else if g.char.isDigit then .ok (some (g.char.toNat - '0'.toNat), rest)
      else .ok (none, gs)
  | [] => .ok (none, [])

/-- The header of a block scalar: a chomping sign and an indentation digit, both
optional and in either order, then nothing but a comment. -/
def scanBlockHeader (gs : List Glyph) :
    Except SyntaxFault (Chomping × Option Nat × List Glyph) := do
  let (first, rest) := takeChomping gs
  let (indentation, rest) ← takeIndentation rest
  let (second, rest) :=
    if first.isNone && indentation.isSome then takeChomping rest else (none, rest)
  let rest := skipToLineEnd rest
  if !lineEndAhead rest then .error .badBlockHeader
  .ok ((first.or second).getD .clip, indentation, rest.drop 1)

/-- The line breaks up to the next line with content, latest first, the widest
indentation met, and the rest. An `indent` of zero is not settled yet. -/
def skipBlankLines (indent : Nat) :
    List Glyph → Nat → List Char → Except SyntaxFault (List Char × Nat × List Glyph)
  | [], widest, breaks => .ok (breaks, widest, [])
  | g :: rest, widest, breaks =>
      let inside := indent == 0 || g.mark.column < indent
      if inside && g.char == ' ' then skipBlankLines indent rest widest breaks
      else
        let widest := max widest g.mark.column
        if inside && g.char == '\t' then .error .tabIndentation
        else if g.isBreak then skipBlankLines indent rest widest (g.char :: breaks)
        else .ok (breaks, widest, g :: rest)

/-- What has been read of a block scalar, latest character first: its text, the
break after the last line, whether that line began with white space, and the
breaks of the blank lines after it. -/
structure BlockText where
  text : List Char
  lineBreak : Option Char
  indented : Bool
  blankLines : List Char

/-- The text with the pending breaks joined on, before a line that begins with
white space iff `indented`. -/
def BlockText.join (t : BlockText) (folded indented : Bool) : List Char :=
  if folded && t.lineBreak == some '\n' && !t.indented && !indented then
    if t.blankLines.isEmpty then ' ' :: t.text else t.blankLines ++ t.text
  else t.blankLines ++ (t.lineBreak.toList ++ t.text)

/-- The text with the pending breaks it ends with. -/
def BlockText.finish (t : BlockText) : Chomping → List Char
  | .strip => t.text
  | .clip => t.lineBreak.toList ++ t.text
  | .keep => t.blankLines ++ (t.lineBreak.toList ++ t.text)

/-- The lines of a block scalar, at most `fuel` of them. -/
def scanBlockLines (folded : Bool) (indent : Nat) :
    Nat → List Glyph → BlockText → Except SyntaxFault (BlockText × List Glyph)
  | 0, gs, t => .ok (t, gs)
  | fuel + 1, gs, t =>
      match gs with
      | [] => .ok (t, [])
      | g :: _ =>
          if g.mark.column == indent then do
            let text := t.join folded g.isSpacing
            let (line, rest) := spanChars (fun c => !isBreak c) gs
            let (breaks, _, after) ← skipBlankLines indent (rest.drop 1) 0 []
            scanBlockLines folded indent fuel after
              ⟨line.reverse ++ text, rest.head?.map (·.char), g.isSpacing, breaks⟩
          else .ok (t, gs)

/-- A block scalar inside a block collection indented by `outer` (`-1` outside
of any). Without an indentation digit the first line with content settles how
far the scalar is indented. -/
def scanBlock (folded : Bool) (outer : Int) (gs : List Glyph) :
    Except SyntaxFault (List Char × List Glyph) := do
  let (chomping, indentation, rest) ← scanBlockHeader gs
  let announced := match indentation with
    | some n => outer.toNat + n
    | none => 0
  let (breaks, widest, rest) ← skipBlankLines announced rest 0 []
  let indent :=
    if announced == 0 then max (max widest (outer + 1).toNat) 1 else announced
  let (t, rest) ← scanBlockLines folded indent rest.length rest ⟨[], none, false, breaks⟩
  .ok ((t.finish chomping).reverse, rest)

end CredRegistry.Yaml
