/-!
# Marked text

A YAML text as a list of *glyphs*: characters together with the position each
one has in the text.

Line breaks are settled here once. A carriage return, a line feed, the two of
them together and a next-line character all become one `'\n'` glyph; the line
and paragraph separators keep their character. Everything that reads YAML
works on glyphs and never counts lines itself.
-/

namespace CredRegistry.Yaml

/-- A position: bytes before it, lines before it, and characters before it on its
own line. -/
structure Mark where
  index : Nat
  line : Nat
  column : Nat
deriving Repr, DecidableEq, Inhabited

namespace Mark

def start : Mark := ⟨0, 0, 0⟩

/-- The position after the character `c` on the same line. -/
def next (m : Mark) (c : Char) : Mark := ⟨m.index + c.utf8Size, m.line, m.column + 1⟩

/-- The position after a line break of `width` bytes. -/
def nextLine (m : Mark) (width : Nat) : Mark := ⟨m.index + width, m.line + 1, 0⟩

/-- The wording of a position. Lines and columns are counted from one. -/
def text (m : Mark) : String :=
  s!"line {m.line + 1} column {m.column + 1}"

/-- Is this the very start of a line at the start of the text? Such a position
is not worth naming in a message. -/
def isOrigin (m : Mark) : Bool := m.line == 0 && m.column == 0

end Mark

def isBreak (c : Char) : Bool :=
  c == '\n' || c == '\r' || c == '\x85' || c == '\u2028' || c == '\u2029'

def isSpacing (c : Char) : Bool := c == ' ' || c == '\t'

/-- A character and where it stands. -/
structure Glyph where
  char : Char
  mark : Mark
deriving Repr, DecidableEq, Inhabited

namespace Glyph

def isBreak (g : Glyph) : Bool := Yaml.isBreak g.char

def isSpacing (g : Glyph) : Bool := Yaml.isSpacing g.char

end Glyph

/-- A text that has been given its positions, with the position of its end. -/
structure MarkedText where
  glyphs : List Glyph
  stop : Mark
deriving Repr

namespace MarkedText

/-- Give each character of `cs` its position, the first one standing at `m`. -/
def ofListAt : List Char → Mark → MarkedText
  | [], m => ⟨[], m⟩
  | '\r' :: '\n' :: cs, m =>
      let t := ofListAt cs (m.nextLine 2)
      ⟨⟨'\n', m⟩ :: t.glyphs, t.stop⟩
  | c :: cs, m =>
      if c == '\u2028' || c == '\u2029' then
        let t := ofListAt cs (m.nextLine c.utf8Size)
        ⟨⟨c, m⟩ :: t.glyphs, t.stop⟩
      else if isBreak c then
        let t := ofListAt cs (m.nextLine c.utf8Size)
        ⟨⟨'\n', m⟩ :: t.glyphs, t.stop⟩
      else
        let t := ofListAt cs (m.next c)
        ⟨⟨c, m⟩ :: t.glyphs, t.stop⟩

/-- Give each character of `cs` its position. -/
def ofList (cs : List Char) : MarkedText := ofListAt cs Mark.start

end MarkedText

/-! ## Looking at what lies ahead -/

/-- The position of the first glyph, or of the end of the text. -/
def markAt (stop : Mark) : List Glyph → Mark
  | [] => stop
  | g :: _ => g.mark

def startsWith (c : Char) : List Glyph → Bool
  | [] => false
  | g :: _ => g.char == c

/-- Does a space, a tab, a line break or the end of the text come next? -/
def gapAhead : List Glyph → Bool
  | [] => true
  | g :: _ => g.isSpacing || g.isBreak

/-- Does a line break or the end of the text come next? -/
def lineEndAhead : List Glyph → Bool
  | [] => true
  | g :: _ => g.isBreak

def startsWithAny (cs : List Char) : List Glyph → Bool
  | [] => false
  | g :: _ => cs.contains g.char

/-- Three times `c`, then a gap: the form of a document marker. -/
def markerAhead (c : Char) : List Glyph → Bool
  | a :: b :: d :: rest => a.char == c && b.char == c && d.char == c && gapAhead rest
  | _ => false

/-- Either document marker, at the start of a line. -/
def documentMarkerAhead (gs : List Glyph) : Bool :=
  match gs with
  | [] => false
  | g :: _ => g.mark.column == 0 && (markerAhead '-' gs || markerAhead '.' gs)

end CredRegistry.Yaml
