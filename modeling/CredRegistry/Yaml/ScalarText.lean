import CredRegistry.Yaml.Pen
import CredRegistry.Yaml.Plain

/-!
# Writing scalars

A text is written plainly if it reads back as itself that way, in single quotes
if only its meaning stands in the way, as a literal block if it has several
lines, and else in double quotes, where anything can be escaped.

`Traits` holds what of a text decides between the styles.
-/

namespace CredRegistry.Yaml

/-- How a scalar is written. -/
inductive ScalarStyle where
  | plain
  | singleQuoted
  | doubleQuoted
  | literal
deriving Repr, DecidableEq

/-! ## Classes of characters -/

def isShown (c : Char) : Bool :=
  let n := c.toNat
  n == 0x0A || (0x20 ≤ n && n ≤ 0x7E) || (0xA0 ≤ n && n ≤ 0xD7FF)
    || (0xE000 ≤ n && n ≤ 0xFFFD && n ≠ 0xFEFF) || 0x10000 ≤ n

def endsLine (c : Char) : Bool :=
  let n := c.toNat
  n == 0x0A || n == 0x0D || n == 0x85 || n == 0x2028 || n == 0x2029

def setsOff (c : Char) : Bool := c == ' ' || c == '\t' || c == '\x00' || endsLine c

/-- Does `cs` end here, or go on with a character that sets off an indicator? -/
def setOffAhead : List Char → Bool
  | [] => true
  | c :: _ => setsOff c

/-- Do a character with `p` and one with `q` stand side by side in `cs`? -/
def adjoin (p q : Char → Bool) : List Char → Bool
  | c :: d :: cs => (p c && q d) || adjoin p q (d :: cs)
  | _ => false

def beginsMarked : List Char → Bool
  | [] => false
  | c :: cs =>
      "#,[]\x7b\x7d&*!|>'\"%@`".toList.contains c
        || ("?:-".toList.contains c && setOffAhead cs)

/-- Does an indicator stand further on in the text? `c` is the character before. -/
def marksInside (c : Char) : List Char → Bool
  | [] => false
  | d :: cs => (d == ':' && setOffAhead cs) || (d == '#' && setsOff c) || marksInside d cs

/-- Does the text begin like the mark between two documents? -/
def beginsLikeMark : List Char → Bool
  | '-' :: '-' :: '-' :: _ => true
  | '.' :: '.' :: '.' :: _ => true
  | _ => false

/-- What of a text decides how it can be written. -/
structure Traits where
  severalLines : Bool
  plainAllowed : Bool
  singleQuotedAllowed : Bool
  literalAllowed : Bool

def Traits.of (cs : List Char) : Traits :=
  let isSpace (c : Char) : Bool := c == ' '
  let at? (p : Char → Bool) (c : Option Char) : Bool := (c.map p).getD false
  let edged (p : Char → Bool) : Bool := at? p cs.head? || at? p cs.getLast?
  let escapes := cs.any (fun c => !isShown c) || adjoin isSpace endsLine cs
  let indented := adjoin endsLine isSpace cs
  let marked := beginsLikeMark cs || beginsMarked cs ||
    match cs with
    | [] => false
    | c :: cs => marksInside c cs
  let lines := cs.any endsLine
  { severalLines := lines
    plainAllowed := !(edged isSpace || edged endsLine || indented || escapes || lines || marked)
    singleQuotedAllowed := !(indented || escapes)
    literalAllowed := !(at? isSpace cs.getLast? || escapes) }

/-! ## Styles -/

/-- The style a text asks for by its meaning: several lines ask for a literal
block, and what reads as something else than itself asks for quotes. -/
def wantedStyle (cs : List Char) : ScalarStyle :=
  if cs.contains '\n' then .literal
  else match plainFound cs with
    | .str _ => if isPaddedDigits cs then .singleQuoted else .plain
    | _ => .singleQuoted

/-- The style a text is written in. A key that shares a line with its value has to
keep to one line. -/
def ScalarStyle.settle (wanted : ScalarStyle) (traits : Traits) (simpleKey : Bool) :
    ScalarStyle :=
  let wanted := if simpleKey && traits.severalLines then .doubleQuoted else wanted
  let wanted := if wanted = .plain && !traits.plainAllowed then .singleQuoted else wanted
  match wanted with
  | .singleQuoted => if traits.singleQuotedAllowed then .singleQuoted else .doubleQuoted
  | .literal => if traits.literalAllowed && !simpleKey then .literal else .doubleQuoted
  | style => style

/-! ## Writing -/

/-- `n` in upper-case hexadecimal digits, at least `width` of them. -/
def upperHex (width n : Nat) : List Char :=
  let ds := (Nat.toDigits 16 n).map Char.toUpper
  List.replicate (width - ds.length) '0' ++ ds

/-- The letter that stands for a character behind a backslash. -/
def escapeLetter? (c : Char) : Option Char :=
  match c.toNat with
  | 0x00 => some '0'
  | 0x07 => some 'a'
  | 0x08 => some 'b'
  | 0x09 => some 't'
  | 0x0A => some 'n'
  | 0x0B => some 'v'
  | 0x0C => some 'f'
  | 0x0D => some 'r'
  | 0x1B => some 'e'
  | 0x22 => some '"'
  | 0x5C => some '\\'
  | 0x85 => some 'N'
  | 0x2028 => some 'L'
  | 0x2029 => some 'P'
  | _ => none

/-- How a character is written between double quotes. -/
def doubleQuotedChar (c : Char) : List Char :=
  if isShown c && !endsLine c && c ≠ '"' && c ≠ '\\' then [c]
  else match escapeLetter? c with
    | some l => ['\\', l]
    | none =>
        let n := c.toNat
        if n ≤ 0xFF then '\\' :: 'x' :: upperHex 2 n
        else if n ≤ 0xFFFF then '\\' :: 'u' :: upperHex 4 n
        else '\\' :: 'U' :: upperHex 8 n

namespace Pen

/-- Write the inside of a single-quoted text; its lines go to column `indent`.
`broken` after a line break. -/
def singleQuotedBody (indent : Nat) : Bool → List Char → Pen → Pen
  | broken, [], p => if broken then p.indentTo indent else p
  | broken, c :: cs, p =>
      if c == ' ' then singleQuotedBody indent broken cs (p.put c)
      else if endsLine c then
        singleQuotedBody indent true cs { p.putBreak c with inIndent := true }
      else
        let p := if broken then p.indentTo indent else p
        let p := if c == '\'' then p.put c else p
        singleQuotedBody indent false cs { p.put c with inIndent := false }

/-- Write the inside of a literal block at column `indent`. `broken` after a line
break. -/
def literalBody (indent : Nat) : Bool → List Char → Pen → Pen
  | _, [], p => p
  | broken, c :: cs, p =>
      if endsLine c then literalBody indent true cs { p.putBreak c with inIndent := true }
      else
        let p := if broken then p.indentTo indent else p
        literalBody indent false cs { p.put c with inIndent := false }

/-- The header of a literal block: its indentation if the text hides it, and what
to make of the line breaks at its end. -/
def literalHeader (cs : List Char) : List Char :=
  let hint := match cs with
    | c :: _ => if c == ' ' || endsLine c then ['2'] else []
    | [] => []
  let chomp := match cs.reverse with
    | [] => ['-']
    | [c] => if endsLine c then ['+'] else ['-']
    | c :: d :: _ => if !endsLine c then ['-'] else if endsLine d then ['+'] else []
  '|' :: (hint ++ chomp)

/-- Write a text in a style; its lines go to column `indent`. -/
def scalar (p : Pen) (indent : Nat) (style : ScalarStyle) (cs : List Char) : Pen :=
  match style with
  | .plain => ((if cs.isEmpty then p else p.gap).puts cs).afterText
  | .singleQuoted => (singleQuotedBody indent false cs (p.separate ['\''])).suffix ['\'']
  | .doubleQuoted => (p.separate ('"' :: cs.flatMap doubleQuotedChar)).suffix ['"']
  | .literal =>
      let p := (p.separate (literalHeader cs)).putBreak '\n'
      literalBody indent true cs { p with afterBlank := true, inIndent := true }

end Pen

end CredRegistry.Yaml
