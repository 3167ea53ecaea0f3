/-!
# Upper case that comes out as ASCII

Upper-casing a text can turn characters outside ASCII into ASCII letters: the
dotless i becomes `I`, the long s becomes `S`, and ligatures fall apart into their
letters. `asciiUpper?` gives the upper case of a text whenever it is ASCII.
-/

namespace CredRegistry.Text

/-- The upper case of a character, if that is ASCII. -/
def asciiUpperChar? (c : Char) : Option (List Char) :=
  if c.toNat < 0x80 then some [c.toUpper]
  else match c.toNat with
    | 0x00DF => some ['S', 'S']
    | 0x0131 => some ['I']
    | 0x017F => some ['S']
    | 0xFB00 => some ['F', 'F']
    | 0xFB01 => some ['F', 'I']
    | 0xFB02 => some ['F', 'L']
    | 0xFB03 => some ['F', 'F', 'I']
    | 0xFB04 => some ['F', 'F', 'L']
    | 0xFB05 => some ['S', 'T']
    | 0xFB06 => some ['S', 'T']
    | _ => none

/-- The upper case of a text, if all of it is ASCII. -/
def asciiUpper? (s : String) : Option String :=
  (s.toList.mapM asciiUpperChar?).map fun parts => String.ofList parts.flatten

end CredRegistry.Text
