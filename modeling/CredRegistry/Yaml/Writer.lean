import CredRegistry.Yaml.ScalarText

/-!
# Writing YAML

A value is written in block style, with two columns of indentation for each level;
only empty collections are written in brackets.

Not every value can be written. A tag cannot stand on a tag. A mapping with a
single entry cannot have a tagged value or another mapping with a single entry for
its key, unless the mapping itself is tagged. `writeFault?` finds what stands in
the way.
-/

namespace CredRegistry.Yaml

/-! ## What cannot be written -/

/-- Is this a mapping with a single entry, or a tagged value? -/
def isSinglet : Value → Bool
  | .map [_] => true
  | .tagged _ _ => true
  | _ => false

mutual

/-- The first thing that keeps a value from being written; `underTag` if it stands
right behind a tag. -/
def writeFault? (underTag : Bool) : Value → Option Error
  | .seq items => itemsFault? items
  | .map pairs =>
      (pairsFault? pairs).or <|
        match pairs with
        | [(k, _)] =>
            if !underTag && isSinglet k then some (.malformed .unexpectedToken) else none
        | _ => none
  | .tagged _ v => if underTag then some (.unplaced .nestedTags) else writeFault? true v
  | _ => none

def itemsFault? : List Value → Option Error
  | [] => none
  | v :: vs => (writeFault? false v).or (itemsFault? vs)

def pairsFault? : List (Value × Value) → Option Error
  | [] => none
  | (k, v) :: pairs => ((writeFault? false k).or (writeFault? false v)).or (pairsFault? pairs)

end

/-! ## Scalars and tags -/

/-- A value that is no collection, as its text and the style it asks for. -/
def scalarOf? : Value → Option (List Char × ScalarStyle)
  | .null => some ("null".toList, .plain)
  | .bool b => some ((if b then "true" else "false").toList, .plain)
  | .int n => some ((toString n).toList, .plain)
  | .float x => some ((floatText x).toList, .plain)
  | .str s => some (s.toList, wantedStyle s.toList)
  | _ => none

/-- The name of a tag without the exclamation mark that every tag is written
with. A lone mark is its own name. A zero ends the tag. -/
def tagName (tag : String) : List Char :=
  let marked := match unbanged tag with
    | '!' :: cs => '!' :: cs
    | cs => '!' :: cs
  match marked.takeWhile (· != '\x00') with
  | '!' :: c :: cs => c :: cs
  | cs => cs

/-- Characters of a tag that stand for themselves. -/
def standsInTag (c : Char) : Bool :=
  c.isAlphanum || "-_;/?:@&=+$,.~*'()[]".toList.contains c

def tagMarkupChar (c : Char) : List Char :=
  if standsInTag c then [c]
  else (String.singleton c).toUTF8.toList.flatMap fun b => '%' :: upperHex 2 b.toNat

def tagMarkup (tag : String) : List Char :=
  match tagName tag with
  | ['!'] => ['!', '<', '%', '2', '1', '>']
  | name => '!' :: name.flatMap tagMarkupChar

/-- The number of bytes of a tag that count towards the length of a key. -/
def tagLength : Option String → Nat
  | none => 0
  | some tag =>
      match tagName tag with
      | ['!'] => 1
      | name => 1 + (String.ofList name).utf8ByteSize

/-- The longest key, in bytes, that shares a line with its value. -/
def simpleKeyBound : Nat := 128

def isSimpleKey (tag : Option String) : Value → Bool
  | .tagged t v => isSimpleKey (some t) v
  | .seq items => items.isEmpty && tagLength tag ≤ simpleKeyBound
  | .map pairs => pairs.isEmpty && tagLength tag ≤ simpleKeyBound
  | v =>
      match scalarOf? v with
      | some (cs, _) =>
          !(Traits.of cs).severalLines
            && tagLength tag + (String.ofList cs).utf8ByteSize ≤ simpleKeyBound
      | none => false

/-! ## Values -/

/-- The column of a collection inside one at column `outer`. -/
def deeper : Option Nat → Nat
  | none => 0
  | some n => n + 2

/-- The column of the lines of a scalar inside a collection at column `outer`. -/
def scalarColumn (outer : Option Nat) : Nat := outer.getD 0 + 2

/-- What a value is written inside of. -/
structure Slot where
  /-- The column of the collection around it. -/
  outer : Option Nat
  /-- Does it belong to an entry of a mapping? -/
  inEntry : Bool
  /-- Is it a key that shares a line with its value? -/
  simpleKey : Bool

mutual

def writeValue (slot : Slot) (p : Pen) : Value → Pen
  | .tagged t v => writeValue slot (p.separate (tagMarkup t)) v
  | .seq [] => p.separate ['[', ']']
  | .map [] => p.separate ['\x7b', '\x7d']
  | .seq items =>
      -- Items may stand at the column of the key they belong to.
      let level := slot.inEntry && !p.inIndent
      let column := if level then slot.outer.getD 0 else deeper slot.outer
      writeItems column p items
  | .map pairs => writePairs (deeper slot.outer) p pairs
  | v =>
      match scalarOf? v with
      | some (cs, style) =>
          p.scalar (scalarColumn slot.outer) (style.settle (Traits.of cs) slot.simpleKey) cs
      | none => p

/-- Write the items of a sequence at a column. -/
def writeItems (column : Nat) (p : Pen) : List Value → Pen
  | [] => p
  | v :: vs =>
      let p := (p.indentTo column).marker '-'
      writeItems column (writeValue ⟨some column, false, false⟩ p v) vs

/-- Write the entries of a mapping at a column. -/
def writePairs (column : Nat) (p : Pen) : List (Value × Value) → Pen
  | [] => p
  | (k, v) :: pairs =>
      let p := p.indentTo column
      let p :=
        if isSimpleKey none k then (writeValue ⟨some column, true, true⟩ p k).suffix [':']
        else
          let p := writeValue ⟨some column, true, false⟩ (p.marker '?') k
          (p.indentTo column).marker ':'
      writePairs column (writeValue ⟨some column, true, false⟩ p v) pairs

end

def write (v : Value) : Except Error String :=
  match writeFault? false v with
  | some e => .error e
  | none => .ok ((writeValue ⟨none, false, false⟩ .start v).indentTo 0).text

end CredRegistry.Yaml
