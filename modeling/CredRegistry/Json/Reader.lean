import CredRegistry.Decimal.Read
import CredRegistry.Json.Error

/-!
# Reading JSON texts

A reader takes characters off the front of a text. It remembers the rest when it
fails, since a fault of shape is placed where reading stood when it came out.

`value` reads any value, `skip` passes over one without looking at what it holds;
the two do not agree on every malformed text. `read` runs a reader on a whole
text.
-/

namespace CredRegistry.Json

open CredRegistry.Decimal

/-- A fault with the number of bytes of the text behind its place. -/
structure Fault where
  cause : Cause
  left : Option Nat

abbrev Reader := ExceptT Fault (StateM (List Char))

def byteCount (cs : List Char) : Nat := cs.foldl (fun n c => n + c.utf8Size) 0

namespace Reader

def rest : Reader (List Char) := get

def failHere {α : Type} (m : Malformed) : Reader α := do
  throw ⟨.malformed m, some (byteCount (← rest))⟩

def failAhead {α : Type} (m : Malformed) : Reader α := do
  throw ⟨.malformed m, some (byteCount (← rest) - 1)⟩

/-- Refuse what was read; the place is settled later. -/
def refuse {α : Type} (c : Cause) : Reader α := throw ⟨c, none⟩

/-- Place the faults of `r` that have no place yet where `r` ends. -/
def placing {α : Type} (r : Reader α) : Reader α := do
  try r catch f =>
    match f.left with
    | some _ => throw f
    | none => throw ⟨f.cause, some (byteCount (← rest))⟩

def attempt {α : Type} (r : Reader α) : Reader (Except Fault α) := do
  try
    let a ← r
    pure (.ok a)
  catch f => pure (.error f)

/-- Run `r`, then `after` whatever came out of `r`; the first failure counts. -/
def before {α : Type} (r : Reader α) (after : Reader Unit) : Reader α := do
  let outcome ← attempt r
  let ending ← attempt after
  match outcome, ending with
  | .ok a, .ok () => pure a
  | .error f, _ => throw f
  | _, .error f => throw f

def advance : Reader Unit := modify List.tail

def next? : Reader (Option Char) := do
  let cs ← rest
  set cs.tail
  pure cs.head?

def isSpace (c : Char) : Bool := c == ' ' || c == '\n' || c == '\t' || c == '\r'

/-- The next character that is no blank, not passed over. -/
def peek? : Reader (Option Char) := do
  let cs := (← rest).dropWhile isSpace
  set cs
  pure cs.head?

def word : List Char → Reader Unit
  | [] => pure ()
  | c :: cs => do
      match ← next? with
      | none => failHere .endInValue
      | some c' => if c = c' then word cs else failHere .expectedWord

/-! ## Numbers -/

/-- A number in a text: an integer of at most 64 bits, or a float. -/
inductive Number where
  | int (n : Int)
  | float (x : Binary64)

def Number.found : Number → Found
  | .int n => .int n
  | .float x => .float x

/-- Take digits into a number as long as it stays below `bound`; says how many. -/
def takeDigits (bound : Nat) : List Char → Nat → Nat → Nat × Nat × List Char
  | [], n, count => (n, count, [])
  | c :: cs, n, count =>
      match digitValue? 10 c with
      | some d => if 10 * n + d < bound then takeDigits bound cs (10 * n + d) (count + 1)
          else (n, count, c :: cs)
      | none => (n, count, c :: cs)

/-- The largest power of ten that is scaled by at once. -/
def maxScale : Nat := 308

/-- `f` times `10 ^ e`, by steps of rounded multiplication or division. -/
def scale : Nat → Binary64 → Int → Reader Binary64
  | 0, f, _ => pure f
  | fuel + 1, f, e =>
      if e.natAbs ≤ maxScale then
        let power := Binary64.ofNat (Nat.pow 10 e.natAbs)
        if 0 ≤ e then
          let scaled := f.mul power
          if scaled.isInfinite then failHere .numberOutOfRange else pure scaled
        else pure (f.div power)
      else if f.isZero then pure f
      else if 0 ≤ e then failHere .numberOutOfRange
      else scale fuel (f.div (.ofNat (Nat.pow 10 maxScale))) (e + maxScale)

/-- The float `± m · 10 ^ e`. Two steps take any `m` of 64 bits to zero. -/
def ofParts (negative : Bool) (m : Nat) (e : Int) : Reader Number := do
  let f ← scale 4 (.ofNat m) e
  pure (.float (if negative then f.neg else f))

/-- The end of an exponent that is too large to matter. -/
def hugeExponent (negative zero negativeExponent : Bool) : Reader Number := do
  if !zero && !negativeExponent then failHere .numberOutOfRange
  set ((← rest).dropWhile Char.isDigit)
  pure (.float (.ofMagnitude negative 0))

/-- The exponent of a number, behind its letter. -/
def exponent (negative : Bool) (m : Nat) (e : Int) : Reader Number := do
  let negativeExponent ← do
    match (← rest).head? with
    | some '+' => advance; pure false
    | some '-' => advance; pure true
    | _ => pure false
  match ← next? with
  | none => failHere .endInValue
  | some c =>
      match digitValue? 10 c with
      | none => failHere .invalidNumber
      | some d =>
          let (n, _, cs) := takeDigits 0x80000000 (← rest) d 0
          set cs
          match cs with
          | c :: cs =>
              if c.isDigit then
                set cs
                hugeExponent negative (m == 0) negativeExponent
              else ofParts negative m (if negativeExponent then e - n else e + n)
          | [] => ofParts negative m (if negativeExponent then e - n else e + n)

/-- What follows the digits of a number whose value is `m · 10 ^ e` so far. -/
def numberEnd (negative : Bool) (m : Nat) (e : Int) : Reader Number := do
  match (← rest).head? with
  | some 'e' => advance; exponent negative m e
  | some 'E' => advance; exponent negative m e
  | _ => ofParts negative m e

/-- The digits of a fraction, behind the point. Those that do not fit count for
nothing. -/
def fraction (negative : Bool) (m : Nat) (e : Int) : Reader Number := do
  let cs ← rest
  match cs.head? with
  | none => failAhead .endInValue
  | some c =>
      if !c.isDigit then failAhead .invalidNumber
      else
        let (m, count, cs) := takeDigits 0x10000000000000000 cs m 0
        set (cs.dropWhile Char.isDigit)
        numberEnd negative m (e - count)

/-- The integer `m` with its sign: negative zero and what is out of range are
floats. -/
def ofSigned (negative : Bool) (m : Nat) : Number :=
  if !negative then .int m
  else if 1 ≤ m && m ≤ 0x8000000000000000 then .int (-(m : Int))
  else .float (Binary64.ofNat m).neg

/-- What follows the digits in front of a point. -/
def integerEnd (negative : Bool) (m : Nat) : Reader Number := do
  match (← rest).head? with
  | some '.' => advance; fraction negative m 0
  | some 'e' => advance; exponent negative m 0
  | some 'E' => advance; exponent negative m 0
  | _ => pure (ofSigned negative m)

def number (negative : Bool) : Reader Number := do
  match ← next? with
  | none => failHere .endInValue
  | some '0' =>
      match (← rest).head? with
      | some c => if c.isDigit then failAhead .invalidNumber else integerEnd negative 0
      | none => integerEnd negative 0
  | some c =>
      match digitValue? 10 c with
      | none => failHere .invalidNumber
      | some d =>
          let (m, _, cs) := takeDigits 0x10000000000000000 (← rest) d 0
          let extra := (cs.takeWhile Char.isDigit).length
          set (cs.dropWhile Char.isDigit)
          if extra == 0 then integerEnd negative m
          else
            match (← rest).head? with
            | some '.' => advance; fraction negative m extra
            | _ => numberEnd negative m extra

/-! ## Strings -/

def hex4? (a b c d : Char) : Option Nat := nat? 16 [a, b, c, d]

/-- Four hexadecimal digits at the front of `cs`, or where their lack is met. -/
def hexFault (cs : List Char) : Malformed × Nat :=
  if byteCount cs < 4 then (.endInString, 0) else (.invalidEscape, byteCount cs - 4)

/-- Where something else than `\u` follows the first half of a pair. -/
def pairFault (cs : List Char) : Malformed × Nat :=
  if cs.isEmpty then (.endInString, 0) else (.endOfHexEscape, byteCount cs - 1)

/-- The character that a letter behind a backslash stands for. -/
def escaped? : Char → Option Char
  | '"' => some '"'
  | '\\' => some '\\'
  | '/' => some '/'
  | 'b' => some '\x08'
  | 'f' => some '\x0c'
  | 'n' => some '\n'
  | 'r' => some '\r'
  | 't' => some '\t'
  | _ => none

/-- A string behind its opening quote: its characters and the rest. `done` are the
characters so far, latest first. -/
def stringBody : List Char → List Char → Except (Malformed × Nat) (List Char × List Char)
  | [], _ => .error (.endInString, 0)
  | '"' :: cs, done => .ok (done.reverse, cs)
  | '\\' :: 'u' :: a :: b :: c :: d :: cs, done =>
      match hex4? a b c d with
      | none => .error (hexFault (a :: b :: c :: d :: cs))
      | some n =>
          if 0xDC00 ≤ n && n ≤ 0xDFFF then .error (.loneSurrogate, byteCount cs)
          else if n < 0xD800 || 0xDFFF < n then stringBody cs (Char.ofNat n :: done)
          else
            match cs with
            | '\\' :: 'u' :: a :: b :: c :: d :: cs =>
                match hex4? a b c d with
                | none => .error (hexFault (a :: b :: c :: d :: cs))
                | some n' =>
                    if 0xDC00 ≤ n' && n' ≤ 0xDFFF then
                      let n := (n - 0xD800) * 0x400 + (n' - 0xDC00) + 0x10000
                      stringBody cs (Char.ofNat n :: done)
                    else .error (.loneSurrogate, byteCount cs)
            | '\\' :: 'u' :: cs => .error (hexFault cs)
            | '\\' :: cs => .error (pairFault cs)
            | cs => .error (pairFault cs)
  | '\\' :: c :: cs, done =>
      match escaped? c with
      | some e => stringBody cs (e :: done)
      | none =>
          .error (if c == 'u' then hexFault cs
            else (.invalidEscape, byteCount (c :: cs) - 1))
  | ['\\'], _ => .error (.endInString, 0)
  | c :: cs, done =>
      if c.toNat < 0x20 then .error (.controlCharacter, byteCount cs)
      else stringBody cs (c :: done)

def string : Reader String := do
  match stringBody (← rest) [] with
  | .ok (done, cs) =>
      set cs
      pure (String.ofList done)
  | .error (m, left) => throw ⟨.malformed m, some left⟩

/-! ## Arrays and objects -/

/-- Is there another item? `first` if none has been read. -/
def nextItem (first : Bool) : Reader Bool := do
  match ← peek? with
  | none => failAhead .endInList
  | some ']' => pure false
  | some c =>
      if first then pure true
      else if c == ',' then do
        advance
        match ← peek? with
        | none => failAhead .endInValue
        | some ']' => failAhead .trailingComma
        | some _ => pure true
      else failAhead .expectedListCommaOrEnd

def endItems : Reader Unit := do
  match ← peek? with
  | none => failAhead .endInList
  | some ']' => advance
  | some ',' =>
      advance
      match ← peek? with
      | some ']' => failAhead .trailingComma
      | _ => failAhead .trailingCharacters
  | some _ => failAhead .trailingCharacters

/-- The key of the next field, if there is another one. `first` if none has been
read. -/
def nextKey (first : Bool) : Reader (Option String) := do
  match ← peek? with
  | none => failAhead .endInObject
  | some '\x7d' => pure none
  | some c =>
      if first then
        if c == '"' then do advance; some <$> string
        else failAhead .keyMustBeString
      else if c == ',' then do
        advance
        match ← peek? with
        | none => failAhead .endInValue
        | some '"' => advance; some <$> string
        | some '\x7d' => failAhead .trailingComma
        | some _ => failAhead .keyMustBeString
      else failAhead .expectedObjectCommaOrEnd

def colon : Reader Unit := do
  match ← peek? with
  | none => failAhead .endInObject
  | some ':' => advance
  | some _ => failAhead .expectedColon

def endFields : Reader Unit := do
  match ← peek? with
  | none => failAhead .endInObject
  | some '\x7d' => advance
  | some ',' => failAhead .trailingComma
  | some _ => failAhead .trailingCharacters

/-! ## Any value -/

mutual

/-- A value with collections nested at most `depth - 1` deep. -/
def valueWithin : Nat → Nat → Reader Value
  | 0, _ => failAhead .expectedValue
  | fuel + 1, depth => do
      match ← peek? with
      | none => failAhead .endInValue
      | some 'n' => advance; word "ull".toList; pure .null
      | some 't' => advance; word "rue".toList; pure (.bool true)
      | some 'f' => advance; word "alse".toList; pure (.bool false)
      | some '"' => advance; .str <$> string
      | some '[' =>
          if depth ≤ 1 then failAhead .tooDeep
          else
            advance
            .array <$> before (itemsWithin fuel (depth - 1) true) endItems
      | some '\x7b' =>
          if depth ≤ 1 then failAhead .tooDeep
          else
            advance
            .ofFields <$> before (fieldsWithin fuel (depth - 1) true) endFields
      | some c =>
          if c == '-' || c.isDigit then
            if c == '-' then advance
            match ← number (c == '-') with
            | .int n => pure (.int n)
            | .float x => pure (.float x)
          else failAhead .expectedValue

def itemsWithin : Nat → Nat → Bool → Reader (List Value)
  | 0, _, _ => failAhead .expectedValue
  | fuel + 1, depth, first => do
      if ← nextItem first then
        let v ← valueWithin fuel depth
        let vs ← itemsWithin fuel depth false
        pure (v :: vs)
      else pure []

def fieldsWithin : Nat → Nat → Bool → Reader (List (String × Value))
  | 0, _, _ => failAhead .expectedValue
  | fuel + 1, depth, first => do
      match ← nextKey first with
      | some k =>
          colon
          let v ← valueWithin fuel depth
          let fields ← fieldsWithin fuel depth false
          pure ((k, v) :: fields)
      | none => pure []

end

/-- How deep collections may be nested, and one more. -/
def depthLimit : Nat := 128

/-- A value. Each step takes off a character or is the last at its place. -/
def value (depth : Nat) : Reader Value := do
  valueWithin (2 * (← rest).length + 2) depth

/-! ## Skipping a value -/

def skipExponent : Reader Unit := do
  match (← rest).head? with
  | some '+' => advance
  | some '-' => advance
  | _ => pure ()
  match ← next? with
  | some c => if c.isDigit then modify (·.dropWhile Char.isDigit) else failHere .invalidNumber
  | none => failHere .invalidNumber

def skipNumber : Reader Unit := do
  match ← next? with
  | some '0' =>
      match (← rest).head? with
      | some c => if c.isDigit then failAhead .invalidNumber
      | none => pure ()
  | some c => if c.isDigit then modify (·.dropWhile Char.isDigit) else failHere .invalidNumber
  | none => failHere .invalidNumber
  if (← rest).head? == some '.' then
    advance
    match (← rest).head? with
    | some c => if c.isDigit then modify (·.dropWhile Char.isDigit) else failAhead .invalidNumber
    | none => failAhead .invalidNumber
  match (← rest).head? with
  | some 'e' => advance; skipExponent
  | some 'E' => advance; skipExponent
  | _ => pure ()

/-- The rest behind a string whose escapes are not put together: any four
hexadecimal digits will do. -/
def skipBody : List Char → Except (Malformed × Nat) (List Char)
  | [] => .error (.endInString, 0)
  | '"' :: cs => .ok cs
  | '\\' :: 'u' :: a :: b :: c :: d :: cs =>
      match hex4? a b c d with
      | none => .error (hexFault (a :: b :: c :: d :: cs))
      | some _ => skipBody cs
  | '\\' :: c :: cs =>
      match escaped? c with
      | some _ => skipBody cs
      | none =>
          .error (if c == 'u' then hexFault cs
            else (.invalidEscape, byteCount (c :: cs) - 1))
  | ['\\'] => .error (.endInString, 0)
  | c :: cs =>
      if c.toNat < 0x20 then .error (.controlCharacter, byteCount (c :: cs))
      else skipBody cs

/-- Pass over a string, behind its opening quote. -/
def skipString : Reader Unit := do
  match skipBody (← rest) with
  | .ok cs => set cs
  | .error (m, left) => throw ⟨.malformed m, some left⟩

/-- A collection that is being passed over. -/
inductive Enclosing where
  | list
  | object
deriving DecidableEq

/-- Pass over the key and the colon of a field. -/
def skipKey : Reader Unit := do
  match ← peek? with
  | none => failAhead .endInObject
  | some '"' =>
      advance
      skipString
      colon
  | some _ => failAhead .keyMustBeString

/-- What follows a value, or the opening bracket of a collection (`opening`):
passes over closing brackets and a comma, and says which collections are still
open, innermost first. -/
def skipEnds : Bool → List Enclosing → Reader (List Enclosing)
  | _, [] => pure []
  | opening, e :: outer => do
      let c ← peek?
      match c, e with
      | some ']', .list => advance; skipEnds false outer
      | some '\x7d', .object => advance; skipEnds false outer
      | none, .list => failAhead .endInList
      | none, .object => failAhead .endInObject
      | some c, e =>
          if opening then pure (e :: outer)
          else if c == ',' then do advance; pure (e :: outer)
          else match e with
            | .list => failAhead .expectedListCommaOrEnd
            | .object => failAhead .expectedObjectCommaOrEnd

/-- Pass over a value inside the open collections. -/
def skipWithin : Nat → List Enclosing → Reader Unit
  | 0, _ => failAhead .expectedValue
  | fuel + 1, outer => do
      let opened ← do
        match ← peek? with
        | none => failAhead .endInValue
        | some 'n' => advance; word "ull".toList; pure none
        | some 't' => advance; word "rue".toList; pure none
        | some 'f' => advance; word "alse".toList; pure none
        | some '"' => advance; skipString; pure none
        | some '[' => advance; pure (some Enclosing.list)
        | some '\x7b' => advance; pure (some Enclosing.object)
        | some c =>
            if c == '-' then do advance; skipNumber; pure none
            else if c.isDigit then do skipNumber; pure none
            else failAhead .expectedValue
      let outer ← skipEnds opened.isSome (opened.toList ++ outer)
      match outer with
      | [] => pure ()
      | .list :: _ => skipWithin fuel outer
      | .object :: _ =>
          skipKey
          skipWithin fuel outer

/-- Pass over a value, however deep its collections are nested. -/
def skip : Reader Unit := do skipWithin ((← rest).length + 1) []

end Reader

/-! ## Whole texts -/

/-- The position of the byte `offset` of a text. -/
def positionAt (text : String) (offset : Nat) : Position :=
  let front := text.toUTF8.toList.take offset
  let line := front.reverse.takeWhile (· ≠ 10)
  ⟨1 + front.count 10, line.length⟩

def Fault.inText (text : String) (f : Fault) : Error :=
  ⟨f.cause, f.left.map fun left => positionAt text (text.utf8ByteSize - left)⟩

def read {α : Type} (text : String) (r : Reader α) : Except Error α :=
  let whole : Reader α := do
    let a ← r
    match ← Reader.peek? with
    | some _ => Reader.failAhead .trailingCharacters
    | none => pure a
  match (whole.run.run text.toList).1 with
  | .ok a => .ok a
  | .error f => .error (f.inText text)

def Value.ofText (text : String) : Except Error Value := read text (Reader.value Reader.depthLimit)

end CredRegistry.Json
