/-!
# Bytes and texts

UTF-8 in both directions. A sequence of bytes that is no text is described by where
it stops being one: at a sequence that can never be right, or at its end in the
middle of a character. `lossy` reads any bytes and puts a mark in place of what is
wrong.
-/

namespace CredRegistry.Text

def byteLength (cs : List Char) : Nat := cs.foldl (fun n c => n + c.utf8Size) 0

/-- The characters of `cs` that lie wholly in its first `n` bytes. -/
def takeBytes : Nat → List Char → List Char
  | n, c :: cs => if c.utf8Size ≤ n then c :: takeBytes (n - c.utf8Size) cs else []
  | _, [] => []

/-- The characters of `cs` that begin after its first `n` bytes. -/
def dropBytes : Nat → List Char → List Char
  | 0, cs => cs
  | n + 1, c :: cs => dropBytes (n + 1 - c.utf8Size) cs
  | _ + 1, [] => []

def utf8 (s : String) : List UInt8 := s.toUTF8.toList

/-- Where bytes stop being a text. -/
inductive Utf8Fault where
  /-- So many bytes from an index on are wrong. -/
  | invalid (length index : Nat)
  /-- The last character is cut off. -/
  | incomplete (index : Nat)
deriving Repr, DecidableEq

def Utf8Fault.message : Utf8Fault → String
  | .invalid length index => s!"invalid utf-8 sequence of {length} bytes from index {index}"
  | .incomplete index => s!"incomplete utf-8 byte sequence from index {index}"

def isContinuation (b : UInt8) : Bool := b.toNat / 64 == 2

/-- What can follow the first byte of a character: how many bytes, and the bounds of
the first of them, which shut out overlong forms and surrogates. -/
def continuation? (b : UInt8) : Option (Nat × Nat × Nat) :=
  let n := b.toNat
  if n < 0x80 then some (0, 0, 0)
  else if n < 0xC2 then none
  else if n < 0xE0 then some (1, 0x80, 0xBF)
  else if n == 0xE0 then some (2, 0xA0, 0xBF)
  else if n == 0xED then some (2, 0x80, 0x9F)
  else if n < 0xF0 then some (2, 0x80, 0xBF)
  else if n == 0xF0 then some (3, 0x90, 0xBF)
  else if n < 0xF4 then some (3, 0x80, 0xBF)
  else if n == 0xF4 then some (3, 0x80, 0x8F)
  else none

/-- The character at the front of some bytes. -/
inductive Utf8Step where
  | char (c : Char) (rest : List UInt8)
  /-- The first `length` bytes belong to no character. -/
  | invalid (length : Nat) (rest : List UInt8)
  /-- The bytes end within a character. -/
  | incomplete

/-- Take the bytes that go on with a character: `count` more, the value so far being
`n`; `length` bytes have been taken. -/
def utf8Tail : Nat → Nat → Nat → List UInt8 → Utf8Step
  | 0, n, _, bs => .char (Char.ofNat n) bs
  | _ + 1, _, _, [] => .incomplete
  | count + 1, n, length, b :: bs =>
      if isContinuation b then utf8Tail count (64 * n + b.toNat % 64) (length + 1) bs
      else .invalid length (b :: bs)

/-- Take one character off the front of some bytes. -/
def utf8Step (b : UInt8) (bs : List UInt8) : Utf8Step :=
  match continuation? b with
  | none => .invalid 1 bs
  | some (0, _, _) => .char (Char.ofNat b.toNat) bs
  | some (count + 1, low, high) =>
      let lead := b.toNat % (1 <<< (5 - count))
      match bs with
      | [] => .incomplete
      | c :: cs =>
          if low ≤ c.toNat && c.toNat ≤ high then
            utf8Tail count (64 * lead + c.toNat % 64) 2 cs
          else .invalid 1 bs

/-- Read bytes as a text, from `index` on. Every step takes at least one byte. -/
def fromUtf8Go : Nat → Nat → List UInt8 → Except Utf8Fault (List Char)
  | _, _, [] => .ok []
  | 0, index, _ => .error (.incomplete index)
  | fuel + 1, index, b :: bs =>
      match utf8Step b bs with
      | .char c rest => do
          let cs ← fromUtf8Go fuel (index + c.utf8Size) rest
          .ok (c :: cs)
      | .invalid length _ => .error (.invalid length index)
      | .incomplete => .error (.incomplete index)

def fromUtf8 (bs : List UInt8) : Except Utf8Fault String :=
  (fromUtf8Go bs.length 0 bs).map String.ofList

/-- Read bytes as a text with a mark for each sequence that is wrong. -/
def lossyGo : Nat → List UInt8 → List Char
  | _, [] => []
  | 0, _ => []
  | fuel + 1, b :: bs =>
      match utf8Step b bs with
      | .char c rest => c :: lossyGo fuel rest
      | .invalid _ rest => '\ufffd' :: lossyGo fuel rest
      | .incomplete => ['\ufffd']

/-- The text that bytes are, with a mark for each sequence that is wrong. -/
def lossy (bs : List UInt8) : String := String.ofList (lossyGo bs.length bs)

end CredRegistry.Text
