/-!
# The AES block cipher

AES with keys of 256 bits, from its description over the field of 256 elements.
Only encryption of a block is needed: counter mode uses it in both directions.
-/

namespace CredRegistry.Cipher

abbrev Block := Vector UInt8 16

abbrev Key := Vector UInt8 32

namespace Aes

def double (b : UInt8) : UInt8 :=
  if b.toNat < 0x80 then b <<< 1 else (b <<< 1) ^^^ 0x1B

/-- The product of two field elements, the first taken bit by bit. -/
def multiply : Nat → UInt8 → UInt8 → UInt8
  | 0, _, _ => 0
  | n + 1, a, b =>
      (if a.toNat % 2 == 1 then b else 0) ^^^ multiply n (a >>> 1) (double b)

def times (a b : UInt8) : UInt8 := multiply 8 a b

/-- The inverse of a field element, and zero for zero: its power with exponent 254. -/
def inverse (a : UInt8) : UInt8 :=
  let square (b : UInt8) : UInt8 := times b b
  let a2 := square a
  let a4 := square a2
  let a8 := square a4
  let a16 := square a8
  let a32 := square a16
  let a64 := square a32
  let a128 := square a64
  times a2 (times a4 (times a8 (times a16 (times a32 (times a64 a128)))))

def turn (b : UInt8) (n : UInt8) : UInt8 := (b <<< n) ||| (b >>> (8 - n))

def substitute (b : UInt8) : UInt8 :=
  let i := inverse b
  i ^^^ turn i 1 ^^^ turn i 2 ^^^ turn i 3 ^^^ turn i 4 ^^^ 0x63

def substitutes : Vector UInt8 256 := Vector.ofFn fun i => substitute (UInt8.ofNat i)

def sub (b : UInt8) : UInt8 := substitutes.get ⟨b.toNat, b.toNat_lt⟩

abbrev Word := Vector UInt8 4

/-- The bytes of two words added in the field. -/
def Word.add (v w : Word) : Word := Vector.zipWith (· ^^^ ·) v w

/-- The word in front of which eight words stand, `w` last and `w8` first of them. -/
def nextWord (i : Nat) (constant : UInt8) (w8 w : Word) : Word :=
  if i % 8 == 0 then
    w8.add #v[sub w[1] ^^^ constant, sub w[2], sub w[3], sub w[0]]
  else if i % 8 == 4 then w8.add (w.map sub)
  else w8.add w

/-- Words of the schedule from number `i` on: `recent` are the last eight, latest
first. -/
def scheduleFrom : (count i : Nat) → (constant : UInt8) → (recent : List Word) → List Word
  | 0, _, _, _ => []
  | count + 1, i, constant, recent =>
      let zero : Word := Vector.replicate 4 0
      let w := nextWord i constant (recent.getLastD zero) (recent.headD zero)
      let constant := if i % 8 == 0 then double constant else constant
      w :: scheduleFrom count (i + 1) constant (w :: recent.dropLast)

/-- The sixty words of the schedule of a key. -/
def schedule (key : Key) : Array Word :=
  let first : List Word := (List.range 8).map fun i =>
    Vector.ofFn fun j => key.toArray.getD (4 * i + j) 0
  (first ++ scheduleFrom 52 8 1 first.reverse).toArray

/-- The round key that begins with word `4 * round`. -/
def roundKey (words : Array Word) (round : Nat) : Block :=
  Vector.ofFn fun i =>
    let w := words.getD (4 * round + i / 4) (Vector.replicate 4 0)
    w.toArray.getD (i % 4) 0

def addBlocks (a b : Block) : Block := Vector.zipWith (· ^^^ ·) a b

/-- Row `r` of the block is turned by `r` columns. -/
def shiftRows (b : Block) : Block :=
  Vector.ofFn fun i => b.toArray.getD (i % 4 + 4 * ((i / 4 + i % 4) % 4)) 0

/-- Each column is multiplied by a fixed polynomial. -/
def mixColumns (b : Block) : Block :=
  Vector.ofFn fun i =>
    let at4 (k : Nat) : UInt8 := b.toArray.getD (4 * (i / 4) + (i + k) % 4) 0
    double (at4 0) ^^^ (double (at4 1) ^^^ at4 1) ^^^ at4 2 ^^^ at4 3

/-- Rounds from number `round` on, `count` of them before the last. -/
def rounds (words : Array Word) : (count round : Nat) → Block → Block
  | 0, round, b => addBlocks (shiftRows (b.map sub)) (roundKey words round)
  | count + 1, round, b =>
      rounds words count (round + 1)
        (addBlocks (mixColumns (shiftRows (b.map sub))) (roundKey words round))

def encrypt (key : Key) : Block → Block :=
  let words := schedule key
  fun b => rounds words 13 1 (addBlocks b (roundKey words 0))

end Aes

end CredRegistry.Cipher
