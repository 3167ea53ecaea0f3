import CredRegistry.Cipher.Aes

/-!
# Sealing bytes

Galois/counter mode over any block cipher, without additional data. Sealed bytes
are the plain bytes added to a key stream, with a tag of sixteen bytes behind them.
`unsealed?_sealed` says that sealing can be undone.
-/

namespace CredRegistry.Cipher

/-- A number that is used only once with a key. -/
abbrev Nonce := Vector UInt8 12

namespace Gcm

def tagSize : Nat := 16

/-- The number that bytes spell, the first byte weighing most. -/
def number (bs : List UInt8) : Nat := bs.foldl (fun n b => 256 * n + b.toNat) 0

def blockOf (n : Nat) : Block := Vector.ofFn fun i => UInt8.ofNat (n / Nat.pow 256 (15 - (i : Nat)))

def counterBlock (nonce : Nonce) (counter : Nat) : Block :=
  blockOf ((number nonce.toList <<< 32) + counter % 0x100000000)

/-- A product in the field of 2^128 elements, the first factor taken from its highest
bit down. -/
def multiply : (bits x v : Nat) → Nat
  | 0, _, _ => 0
  | n + 1, x, v =>
      let half := v / 2
      let next := if v % 2 == 1 then half ^^^ (0xE1 <<< 120) else half
      (if x.testBit n then v else 0) ^^^ multiply n x next

/-- Bytes in pieces of sixteen; the last may be shorter. -/
def pieces : (fuel : Nat) → List UInt8 → List (List UInt8)
  | 0, _ => []
  | _, [] => []
  | fuel + 1, bs => bs.take 16 :: pieces fuel (bs.drop 16)

/-- A piece as a number, filled up with zeros. -/
def pieceNumber (bs : List UInt8) : Nat := number bs * Nat.pow 256 (16 - bs.length)

def hash (h : Nat) (bs : List UInt8) : Nat :=
  let numbers := (pieces bs.length bs).map pieceNumber ++ [8 * bs.length]
  numbers.foldl (fun y x => multiply 128 (y ^^^ x) h) 0

def addBytes (bs stream : List UInt8) : List UInt8 := List.zipWith (· ^^^ ·) bs stream

/-- The first `16 * count` bytes of the key stream from a counter on. -/
def keyStream (cipher : Block → Block) (nonce : Nonce) : (count counter : Nat) → List UInt8
  | 0, _ => []
  | count + 1, counter =>
      (cipher (counterBlock nonce counter)).toList ++ keyStream cipher nonce count (counter + 1)

def crypt (cipher : Block → Block) (nonce : Nonce) (bs : List UInt8) : List UInt8 :=
  addBytes bs (keyStream cipher nonce (bs.length / 16 + 1) 2)

def tag (cipher : Block → Block) (nonce : Nonce) (bs : List UInt8) : List UInt8 :=
  let h := number (cipher (Vector.replicate 16 0)).toList
  let mask := cipher (counterBlock nonce 1)
  (Aes.addBlocks (blockOf (hash h bs)) mask).toList

def sealed (cipher : Block → Block) (nonce : Nonce) (plain : List UInt8) : List UInt8 :=
  let encrypted := crypt cipher nonce plain
  encrypted ++ tag cipher nonce encrypted

/-- The plain bytes of sealed bytes, if their tag is right. -/
def unsealed? (cipher : Block → Block) (nonce : Nonce) (bs : List UInt8) : Option (List UInt8) :=
  let size := bs.length - tagSize
  let encrypted := bs.take size
  if tagSize ≤ bs.length && bs.drop size == tag cipher nonce encrypted then
    some (crypt cipher nonce encrypted)
  else none

/-! ## Undoing a seal -/

theorem length_keyStream (cipher : Block → Block) (nonce : Nonce) (count counter : Nat) :
    (keyStream cipher nonce count counter).length = 16 * count := by
  induction count generalizing counter with
  | zero => rfl
  | succ n ih => simp [keyStream, ih]; omega

theorem addBytes_addBytes :
    ∀ {bs stream : List UInt8}, bs.length ≤ stream.length →
      addBytes (addBytes bs stream) stream = bs
  | [], _, _ => rfl
  | _ :: _, [], h => by simp at h
  | b :: bs, s :: stream, h => by
      have ih := @addBytes_addBytes bs stream (by simpa using h)
      simp only [addBytes, List.zipWith_cons_cons] at ih ⊢
      rw [ih, UInt8.xor_assoc, UInt8.xor_self, UInt8.xor_zero]

theorem length_crypt (cipher : Block → Block) (nonce : Nonce) (bs : List UInt8) :
    (crypt cipher nonce bs).length = bs.length := by
  simp only [crypt, addBytes, List.length_zipWith, length_keyStream]
  omega

theorem crypt_crypt (cipher : Block → Block) (nonce : Nonce) (bs : List UInt8) :
    crypt cipher nonce (crypt cipher nonce bs) = bs := by
  unfold crypt
  rw [show (addBytes bs (keyStream cipher nonce (bs.length / 16 + 1) 2)).length = bs.length from
    length_crypt cipher nonce bs]
  exact addBytes_addBytes (by rw [length_keyStream]; omega)

theorem length_tag (cipher : Block → Block) (nonce : Nonce) (bs : List UInt8) :
    (tag cipher nonce bs).length = tagSize := by
  simp [tag, tagSize]

/-- What was sealed comes out again. -/
theorem unsealed?_sealed (cipher : Block → Block) (nonce : Nonce) (plain : List UInt8) :
    unsealed? cipher nonce (sealed cipher nonce plain) = some plain := by
  simp [unsealed?, sealed, length_tag, crypt_crypt]

/-- Bytes with a right tag are what sealing gives for the bytes that come out of them. -/
theorem unsealed?_eq_some {cipher : Block → Block} {nonce : Nonce} {bs plain : List UInt8} :
    unsealed? cipher nonce bs = some plain ↔ bs = sealed cipher nonce plain := by
  constructor
  · intro h
    simp only [unsealed?] at h
    split at h
    next htag =>
      rw [Bool.and_eq_true, beq_iff_eq] at htag
      cases h
      rw [sealed, crypt_crypt, ← htag.2, List.take_append_drop]
    next => cases h
  · rintro rfl
    exact unsealed?_sealed cipher nonce plain

end Gcm

end CredRegistry.Cipher
