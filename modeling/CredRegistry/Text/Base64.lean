/-!
# Base 64

Bytes as text, three bytes in four characters. `decode` takes nothing but what
`encode` writes: with padding, without blanks, and with no bits left over.
-/

namespace CredRegistry.Text.Base64

def alphabet : List Char :=
  "ABCDEFGHIJKLMNOPQRSTUVWXYZabcdefghijklmnopqrstuvwxyz0123456789+/".toList

/-- The character that stands for a number below 64. -/
def charOf (n : Nat) : Char := alphabet.getD n 'A'

def sextet? (c : Char) : Option Nat := alphabet.findIdx? (· == c)

def encodeBytes : List UInt8 → List Char
  | [] => []
  | [a] =>
      let n := a.toNat * 16
      [charOf (n / 64), charOf (n % 64), '=', '=']
  | [a, b] =>
      let n := (a.toNat * 256 + b.toNat) * 4
      [charOf (n / 4096), charOf (n / 64 % 64), charOf (n % 64), '=']
  | a :: b :: c :: bs =>
      let n := (a.toNat * 256 + b.toNat) * 256 + c.toNat
      charOf (n / 262144) :: charOf (n / 4096 % 64) :: charOf (n / 64 % 64) :: charOf (n % 64)
        :: encodeBytes bs

def encode (bs : List UInt8) : String := String.ofList (encodeBytes bs)

def decodeChars : List Char → Option (List UInt8)
  | [] => some []
  | [a, b, '=', '='] => do
      let n := (← sextet? a) * 64 + (← sextet? b)
      if n % 16 = 0 then some [UInt8.ofNat (n / 16)] else none
  | [a, b, c, '='] => do
      let n := ((← sextet? a) * 64 + (← sextet? b)) * 64 + (← sextet? c)
      if n % 4 = 0 then some [UInt8.ofNat (n / 1024), UInt8.ofNat (n / 4)] else none
  | a :: b :: c :: d :: cs => do
      let n := (((← sextet? a) * 64 + (← sextet? b)) * 64 + (← sextet? c)) * 64 + (← sextet? d)
      let bs ← decodeChars cs
      some (UInt8.ofNat (n / 65536) :: UInt8.ofNat (n / 256) :: UInt8.ofNat n :: bs)
  | _ => none

def decode (s : String) : Option (List UInt8) := decodeChars s.toList

end CredRegistry.Text.Base64
