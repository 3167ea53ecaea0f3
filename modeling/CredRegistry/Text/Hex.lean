import CredRegistry.Decimal.Read
import CredRegistry.Text.Utf8

/-!
# Bytes in hexadecimal

Each byte is written with two digits, in lower case. Either case is read, and a
plus sign may stand in the place of a leading zero.
-/

namespace CredRegistry.Text.Hex

def digit (n : Nat) : Char := if n < 10 then Char.ofNat (48 + n) else Char.ofNat (87 + n)

def encodeChars (bs : List UInt8) : List Char :=
  bs.flatMap fun b => [digit (b.toNat / 16), digit (b.toNat % 16)]

def encode (bs : List UInt8) : String := String.ofList (encodeChars bs)

/-- Why a text holds no bytes. -/
inductive Fault where
  | oddLength
  | notAscii
  | invalid (position : Nat)
deriving Repr, DecidableEq

def Fault.message : Fault → String
  | .oddLength => "Hex string must have even length"
  | .notAscii => "Hex string must be ASCII"
  | .invalid position => s!"Invalid hex at position {position}: invalid digit found in string"

def digitValue? (c : Char) : Option Nat := Decimal.digitValue? 16 c

def byte? (a b : Char) : Option UInt8 :=
  match (if a = '+' then some 0 else digitValue? a), digitValue? b with
  | some m, some n => some (UInt8.ofNat (16 * m + n))
  | _, _ => none

/-- The bytes of pairs of characters from a position on. -/
def pairs (position : Nat) : List Char → Except Fault (List UInt8)
  | a :: b :: cs =>
      match byte? a b with
      | none => .error (.invalid position)
      | some x => do
          let xs ← pairs (position + 2) cs
          .ok (x :: xs)
  | _ => .ok []

def decode (s : String) : Except Fault (List UInt8) :=
  if s.utf8ByteSize % 2 ≠ 0 then .error .oddLength
  else if !(s.toList.all fun c => c.toNat < 0x80) then .error .notAscii
  else pairs 0 s.toList

end CredRegistry.Text.Hex
