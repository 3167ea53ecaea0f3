import CredRegistry.Decimal.Binary64

/-!
# Shortest decimal numerals

A floating-point number is written with the fewest digits that read back as that
number, and among those with the digits nearest to it.

The numbers that round to a given one form an interval around it. For each count
of digits the two decimal numbers of that length next to the value are the only
ones to try: if any of that length lies in the interval, one of them does.
-/

namespace CredRegistry.Decimal

/-- The decimal number `digits · 10 ^ exponent`. -/
structure Numeral where
  digits : Nat
  exponent : Int
deriving Repr, DecidableEq

namespace Binary64

/-- The ends of the interval of numbers that round to a finite `x`, and `x`
itself between them, over one common denominator. -/
def interval (x : Binary64) : Nat × Nat × Nat × Nat :=
  let (m, k) := x.parts
  let below := if m == 1 <<< 52 && 0 < k then 4 * m - 1 else 4 * m - 2
  if 1076 ≤ k then
    let s := 1 <<< (k - 1076)
    (below * s, 4 * m * s, (4 * m + 2) * s, 1)
  else (below, 4 * m, 4 * m + 2, 1 <<< (1076 - k))

/-- The exponent of the leading decimal digit of `num / den`, found from a
first guess. -/
def leadingExponent (num den : Nat) : Int :=
  let guess : Int := (digitCount num : Int) - digitCount den
  let low : Bool :=
    if 0 ≤ guess then num < den * Nat.pow 10 guess.toNat
    else num * Nat.pow 10 (-guess).toNat < den
  if low then guess - 1 else guess

/-- Of the two numbers `d · 10 ^ e` and `(d + 1) · 10 ^ e` around the value, the
one that lies in the interval; the nearer one if both do, the even one if both
are as near. -/
def candidate? (x : Binary64) (e : Int) : Option Nat :=
  let (low, value, high, den) := x.interval
  let closed := x.parts.1 % 2 == 0
  let (up, down) := if 0 ≤ e then (Nat.pow 10 e.toNat, 1) else (1, Nat.pow 10 (-e).toNat)
  -- `n · 10 ^ e` compared with `a / den` is `n · up · den` compared with `a · down`.
  let scaled (n : Nat) : Nat := n * up * den
  let inside (n : Nat) : Bool :=
    if closed then low * down ≤ scaled n && scaled n ≤ high * down
    else low * down < scaled n && scaled n < high * down
  let d := value * down / (up * den)
  let above := scaled (d + 1) - value * down
  let under := value * down - scaled d
  match inside d, inside (d + 1) with
  | true, true =>
      some (if above < under || (above == under && d % 2 == 1) then d + 1 else d)
  | true, false => some d
  | false, true => some (d + 1)
  | false, false => none

/-- The first hit with `n` digits or more, at most `fuel` lengths tried. -/
def shortestFrom (x : Binary64) (top : Int) : Nat → Nat → Numeral
  | 0, n => ⟨0, top - n⟩
  | fuel + 1, n =>
      match x.candidate? (top - n + 1) with
      | some d => ⟨d, top - n + 1⟩
      | none => shortestFrom x top fuel (n + 1)

end Binary64

namespace Numeral

/-- The same number without zeros at the end of its digits. -/
def strip : Nat → Numeral → Numeral
  | 0, d => d
  | fuel + 1, d =>
      if d.digits ≠ 0 ∧ d.digits % 10 = 0 then strip fuel ⟨d.digits / 10, d.exponent + 1⟩ else d

end Numeral

namespace Binary64

/-- The shortest numeral that reads back as the absolute value of a finite `x`.
Seventeen digits always suffice. -/
def shortest (x : Binary64) : Numeral :=
  if x.isZero then ⟨0, 0⟩
  else
    let (num, den) := x.ratio
    (shortestFrom x (leadingExponent num den) 17 1).strip 18

end Binary64

/-! ## Writing a numeral -/

def zeros (n : Nat) : List Char := List.replicate n '0'

/-- The number of digits before the point when a numeral is written out. -/
def Numeral.point (d : Numeral) : Int := (Nat.toDigits 10 d.digits).length + d.exponent

/-- A numeral written out, with a fraction only if it has one. -/
def Numeral.positional (d : Numeral) : List Char :=
  let ds := Nat.toDigits 10 d.digits
  let p := d.point
  if 0 ≤ d.exponent then ds ++ zeros d.exponent.toNat
  else if 0 < p then ds.take p.toNat ++ '.' :: ds.drop p.toNat
  else '0' :: '.' :: (zeros (-p).toNat ++ ds)

/-- How an exponent that is not negative is written: with a plus sign or without. -/
inductive ExponentStyle where
  | plus
  | bare
deriving Repr, DecidableEq

def ExponentStyle.text (style : ExponentStyle) (e : Int) : List Char :=
  let ds := Nat.toDigits 10 e.natAbs
  if e < 0 then '-' :: ds else if style = .plus then '+' :: ds else ds

/-- A numeral with one digit before the point and an exponent after it. -/
def Numeral.scientific (style : ExponentStyle) (d : Numeral) : List Char :=
  let e := style.text (d.point - 1)
  match Nat.toDigits 10 d.digits with
  | [] => e
  | [c] => c :: 'e' :: e
  | c :: cs => c :: '.' :: (cs ++ 'e' :: e)

def signed (negative : Bool) (cs : List Char) : String :=
  String.ofList (if negative then '-' :: cs else cs)

def withFraction (cs : List Char) : List Char :=
  if cs.contains '.' then cs else cs ++ ['.', '0']

namespace Binary64

/-- How a finite number is written in a document: written out when its point
falls at most sixteen digits after its first digit and at most four zeros in
front of it, else with an exponent. -/
def compact (style : ExponentStyle) (x : Binary64) : String :=
  let d := x.shortest
  let p := d.point
  signed x.isNegative <|
    if x.isZero || (-5 < p && p ≤ 16) then withFraction d.positional else d.scientific style

/-- How a number is written in a message: always written out. -/
def spelled (x : Binary64) : String :=
  if x.isNaN then "NaN"
  else if x.isInfinite then signed x.isNegative "inf".toList
  else signed x.isNegative (withFraction x.shortest.positional)

end Binary64

end CredRegistry.Decimal
