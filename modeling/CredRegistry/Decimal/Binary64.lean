/-!
# Binary floating point

IEEE 754 double-precision numbers as their bits, with the exact rational number
each of them stands for. Rounding a fraction to the nearest of them is done in
natural numbers, and decimal numerals, products and quotients all round through
that one function.
-/

namespace CredRegistry.Decimal

/-- A double-precision number. -/
structure Binary64 where
  bits : UInt64
deriving Repr, DecidableEq, Inhabited

namespace Binary64

def isNegative (x : Binary64) : Bool := 1 <<< 63 ≤ x.bits.toNat

def magnitude (x : Binary64) : Nat := x.bits.toNat % (1 <<< 63)

def infiniteMagnitude : Nat := 0x7FF <<< 52

def isFinite (x : Binary64) : Bool := x.magnitude < infiniteMagnitude

def isInfinite (x : Binary64) : Bool := x.magnitude == infiniteMagnitude

def isNaN (x : Binary64) : Bool := infiniteMagnitude < x.magnitude

def isZero (x : Binary64) : Bool := x.magnitude == 0

/-- The number with this sign and these bits below it. -/
def ofMagnitude (negative : Bool) (magnitude : Nat) : Binary64 :=
  ⟨UInt64.ofNat (magnitude + if negative then 1 <<< 63 else 0)⟩

def infinity : Binary64 := ofMagnitude false infiniteMagnitude

def negInfinity : Binary64 := ofMagnitude true infiniteMagnitude

def nan : Binary64 := ofMagnitude false (infiniteMagnitude + (1 <<< 51))

/-- Equality as numbers: the zeros are equal, and so is not-a-number to itself. -/
def sameNumber (x y : Binary64) : Bool :=
  (x.isNaN && y.isNaN) || (x.isZero && y.isZero) || (!x.isNaN && !y.isNaN && x == y)

/-- The place of a number among the others, not-a-number aside; the zeros share one. -/
def place (x : Binary64) : Int := if x.isNegative then -(x.magnitude : Int) else x.magnitude

/-- The order of numbers that are none of them not-a-number. -/
def order (x y : Binary64) : Ordering := compare x.place y.place

/-- A finite number as an integer and a power of two: `(m, k)` is `m · 2 ^ (k - 1074)`. -/
def parts (x : Binary64) : Nat × Nat :=
  let e := x.magnitude / (1 <<< 52)
  let f := x.magnitude % (1 <<< 52)
  if e == 0 then (f, 0) else (f + (1 <<< 52), e - 1)

/-- The absolute value of a finite number as a fraction. -/
def ratio (x : Binary64) : Nat × Nat :=
  let (m, k) := x.parts
  if 1074 ≤ k then (m <<< (k - 1074), 1) else (m, 1 <<< (1074 - k))

/-- The integer nearest to `num / den`; a tie goes to the even one. -/
def roundQuotient (num den : Nat) : Nat :=
  let q := num / den
  let r := num % den
  if den < 2 * r || (den == 2 * r && q % 2 == 1) then q + 1 else q

/-- The magnitude nearest to `num / den`, infinite when that is out of range. -/
def roundMagnitude (num den : Nat) : Nat :=
  if num == 0 then 0
  else
    -- `k` scales the fraction to 53 bits, or to the least unit there is.
    let guess : Int := (num.log2 : Int) - den.log2 - 52
    let tooLarge : Bool :=
      if 0 ≤ guess then num < den <<< (guess.toNat + 52)
      else num <<< (-guess).toNat < den <<< 52
    let k : Int := max (if tooLarge then guess - 1 else guess) (-1074)
    let q :=
      if 0 ≤ k then roundQuotient num (den <<< k.toNat)
      else roundQuotient (num <<< (-k).toNat) den
    min (((k + 1074).toNat <<< 52) + q) infiniteMagnitude

def ofRatio (negative : Bool) (num den : Nat) : Binary64 :=
  ofMagnitude negative (roundMagnitude num den)

def digitCount (n : Nat) : Nat := (Nat.toDigits 10 n).length

def ofDecimal (negative : Bool) (m : Nat) (e : Int) : Binary64 :=
  if m == 0 then ofMagnitude negative 0
  else
    let top := (digitCount m : Int) + e
    if 310 < top then ofMagnitude negative infiniteMagnitude
    else if top < -330 then ofMagnitude negative 0
    else if 0 ≤ e then ofRatio negative (m * Nat.pow 10 e.toNat) 1
    else ofRatio negative m (Nat.pow 10 (-e).toNat)

def ofNat (n : Nat) : Binary64 := ofRatio false n 1

/-- The rounded product of two finite numbers. -/
def mul (x y : Binary64) : Binary64 :=
  let (a, b) := x.ratio
  let (c, d) := y.ratio
  ofRatio (x.isNegative != y.isNegative) (a * c) (b * d)

/-- The rounded quotient of two finite numbers, the second not zero. -/
def div (x y : Binary64) : Binary64 :=
  let (a, b) := x.ratio
  let (c, d) := y.ratio
  ofRatio (x.isNegative != y.isNegative) (a * d) (b * c)

def neg (x : Binary64) : Binary64 := ofMagnitude (!x.isNegative) x.magnitude

end Binary64

end CredRegistry.Decimal
