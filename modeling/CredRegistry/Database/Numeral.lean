import CredRegistry.Decimal.Read

/-!
# Numbers spelt in cells

How a column for numbers reads a text. Nineteen or twenty digits of it count; the rest
only moves the point. What is left is brought to its power of ten in steps of a hundred,
of ten and of one, each rounded to 64 bits, and the outcome is rounded to a
double-precision number.
-/

namespace CredRegistry

open CredRegistry.Decimal

/-! ## Extended precision -/

/-- A positive number with a significand of at most 64 bits and a power of two. -/
structure Extended where
  significand : Nat
  exponent : Int
deriving Repr, DecidableEq

namespace Extended

def width : Nat := 64

def round (n : Nat) (e : Int) : Extended :=
  let excess := n.log2 + 1 - width
  ⟨Binary64.roundQuotient n (1 <<< excess), e + excess⟩

def reciprocal (n : Nat) : Extended :=
  let shift := width + n.log2
  let shift := if 1 <<< width ≤ (1 <<< shift) / n then shift - 1 else shift
  ⟨Binary64.roundQuotient (1 <<< shift) n, -(shift : Int)⟩

def mul (x y : Extended) : Extended :=
  round (x.significand * y.significand) (x.exponent + y.exponent)

def mulTimes (y : Extended) : Nat → Extended → Extended
  | 0, x => x
  | n + 1, x => mulTimes y n (x.mul y)

/-- A power of ten or, if `down`, its reciprocal. -/
def tens (down : Bool) (k : Nat) : Extended :=
  if down then reciprocal (Nat.pow 10 k) else round (Nat.pow 10 k) 0

/-- The number times a power of ten, step by step. -/
def scale (x : Extended) (e : Int) : Extended :=
  let down := decide (e < 0)
  let n := e.natAbs
  let x := mulTimes (tens down 100) (n / 100) x
  let x := mulTimes (tens down 10) (n % 100 / 10) x
  mulTimes (tens down 1) (n % 10) x

def toBinary64 (negative : Bool) (x : Extended) : Binary64 :=
  if 0 ≤ x.exponent then .ofRatio negative (x.significand <<< x.exponent.toNat) 1
  else .ofRatio negative x.significand (1 <<< (-x.exponent).toNat)

end Extended

/-! ## Texts -/

/-- A number that a cell's text spells. -/
structure CellNumeral where
  /-- The integer, if there is neither a point nor an exponent. -/
  whole : Option Int
  value : Binary64
deriving Repr, DecidableEq

namespace CellNumeral

/-- The significand from which on no digit is added. -/
def significandBound : Nat := (0xFFFFFFFFFFFFFFFF - 9) / 10

/-- A significand with the digits before the point; those that are not added raise the
power of ten. -/
def addWhole (s : Nat × Int) (c : Char) : Nat × Int :=
  if s.1 < significandBound then (10 * s.1 + (c.toNat - '0'.toNat), s.2) else (s.1, s.2 + 1)

/-- A significand with the digits behind the point; those that are added lower the power
of ten. -/
def addPart (s : Nat × Int) (c : Char) : Nat × Int :=
  if s.1 < significandBound then (10 * s.1 + (c.toNat - '0'.toNat), s.2 - 1) else s

/-- Move powers of ten into the significand as long as it can hold them. -/
def raise (s : Nat) : Nat → Nat × Int
  | 0 => (s, 0)
  | e + 1 => if s < 0xFFFFFFFFFFFFFFFF / 10 then raise (10 * s) e else (s, e + 1)

/-- Move zeros at the end of the significand into the power of ten. -/
def lower (s : Nat) : Nat → Nat × Int
  | 0 => (s, 0)
  | e + 1 => if s % 10 = 0 then lower (s / 10) e else (s, -((e : Int) + 1))

def valueOf (negative : Bool) (s : Nat) (e : Int) : Binary64 :=
  if s = 0 then .ofMagnitude negative 0
  else
    let (s, e) := if 0 ≤ e then raise s e.toNat else lower s (-e).toNat
    if e = 0 then .ofRatio negative s 1
    -- Far out of the range of numbers, the power of ten alone decides.
    else if 400 < e then if negative then .negInfinity else .infinity
    else if e < -400 then .ofMagnitude negative 0
    else ((Extended.round s 0).scale e).toBinary64 negative

/-- The exponent that digits spell; what is longer counts as ten thousand. -/
def exponentOf (ds : List Char) : Int :=
  ds.foldl (fun e c => if e < 10000 then 10 * e + ((c.toNat : Int) - '0'.toNat) else 10000) 0

/-- The exponent behind its letter: a sign or none, and digits to the end. -/
def exponent? (cs : List Char) : Option Int :=
  let (negative, ds) := match cs with
    | '-' :: ds => (true, ds)
    | '+' :: ds => (false, ds)
    | ds => (false, ds)
  if ds.isEmpty || !ds.all Char.isDigit then none
  else some (if negative then -exponentOf ds else exponentOf ds)

def ofUnsigned? (negative : Bool) (cs : List Char) : Option CellNumeral :=
  let whole := cs.takeWhile Char.isDigit
  let rest := cs.drop whole.length
  let (part, rest, pointed) := match rest with
    | '.' :: rest =>
        let part := rest.takeWhile Char.isDigit
        (part, rest.drop part.length, true)
    | rest => ([], rest, false)
  let (s, d) := part.foldl addPart (whole.foldl addWhole (0, 0))
  let value (e : Int) : Binary64 := valueOf negative s (e + d)
  if whole.isEmpty && part.isEmpty then none
  else
    match rest with
    | [] =>
        let n : Int := (nat? 10 whole).getD 0
        some ⟨if pointed then none else some (if negative then -n else n), value 0⟩
    | c :: rest =>
        if c == 'e' || c == 'E' then (exponent? rest).map fun e => ⟨none, value e⟩
        else none

/-- Can the character stand around a numeral? -/
def isGap (c : Char) : Bool := c == ' ' || ('\t' ≤ c && c ≤ '\r')

/-- The numeral that a text spells, with or without one sign and gaps around it. -/
def ofText? (s : String) : Option CellNumeral :=
  match ((s.toList.dropWhile isGap).reverse.dropWhile isGap).reverse with
  | '-' :: cs => ofUnsigned? true cs
  | '+' :: cs => ofUnsigned? false cs
  | cs => ofUnsigned? false cs

end CellNumeral

end CredRegistry
