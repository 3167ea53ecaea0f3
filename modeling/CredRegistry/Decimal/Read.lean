import CredRegistry.Decimal.Binary64

/-!
# Reading numerals

Integers in a base, and decimal fractions with an exponent.
-/

namespace CredRegistry.Decimal

/-- The value of a digit in bases up to sixteen. -/
def digitValue? (base : Nat) (c : Char) : Option Nat :=
  let d :=
    if c.isDigit then c.toNat - '0'.toNat
    else if 'a' ≤ c && c ≤ 'f' then c.toNat - 'a'.toNat + 10
    else if 'A' ≤ c && c ≤ 'F' then c.toNat - 'A'.toNat + 10
    else base
  if d < base then some d else none

/-- The digits of a natural number, with the value of those before them. -/
def natOfDigits? (base : Nat) : List Char → Nat → Option Nat
  | [], n => some n
  | c :: cs, n =>
      match digitValue? base c with
      | some d => natOfDigits? base cs (base * n + d)
      | none => none

/-- The natural number spelt by `cs`, which holds at least one digit and nothing
but digits. -/
def nat? (base : Nat) (cs : List Char) : Option Nat :=
  if cs.isEmpty then none else natOfDigits? base cs 0

/-- The integer spelt by `cs`: a natural number with or without one sign. -/
def int? (base : Nat) : List Char → Option Int
  | '-' :: cs => (nat? base cs).map fun n => -(n : Int)
  | '+' :: cs => (nat? base cs).map Int.ofNat
  | cs => (nat? base cs).map Int.ofNat

/-- The exponent at the end of a fraction, `cs` standing after the letter. -/
def exponent? (cs : List Char) : Option Int := int? 10 cs

/-- The largest exponent that can make a difference. -/
def exponentBound : Int := 100000000

/-- The number spelt by `cs` as a decimal fraction: digits with or without a point
among them, at least one digit, and an exponent or none. -/
def fraction? (negative : Bool) (cs : List Char) : Option Binary64 :=
  let whole := cs.takeWhile Char.isDigit
  let rest := cs.dropWhile Char.isDigit
  let (part, rest) := match rest with
    | '.' :: rest => (rest.takeWhile Char.isDigit, rest.dropWhile Char.isDigit)
    | rest => ([], rest)
  let exponent := match rest with
    | [] => some 0
    | 'e' :: rest => exponent? rest
    | 'E' :: rest => exponent? rest
    | _ => none
  match nat? 10 (whole ++ part), exponent with
  | some m, some e =>
      let e := max (-exponentBound) (min exponentBound e) - part.length
      some (.ofDecimal negative m e)
  | _, _ => none

/-- The number spelt by `cs`: a decimal fraction with or without one sign. -/
def float? : List Char → Option Binary64
  | '-' :: cs => fraction? true cs
  | '+' :: cs => fraction? false cs
  | cs => fraction? false cs

end CredRegistry.Decimal
