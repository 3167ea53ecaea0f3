import CredRegistry.Credential.Timestamp
import CredRegistry.Text.Blank

/-!
# Moments in manifests

A manifest may write a moment more loosely than RFC 3339 does: with blanks between its
parts, with single digits, with a signed year of any length, and with `UTC` for an
offset. It is written back as whole seconds of universal time.
-/

namespace CredRegistry.Timestamp

open CredRegistry.Text

/-- A computation that takes characters off the front of a text, or gives up. -/
abbrev LooseScan := StateT (List Char) Option

namespace LooseScan

def blanks : LooseScan Unit := modify fun cs => cs.dropWhile isBlank

/-- A number of at least one digit, from as many digits as there are up to a bound. -/
def number (most : Nat) : LooseScan Nat := fun cs =>
  let ds := (cs.takeWhile Char.isDigit).take most
  (Decimal.nat? 10 ds).map fun n => (n, cs.drop ds.length)

/-- A number of one or two digits with blanks around it. -/
def field : LooseScan Nat := do
  blanks
  let n ← number 2
  blanks
  pure n

def char (expected : List Char) : LooseScan Char := fun cs =>
  match cs with
  | [] => none
  | c :: cs => if expected.contains c then some (c, cs) else none

/-- A year: four digits at most, or any number of them behind a sign. -/
def year : LooseScan Int := do
  blanks
  let cs ← get
  let y : Int ← match cs with
    | '-' :: rest => do set rest; pure (-((← number rest.length : Nat) : Int))
    | '+' :: rest => do set rest; pure ((← number rest.length : Nat) : Int)
    | _ => do pure ((← number 4 : Nat) : Int)
  blanks
  pure y

/-- A fraction of a second in nanoseconds; digits beyond the ninth are passed over. -/
def fraction : LooseScan Nat := fun cs =>
  match cs with
  | '.' :: cs =>
      let ds := cs.takeWhile Char.isDigit
      let kept := ds.take 9
      (Decimal.nat? 10 kept).map fun n => (n * Nat.pow 10 (9 - kept.length), cs.drop ds.length)
  | cs => some (0, cs)

def twoDigits : LooseScan (Nat × Nat) := fun cs =>
  match cs with
  | a :: b :: rest =>
      match Decimal.digitValue? 10 a, Decimal.digitValue? 10 b with
      | some a, some b => some ((a, b), rest)
      | _, _ => none
  | _ => none

/-- An offset from universal time in minutes. Colons and blanks between its hours and
its minutes do not matter. -/
def offset : LooseScan Int := do
  match ← get with
  | 'Z' :: cs => set cs; pure 0
  | 'z' :: cs => set cs; pure 0
  | cs =>
      if (cs.take 3).map Char.toUpper == ['U', 'T', 'C'] then
        set (cs.drop 3)
        pure 0
      else
        let sign ← char ['+', '-', '\u2212']
        let (a, b) ← twoDigits
        modify fun cs => cs.dropWhile fun c => c == ':' || isBlank c
        let (c, d) ← twoDigits
        if 6 ≤ c then failure
        let minutes : Int := (10 * a + b) * 60 + 10 * c + d
        pure (if sign == '+' then minutes else -minutes)

/-- The first and the last year that a moment can lie in. -/
def yearBounds : Int × Int := (-262143, 262142)

/-- Does a day lie in the years that a moment can lie in? -/
def isDay (day : Int) : Bool :=
  Date.toDays ⟨yearBounds.1, 1, 1⟩ ≤ day && day ≤ Date.toDays ⟨yearBounds.2, 12, 31⟩

def moment : LooseScan Timestamp := do
  let year ← year
  let _ ← char ['-']
  let month ← field
  let _ ← char ['-']
  blanks
  let day ← number 2
  let date : Date := ⟨year, month, day⟩
  let _ ← char ['t', 'T', ' ']
  let hour ← field
  let _ ← char [':']
  let minute ← field
  let _ ← char [':']
  blanks
  let second ← number 2
  let nano ← fraction
  blanks
  let offset ← offset
  blanks
  if !(← get).isEmpty then failure
  if !date.isValid || !isDay date.toDays then failure
  if 23 < hour || 59 < minute || 60 < second || 24 * 60 ≤ offset.natAbs then failure
  let leap := second / 60
  let seconds : Int := (hour * 3600 + minute * 60 + (second - leap) : Nat) - offset * 60
  let day := date.toDays + seconds / 86400
  if !isDay day then failure
  pure ⟨day, (seconds % 86400).toNat, nano + leap * 1000000000⟩

end LooseScan

/-- The moment that a text of a manifest names. -/
def ofLooseText? (s : String) : Option Timestamp := (LooseScan.moment s.toList).map (·.1)

end CredRegistry.Timestamp
