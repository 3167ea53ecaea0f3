import CredRegistry.Decimal.Read
import CredRegistry.Text.Utf8

/-!
# Timestamps

Moments in universal time down to the nanosecond, and their RFC 3339 text.

A leap second is the last second of its minute with more than a second's worth of
nanoseconds. Any offset is allowed in a text; it is taken off and not kept. `text`
writes a moment with as many digits of the fraction as it needs, in groups of three.
-/

namespace CredRegistry

open CredRegistry.Text

/-- A date of the proleptic Gregorian calendar. -/
structure Date where
  year : Int
  month : Nat
  day : Nat
deriving Repr, DecidableEq

namespace Date

def isLeap (year : Int) : Bool :=
  year % 4 == 0 && (year % 100 != 0 || year % 400 == 0)

def daysInMonth (year : Int) (month : Nat) : Nat :=
  if month == 2 then (if isLeap year then 29 else 28)
  else if month == 4 || month == 6 || month == 9 || month == 11 then 30
  else 31

def isValid (d : Date) : Bool :=
  1 ≤ d.month && d.month ≤ 12 && 1 ≤ d.day && d.day ≤ daysInMonth d.year d.month

def daysInCycle : Int := 146097

/-- The days from 1970-01-01 to a date. Years are counted from March, so that a leap
day is the last day of its year. -/
def toDays (d : Date) : Int :=
  let year := if d.month ≤ 2 then d.year - 1 else d.year
  let cycle := year / 400
  let yearOfCycle := year % 400
  let month : Int := if 2 < d.month then (d.month : Int) - 3 else (d.month : Int) + 9
  let dayOfYear := (153 * month + 2) / 5 + (d.day : Int) - 1
  let dayOfCycle := yearOfCycle * 365 + yearOfCycle / 4 - yearOfCycle / 100 + dayOfYear
  cycle * daysInCycle + dayOfCycle - 719468

/-- The date that is `days` days after 1970-01-01. -/
def ofDays (days : Int) : Date :=
  let days := days + 719468
  let cycle := days / daysInCycle
  let dayOfCycle := days % daysInCycle
  let yearOfCycle :=
    (dayOfCycle - dayOfCycle / 1460 + dayOfCycle / 36524 - dayOfCycle / 146096) / 365
  let dayOfYear := dayOfCycle - (365 * yearOfCycle + yearOfCycle / 4 - yearOfCycle / 100)
  let month := (5 * dayOfYear + 2) / 153
  let day := dayOfYear - (153 * month + 2) / 5 + 1
  let month := if month < 10 then month + 3 else month - 9
  let year := cycle * 400 + yearOfCycle + if month ≤ 2 then 1 else 0
  ⟨year, month.toNat, day.toNat⟩

end Date

/-- A moment in universal time. -/
structure Timestamp where
  /-- The days since 1970-01-01. -/
  day : Int
  /-- The seconds since midnight. -/
  second : Nat
  /-- The nanoseconds since then, up to two seconds in a leap second. -/
  nano : Nat
deriving Repr, DecidableEq

namespace Timestamp

/-! ## Writing -/

def padded (width n : Nat) : String :=
  let ds := Nat.toDigits 10 n
  String.ofList (List.replicate (width - ds.length) '0' ++ ds)

/-- A year: four digits, and a sign if they are not enough. -/
def yearText (year : Int) : String :=
  if 0 ≤ year && year ≤ 9999 then padded 4 year.toNat
  else (if year < 0 then "-" else "+") ++ padded 4 year.natAbs

/-- The fraction of a second with as many groups of three digits as it needs. -/
def fractionText (nano : Nat) : String :=
  if nano == 0 then ""
  else if nano % 1000000 == 0 then "." ++ padded 3 (nano / 1000000)
  else if nano % 1000 == 0 then "." ++ padded 6 (nano / 1000)
  else "." ++ padded 9 nano

/-- The text of the second of a moment, without its offset. -/
def secondText (t : Timestamp) : String :=
  let d := Date.ofDays t.day
  let leap := t.nano / 1000000000
  let hour := padded 2 (t.second / 3600)
  let minute := padded 2 (t.second / 60 % 60)
  let second := padded 2 (t.second % 60 + leap)
  s!"{yearText d.year}-{padded 2 d.month}-{padded 2 d.day}T{hour}:{minute}:{second}"

def localText (t : Timestamp) : String := t.secondText ++ fractionText (t.nano % 1000000000)

def text (t : Timestamp) : String := t.localText ++ "+00:00"

/-- The text of a moment inside the text of a record. -/
def shortText (t : Timestamp) : String := t.localText ++ "Z"

/-- The text of a moment with its fraction cut off. -/
def wholeText (t : Timestamp) : String := t.secondText ++ "Z"

/-! ## Reading -/

/-- Why a text is no timestamp. -/
inductive Fault where
  | invalid
  | tooShort
  | tooLong
  | outOfRange
deriving Repr, DecidableEq

def Fault.message : Fault → String
  | .invalid => "input contains invalid characters"
  | .tooShort => "premature end of input"
  | .tooLong => "trailing input"
  | .outOfRange => "input is out of range"

/-- A computation that takes characters off the front of a text. -/
abbrev Scan := StateT (List Char) (Except Fault)

namespace Scan

def fail {α : Type} (f : Fault) : Scan α := fun _ => .error f

def number (count : Nat) : Scan Nat := fun cs =>
  let ds := (cs.take count).takeWhile Char.isDigit
  if ds.length < count then .error .invalid
  else .ok ((Decimal.nat? 10 ds).getD 0, cs.drop count)

def char (expected : List Char) : Scan Char := fun cs =>
  match cs with
  | [] => .error .tooShort
  | c :: cs => if expected.contains c then .ok (c, cs) else .error .invalid

/-- A fraction of a second in nanoseconds; digits beyond the ninth are passed
over. -/
def fraction : Scan Nat := fun cs =>
  match cs with
  | '.' :: cs =>
      let ds := cs.takeWhile Char.isDigit
      let kept := ds.take 9
      match Decimal.nat? 10 kept with
      | some n => .ok (n * Nat.pow 10 (9 - kept.length), cs.drop ds.length)
      | none => .error (if cs.isEmpty then .tooShort else .invalid)
  | cs => .ok (0, cs)

def offsetDigits : Scan (Nat × Nat) := fun cs =>
  if byteLength cs < 2 then .error .tooShort
  else match cs with
    | a :: b :: rest =>
        match Decimal.digitValue? 10 a, Decimal.digitValue? 10 b with
        | some a, some b => .ok ((a, b), rest)
        | _, _ => .error .invalid
    | _ => .error .invalid

/-- An offset from universal time in minutes. -/
def offset : Scan Int := do
  match ← get with
  | 'Z' :: cs => set cs; pure 0
  | 'z' :: cs => set cs; pure 0
  | _ =>
      let sign ← char ['+', '-', '\u2212']
      let (a, b) ← offsetDigits
      let _ ← char [':']
      let (c, d) ← offsetDigits
      if 6 ≤ c then fail .outOfRange
      let minutes : Int := (10 * a + b) * 60 + 10 * c + d
      pure (if sign == '+' then minutes else -minutes)

/-- The number of bytes that a timestamp has in any case. -/
def leastLength : Nat := 19

def timestamp : Scan Timestamp := do
  if byteLength (← get) < leastLength then fail .tooShort
  let year ← number 4
  let _ ← char ['-']
  let month ← number 2
  let _ ← char ['-']
  let day ← number 2
  let date : Date := ⟨year, month, day⟩
  if !date.isValid then fail .outOfRange
  let _ ← char ['t', 'T', ' ']
  let hour ← number 2
  let _ ← char [':']
  let minute ← number 2
  let _ ← char [':']
  let second ← number 2
  let nano ← fraction
  if 23 < hour || 59 < minute || 60 < second then fail .outOfRange
  let offset ← offset
  if !(← get).isEmpty then fail .tooLong
  if 24 * 60 ≤ offset.natAbs then fail .outOfRange
  let leap := second / 60
  let seconds : Int := (hour * 3600 + minute * 60 + (second - leap) : Nat) - offset * 60
  pure ⟨date.toDays + seconds / 86400, (seconds % 86400).toNat, nano + leap * 1000000000⟩

end Scan

def ofText (s : String) : Except Fault Timestamp := (Scan.timestamp s.toList).map (·.1)

end Timestamp

end CredRegistry
