import CredRegistry.Proofs.Credential.Calendar
import CredRegistry.Proofs.Text.Bytes

/-!
# The text of a moment

A moment that is proper, in a year of four digits, is read back from its RFC 3339 text:
`ofText_text`. The text is taken apart from the front, one part at a time: `bind_of_eq` is the
step, and each part has a lemma that says what it leaves behind, `number_digits` for the fixed
numbers, `fraction_fractionText` for the fraction in groups of three digits, `offset_zero` for
the offset. `timestamp_of_parts` puts them together for any date and time of day; that the date
is the one that was written is `Date.toDays_ofDays`.

A leap second is written as the second 60 of its minute. That is why a moment must lie in the
last second of a minute to have more than a second's worth of nanoseconds.
-/

namespace CredRegistry

open CredRegistry.Text

/-! ## Numbers -/

namespace Decimal

theorem digitValue?_of_isDigit {c : Char} (h : c.isDigit = true) :
    digitValue? 10 c = some (c.toNat - '0'.toNat) := by
  have hbounds : 48 ≤ c.toNat ∧ c.toNat ≤ 57 := by
    simpa [Char.isDigit, UInt32.le_iff_toNat_le] using h
  have hsmall : c.toNat - '0'.toNat < 10 := by
    have : '0'.toNat = 48 := rfl
    omega
  simp only [digitValue?, if_pos h, if_pos hsmall]

theorem natOfDigits?_of_isDigit {cs : List Char} (h : ∀ c ∈ cs, c.isDigit = true) (n : Nat) :
    natOfDigits? 10 cs n = some (Nat.ofDigitChars 10 cs n) := by
  induction cs generalizing n with
  | nil => rw [natOfDigits?, Nat.ofDigitChars_nil]
  | cons c cs ih =>
      rw [natOfDigits?, digitValue?_of_isDigit (h c (by simp)), Nat.ofDigitChars_cons]
      exact ih (fun d hd => h d (by simp [hd])) _

end Decimal

namespace Timestamp

/-- The digits of a number with zeros in front of them. -/
def digits (width n : Nat) : List Char :=
  List.replicate (width - (Nat.toDigits 10 n).length) '0' ++ Nat.toDigits 10 n

theorem toList_padded (width n : Nat) : (padded width n).toList = digits width n :=
  String.toList_ofList

theorem isDigit_of_mem_digits {width n : Nat} : ∀ c ∈ digits width n, c.isDigit = true := by
  intro c hc
  rcases List.mem_append.mp hc with hzero | hdigit
  · rw [List.eq_of_mem_replicate hzero]
    rfl
  · exact Nat.isDigit_of_mem_toDigits (by decide) (by decide) hdigit

theorem length_digits {width n : Nat} (hwidth : 0 < width) (hn : n < Nat.pow 10 width) :
    (digits width n).length = width := by
  have hlength := (Nat.length_toDigits_le_iff (by decide) hwidth).mpr hn
  simp only [digits, List.length_append, List.length_replicate]
  omega

theorem nat?_digits {width n : Nat} : Decimal.nat? 10 (digits width n) = some n := by
  have hsome : (digits width n).isEmpty = false := by
    simp [digits, List.isEmpty_eq_false_iff, Nat.toDigits_ne_nil]
  rw [Decimal.nat?, if_neg (by simp [hsome]),
    Decimal.natOfDigits?_of_isDigit isDigit_of_mem_digits]
  simp [digits, Nat.ofDigitChars_append, Nat.ofDigitChars_replicate_zero,
    Nat.ofDigitChars_ten_toDigits]

theorem takeWhile_digits {width n : Nat} {cs : List Char}
    (hcs : ∀ c ∈ cs.head?, c.isDigit = false) :
    (digits width n ++ cs).takeWhile Char.isDigit = digits width n := by
  rw [List.takeWhile_append_of_pos isDigit_of_mem_digits]
  cases cs with
  | nil => simp
  | cons c cs => simp [hcs c rfl]

/-! ## Reading the parts -/

namespace Scan

/-- What was read first is taken off the front of the text. -/
theorem bind_of_eq {α β : Type} {x : Scan α} {f : α → Scan β} {cs cs' : List Char} {a : α}
    (h : x cs = .ok (a, cs')) : (x >>= f) cs = f a cs' := by
  change (x cs >>= fun p => f p.1 p.2) = _
  rw [h]
  rfl

theorem number_digits {width n : Nat} (hwidth : 0 < width) (hn : n < Nat.pow 10 width)
    (cs : List Char) : number width (digits width n ++ cs) = .ok (n, cs) := by
  have hlength := length_digits hwidth hn
  have htake : (digits width n ++ cs).take width = digits width n := by
    rw [List.take_append_of_le_length (by omega), List.take_of_length_le (by omega)]
  have hall : (digits width n).takeWhile Char.isDigit = digits width n := by
    simpa using @takeWhile_digits width n [] (by simp)
  have hdrop : (digits width n ++ cs).drop width = cs := List.drop_left' hlength
  simp only [number, htake, hall, hlength, Nat.lt_irrefl, if_false, nat?_digits,
    Option.getD_some, hdrop]

theorem char_of_mem {expected : List Char} {c : Char} (h : expected.contains c = true)
    (cs : List Char) : char expected (c :: cs) = .ok (c, cs) :=
  if_pos h

theorem fraction_digits {width n : Nat} (hwidth : 0 < width) (hw : width ≤ 9)
    (hn : n < Nat.pow 10 width) {cs : List Char} (hcs : ∀ c ∈ cs.head?, c.isDigit = false) :
    fraction ('.' :: (digits width n ++ cs)) = .ok (n * Nat.pow 10 (9 - width), cs) := by
  have hlength := length_digits hwidth hn
  simp only [fraction, takeWhile_digits hcs, List.take_of_length_le (hlength ▸ hw),
    nat?_digits, hlength, List.drop_left' hlength]

theorem fraction_fractionText {nano : Nat} (h : nano < 1000000000) (cs : List Char) :
    fraction ((fractionText nano).toList ++ '+' :: cs) = .ok (nano, '+' :: cs) := by
  have hsign : ∀ c ∈ ('+' :: cs).head?, c.isDigit = false := by
    rintro c ⟨⟩
    rfl
  have hdot (width n : Nat) :
      ("." ++ padded width n).toList ++ '+' :: cs = '.' :: (digits width n ++ '+' :: cs) := by
    rw [String.toList_append, toList_padded]
    rfl
  unfold fractionText
  split
  next hzero =>
    rw [beq_iff_eq.mp hzero]
    rfl
  next =>
    split
    next hmilli =>
      have hsplit : nano / 1000000 * 1000000 = nano := by
        have := beq_iff_eq.mp hmilli
        omega
      rw [hdot,
        fraction_digits (by decide) (by decide) (show nano / 1000000 < 1000 by omega) hsign,
        show Nat.pow 10 (9 - 3) = 1000000 from rfl, hsplit]
    next =>
      split
      next hmicro =>
        have hsplit : nano / 1000 * 1000 = nano := by
          have := beq_iff_eq.mp hmicro
          omega
        rw [hdot,
          fraction_digits (by decide) (by decide) (show nano / 1000 < 1000000 by omega) hsign,
          show Nat.pow 10 (9 - 6) = 1000 from rfl, hsplit]
      next =>
        rw [hdot, fraction_digits (by decide) (by decide) h hsign,
          show Nat.pow 10 (9 - 9) = 1 from rfl, Nat.mul_one]

theorem offset_zero : offset "+00:00".toList = .ok (0, []) := by
  rfl

end Scan

/-! ## The whole text -/

/-- A moment whose text names it: in the day, in a year of four digits, and beyond a second
only at the end of a minute. -/
structure Proper (t : Timestamp) : Prop where
  second : t.second < 86400
  nano : t.nano < 2000000000
  leap : 1000000000 ≤ t.nano → t.second % 60 = 59
  year : 0 ≤ (Date.ofDays t.day).year ∧ (Date.ofDays t.day).year ≤ 9999

theorem toList_text {t : Timestamp} (h : t.Proper) :
    t.text.toList =
      digits 4 (Date.ofDays t.day).year.toNat ++ '-' :: (digits 2 (Date.ofDays t.day).month ++
      '-' :: (digits 2 (Date.ofDays t.day).day ++ 'T' :: (digits 2 (t.second / 3600) ++
      ':' :: (digits 2 (t.second / 60 % 60) ++ ':' ::
      (digits 2 (t.second % 60 + t.nano / 1000000000) ++
      ((fractionText (t.nano % 1000000000)).toList ++ "+00:00".toList)))))) := by
  have hyear : yearText (Date.ofDays t.day).year = padded 4 (Date.ofDays t.day).year.toNat := by
    simp [yearText, h.year.1, h.year.2]
  simp only [text, localText, secondText, hyear, toString, String.toList_append, toList_padded,
    List.append_assoc]
  rfl

open Scan in
/-- A date, a time of day and a fraction in universal time are read as the moment they name. -/
theorem Scan.timestamp_of_parts {d : Date} {hour minute second nano : Nat}
    (hyear : 0 ≤ d.year ∧ d.year ≤ 9999) (hdate : d.isValid = true) (hhour : hour ≤ 23)
    (hminute : minute ≤ 59) (hsecond : second ≤ 60) (hnano : nano < 1000000000) :
    Scan.timestamp (digits 4 d.year.toNat ++ '-' :: (digits 2 d.month ++ '-' ::
      (digits 2 d.day ++ 'T' :: (digits 2 hour ++ ':' :: (digits 2 minute ++ ':' ::
      (digits 2 second ++ ((fractionText nano).toList ++ "+00:00".toList)))))))
      = .ok (⟨d.toDays, hour * 3600 + minute * 60 + (second - second / 60),
          nano + second / 60 * 1000000000⟩, []) := by
  have hread : Date.mk (d.year.toNat : Int) d.month d.day = d := by
    rw [Int.toNat_of_nonneg hyear.1]
  obtain ⟨hmonth, hday⟩ := Date.two_digits_of_isValid hdate
  have hyear' : d.year.toNat < 10000 := by omega
  have hhour' : hour < 100 := by omega
  have hminute' : minute < 100 := by omega
  have hsecond' : second < 100 := by omega
  have hclock : hour * 3600 + minute * 60 + (second - second / 60) < 86400 := by omega
  unfold Scan.timestamp
  refine (bind_of_eq rfl).trans ?_
  rw [if_neg (Nat.not_lt.mpr (Nat.le_trans ?least (length_le_byteLength _)))]
  case least =>
    simp only [List.length_append, List.length_cons, length_digits (by decide : 0 < 4) hyear',
      length_digits (by decide : 0 < 2) hmonth, length_digits (by decide : 0 < 2) hday,
      length_digits (by decide : 0 < 2) hhour', length_digits (by decide : 0 < 2) hminute',
      length_digits (by decide : 0 < 2) hsecond', leastLength]
    omega
  refine (bind_of_eq (number_digits (by decide) hyear' _)).trans ?_
  refine (bind_of_eq (char_of_mem rfl _)).trans ?_
  refine (bind_of_eq (number_digits (by decide) hmonth _)).trans ?_
  refine (bind_of_eq (char_of_mem rfl _)).trans ?_
  refine (bind_of_eq (number_digits (by decide) hday _)).trans ?_
  rw [hread, if_neg (by simp [hdate])]
  refine (bind_of_eq (char_of_mem rfl _)).trans ?_
  refine (bind_of_eq (number_digits (by decide) hhour' _)).trans ?_
  refine (bind_of_eq (char_of_mem rfl _)).trans ?_
  refine (bind_of_eq (number_digits (by decide) hminute' _)).trans ?_
  refine (bind_of_eq (char_of_mem rfl _)).trans ?_
  refine (bind_of_eq (number_digits (by decide) hsecond' _)).trans ?_
  refine (bind_of_eq (fraction_fractionText hnano _)).trans ?_
  rw [if_neg (by simp only [Bool.or_eq_true, decide_eq_true_eq]; omega)]
  refine (bind_of_eq offset_zero).trans ?_
  refine (bind_of_eq rfl).trans ?_
  rw [if_neg (by simp), if_neg (by decide)]
  have hcarry (clock : Nat) (h : clock < 86400) : ((clock : Int) - 0 * 60) / 86400 = 0 ∧
      (((clock : Int) - 0 * 60) % 86400).toNat = clock := by omega
  dsimp only
  rw [(hcarry _ hclock).1, (hcarry _ hclock).2, Int.add_zero]
  rfl

/-- Every moment in a year of four digits is read back from its text. -/
theorem ofText_text {t : Timestamp} (h : t.Proper) : ofText t.text = .ok t := by
  obtain ⟨hsecond, hnano, hleap, hyear⟩ := id h
  have hclock : t.second / 3600 * 3600 + t.second / 60 % 60 * 60 + (t.second % 60
      + t.nano / 1000000000 - (t.second % 60 + t.nano / 1000000000) / 60) = t.second := by
    omega
  have hfraction : t.nano % 1000000000
      + (t.second % 60 + t.nano / 1000000000) / 60 * 1000000000 = t.nano := by
    omega
  have hread := @Scan.timestamp_of_parts (Date.ofDays t.day) (t.second / 3600)
    (t.second / 60 % 60) (t.second % 60 + t.nano / 1000000000) (t.nano % 1000000000) hyear
    (Date.isValid_ofDays t.day) (by omega) (by omega) (by omega) (by omega)
  rw [hclock, hfraction, Date.toDays_ofDays] at hread
  rw [ofText, toList_text h, hread]
  rfl

end Timestamp

end CredRegistry
