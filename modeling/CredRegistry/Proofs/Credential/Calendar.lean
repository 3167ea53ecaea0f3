import CredRegistry.Credential.Timestamp

/-!
# Days and dates

A date is found from a count of days by splitting the day of its cycle of 400 years into
centuries, groups of four years, years and a day, all counted from March. The last century,
group and year may be a day longer than the others, and only there the division goes one too
far; `year_of_split` says that the corrections in `Date.ofDays` take that back.

From this reading of `Date.ofDays`, `ofDays_spec`, follow the two facts that the text of a
moment relies on: `toDays_ofDays`, that the days to the date are the days it was found from,
and `isValid_ofDays`, that there is such a date.
-/

namespace CredRegistry.Date

/-! ## The day of a cycle -/

/-- The day of a cycle by century, group of four years, year and day. The last century, group
or year may be a day longer than the others. -/
theorem cycle_split {n : Int} (h₀ : 0 ≤ n) (h₁ : n < 146097) : ∃ c q k t : Int,
    n = 36524 * c + 1461 * q + 365 * k + t ∧ 0 ≤ c ∧ c ≤ 3 ∧ 0 ≤ q ∧ q ≤ 24 ∧ 0 ≤ k ∧ k ≤ 3 ∧
      0 ≤ t ∧ t ≤ 365 ∧ (t = 365 → k = 3 ∧ (q = 24 → c = 3)) := by
  obtain ⟨c, r, hn, hc₀, hc₃, hr₀, hr⟩ : ∃ c r : Int, n = 36524 * c + r ∧ 0 ≤ c ∧ c ≤ 3 ∧
      0 ≤ r ∧ (r < 36524 ∨ c = 3 ∧ r = 36524) := by
    by_cases hlast : n = 146096
    · exact ⟨3, 36524, by omega, by omega, by omega, by omega, .inr ⟨rfl, rfl⟩⟩
    · exact ⟨n / 36524, n % 36524, by omega, by omega, by omega, by omega, .inl (by omega)⟩
  obtain ⟨k, t, hs, hk₀, hk₃, ht₀, ht⟩ : ∃ k t : Int, r % 1461 = 365 * k + t ∧ 0 ≤ k ∧ k ≤ 3 ∧
      0 ≤ t ∧ (t < 365 ∨ k = 3 ∧ t = 365) := by
    by_cases hlast : r % 1461 = 1460
    · exact ⟨3, 365, by omega, by omega, by omega, by omega, .inr ⟨rfl, rfl⟩⟩
    · exact ⟨r % 1461 / 365, r % 1461 % 365, by omega, by omega, by omega, by omega,
        .inl (by omega)⟩
  refine ⟨c, r / 1461, k, t, by omega, hc₀, hc₃, by omega, by omega, hk₀, hk₃, ht₀, by omega, ?_⟩
  intro hlong
  refine ⟨by omega, fun hq => ?_⟩
  omega

theorem year_of_split {n c q k t : Int} (hn : n = 36524 * c + 1461 * q + 365 * k + t)
    (hc₀ : 0 ≤ c) (hc₃ : c ≤ 3) (hq₀ : 0 ≤ q) (hq : q ≤ 24) (hk₀ : 0 ≤ k) (hk₃ : k ≤ 3)
    (ht₀ : 0 ≤ t) (ht : t ≤ 365) (hlong : t = 365 → k = 3 ∧ (q = 24 → c = 3)) :
    (n - n / 1460 + n / 36524 - n / 146096) / 365 = 100 * c + 4 * q + k := by
  have h₁ : n / 1460 = 25 * c + q ∧ t < 365 ∨ n / 1460 = 25 * c + q + 1 ∧ 0 < t := by omega
  have h₂ : n / 36524 - n / 146096 = c := by
    have hcentury : n < 36524 * (c + 1) ∨ c = 3 ∧ n = 146096 := by omega
    rcases hcentury with hm | ⟨rfl, hm⟩
    · have : n / 36524 = c := by omega
      have : n / 146096 = 0 := by omega
      omega
    · rw [hm]
      rfl
  omega

theorem day_of_split {c q k : Int} (t : Int) (hq₀ : 0 ≤ q) (hq : q ≤ 24) (hk₀ : 0 ≤ k)
    (hk₃ : k ≤ 3) :
    36524 * c + 1461 * q + 365 * k + t - (365 * (100 * c + 4 * q + k)
      + (100 * c + 4 * q + k) / 4 - (100 * c + 4 * q + k) / 100) = t := by
  have h4 : (100 * c + 4 * q + k) / 4 = 25 * c + q := by omega
  have h100 : (100 * c + 4 * q + k) / 100 = c := by omega
  omega

theorem isLeap_of_split {c q k e : Int} (hq₀ : 0 ≤ q) (hq : q ≤ 24) (hk : k = 3)
    (hlast : q = 24 → c = 3) : isLeap (400 * e + (100 * c + 4 * q + k) + 1) = true := by
  have hfour : (400 * e + (100 * c + 4 * q + k) + 1) % 4 = 0 := by omega
  have hcentury : (400 * e + (100 * c + 4 * q + k) + 1) % 100 ≠ 0 ∨
      (400 * e + (100 * c + 4 * q + k) + 1) % 400 = 0 := by omega
  simp only [isLeap, Bool.and_eq_true, Bool.or_eq_true, beq_iff_eq, bne_iff_ne]
  exact ⟨hfour, hcentury⟩

/-! ## The day of a year -/

/-- The month, counted from March, that a day of the year lies in, and the day of that
month. -/
theorem month_of_day {t : Int} (h₀ : 0 ≤ t) (h : t ≤ 365) :
    0 ≤ (5 * t + 2) / 153 ∧ (5 * t + 2) / 153 ≤ 11 ∧
      0 ≤ t - (153 * ((5 * t + 2) / 153) + 2) / 5 := by
  omega

theorem day_le_daysInMonth {t m year : Int} (h₀ : 0 ≤ t) (h : t ≤ 365) (hm : (5 * t + 2) / 153 = m)
    (hleap : t = 365 → isLeap year = true) :
    (t - (153 * m + 2) / 5 + 1).toNat ≤
      daysInMonth year (if m < 10 then m + 3 else m - 9).toNat := by
  by_cases hfebruary : m = 11
  · -- February is the last month, and 29 days long if the year is a leap year.
    subst hfebruary
    change _ ≤ if isLeap year then 29 else 28
    by_cases hlast : t = 365
    · rw [if_pos (hleap hlast)]
      omega
    · split <;> omega
  · have hcases : m = 0 ∨ m = 1 ∨ m = 2 ∨ m = 3 ∨ m = 4 ∨ m = 5 ∨ m = 6 ∨ m = 7 ∨ m = 8 ∨ m = 9 ∨
        m = 10 := by omega
    rcases hcases with rfl | rfl | rfl | rfl | rfl | rfl | rfl | rfl | rfl | rfl | rfl
    all_goals
      simp only [daysInMonth, Int.reduceAdd, Int.reduceSub, Int.reduceLT, if_true, if_false]
      simp
      omega

/-! ## Dates -/

/-- The date that a number of days stands for, with the days from 0000-03-01 split up. -/
theorem ofDays_spec (days : Int) : ∃ c q k t e : Int,
    days + 719468 = 146097 * e + (36524 * c + 1461 * q + 365 * k + t) ∧
    0 ≤ c ∧ c ≤ 3 ∧ 0 ≤ q ∧ q ≤ 24 ∧ 0 ≤ k ∧ k ≤ 3 ∧ 0 ≤ t ∧ t ≤ 365 ∧
    (t = 365 → k = 3 ∧ (q = 24 → c = 3)) ∧
    ofDays days =
      (let month := (5 * t + 2) / 153
       let shown := if month < 10 then month + 3 else month - 9
       ⟨400 * e + (100 * c + 4 * q + k) + (if shown ≤ 2 then 1 else 0), shown.toNat,
         (t - (153 * month + 2) / 5 + 1).toNat⟩) := by
  obtain ⟨c, q, k, t, hn, hc₀, hc₃, hq₀, hq, hk₀, hk₃, ht₀, ht, hlong⟩ :=
    cycle_split (n := (days + 719468) % 146097) (by omega) (by omega)
  refine ⟨c, q, k, t, (days + 719468) / 146097, by omega, hc₀, hc₃, hq₀, hq, hk₀, hk₃, ht₀, ht,
    hlong, ?_⟩
  have hyear := year_of_split hn hc₀ hc₃ hq₀ hq hk₀ hk₃ ht₀ ht hlong
  have hday := day_of_split (c := c) t hq₀ hq hk₀ hk₃
  rw [← hn] at hday
  simp only [ofDays, daysInCycle, hyear, hday, Int.mul_comm 400]

/-- The days to a date that is given by cycle, year, month and day of the year. -/
theorem toDays_ofCycle {e y t m : Int} (hy₀ : 0 ≤ y) (hy : y < 400) (hm₀ : 0 ≤ m) (hm : m ≤ 11)
    (hday : 0 ≤ t - (153 * m + 2) / 5) :
    toDays ⟨400 * e + y + (if (if m < 10 then m + 3 else m - 9) ≤ 2 then 1 else 0),
      (if m < 10 then m + 3 else m - 9).toNat, (t - (153 * m + 2) / 5 + 1).toNat⟩
      = 146097 * e + (365 * y + y / 4 - y / 100 + t) - 719468 := by
  have hshownDay : ((t - (153 * m + 2) / 5 + 1).toNat : Int) = t - (153 * m + 2) / 5 + 1 :=
    Int.toNat_of_nonneg (by omega)
  have hyear : (400 * e + y) / 400 = e ∧ (400 * e + y) % 400 = y := by omega
  by_cases hlate : m < 10
  · have hmonth : ((m + 3).toNat : Int) = m + 3 := Int.toNat_of_nonneg (by omega)
    have hspring : ¬ (m + 3 ≤ 2) := by omega
    have hspring' : ¬ ((m + 3).toNat ≤ 2) := by omega
    have hspring'' : 2 < (m + 3).toNat := by omega
    simp only [toDays, daysInCycle, if_pos hlate, if_neg hspring, if_neg hspring',
      if_pos hspring'', hshownDay, hmonth, Int.add_zero, hyear.1, hyear.2]
    omega
  · have hmonth : ((m - 9).toNat : Int) = m - 9 := Int.toNat_of_nonneg (by omega)
    have hwinter : m - 9 ≤ 2 := by omega
    have hwinter' : (m - 9).toNat ≤ 2 := by omega
    have hwinter'' : ¬ (2 < (m - 9).toNat) := by omega
    simp only [toDays, daysInCycle, if_neg hlate, if_pos hwinter, if_pos hwinter',
      if_neg hwinter'', hshownDay, hmonth, Int.add_sub_cancel, hyear.1, hyear.2]
    omega

/-- The days to the date that a number of days stands for. -/
theorem toDays_ofDays (days : Int) : (ofDays days).toDays = days := by
  obtain ⟨c, q, k, t, e, hdays, hc₀, hc₃, hq₀, hq, hk₀, hk₃, ht₀, ht, -, heq⟩ := ofDays_spec days
  obtain ⟨hm₀, hm, hday⟩ := month_of_day ht₀ ht
  have hsplit := day_of_split (c := c) t hq₀ hq hk₀ hk₃
  rw [heq, toDays_ofCycle (by omega) (by omega) hm₀ hm hday]
  clear heq hm₀ hm hday
  omega

theorem isValid_ofDays (days : Int) : (ofDays days).isValid = true := by
  obtain ⟨c, q, k, t, e, -, hc₀, hc₃, hq₀, hq, hk₀, hk₃, ht₀, ht, hlong, heq⟩ := ofDays_spec days
  obtain ⟨hm₀, hm, hday⟩ := month_of_day ht₀ ht
  have hleap : t = 365 → isLeap (400 * e + (100 * c + 4 * q + k) + (if (if (5 * t + 2) / 153 < 10
      then (5 * t + 2) / 153 + 3 else (5 * t + 2) / 153 - 9) ≤ 2 then 1 else 0)) = true := by
    rintro rfl
    exact isLeap_of_split hq₀ hq (hlong rfl).1 (hlong rfl).2
  have hlength := day_le_daysInMonth ht₀ ht rfl hleap
  rw [heq]
  simp only [isValid, Bool.and_eq_true, decide_eq_true_eq]
  clear heq hlong hleap
  refine ⟨⟨⟨?_, ?_⟩, ?_⟩, hlength⟩
  · split <;> omega
  · split <;> omega
  · omega

theorem two_digits_of_isValid {d : Date} (h : d.isValid = true) :
    d.month < 100 ∧ d.day < 100 := by
  have hlength : daysInMonth d.year d.month ≤ 31 := by
    unfold daysInMonth
    split
    · split <;> omega
    · split <;> omega
  simp only [isValid, Bool.and_eq_true, decide_eq_true_eq] at h
  omega

end CredRegistry.Date
