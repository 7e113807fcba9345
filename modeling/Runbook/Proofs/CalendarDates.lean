import Mathlib.Tactic.IntervalCases
import Runbook.Time.Instant

/-!
The date of a day is a date of the calendar, and counting its days gives the day back. A day is
taken apart twice: within an era of 400 years into centuries, groups of four years, years and days,
and within a year that begins in March into months and days.
-/

namespace Runbook.Date

/-- A day of an era as centuries, groups of four years, years and days. Only the last year of a
group has a leap day, and the last group of a century only at the end of the era. -/
structure EraDay (day c f a d : Int) : Prop where
  day : day = 36524 * c + 1461 * f + 365 * a + d
  century : 0 ≤ c ∧ c ≤ 3
  group : 0 ≤ f ∧ f ≤ 24
  year : 0 ≤ a ∧ a ≤ 3
  rest : 0 ≤ d ∧ d ≤ 365
  leap : d = 365 → a = 3 ∧ (f < 24 ∨ c = 3)

theorem exists_eraDay {day : Int} (h0 : 0 ≤ day) (h1 : day < 146097) :
    ∃ c f a d, EraDay day c f a d := by
  obtain ⟨c, r, hday, hc, hr⟩ : ∃ c r : Int, day = 36524 * c + r ∧ (0 ≤ c ∧ c ≤ 3) ∧
      0 ≤ r ∧ (r < 36524 ∨ c = 3 ∧ r = 36524) := by
    by_cases hlast : day = 146096
    · exact ⟨3, 36524, by omega, by omega, by omega⟩
    · exact ⟨day / 36524, day % 36524, by omega, by omega, by omega⟩
  obtain ⟨f, q, hrest, hf, hq⟩ : ∃ f q : Int, r = 1461 * f + q ∧ (0 ≤ f ∧ f ≤ 24) ∧
      0 ≤ q ∧ q ≤ 1460 ∧ (q = 1460 → f < 24 ∨ c = 3) :=
    ⟨r / 1461, r % 1461, by omega, by omega, by omega⟩
  by_cases hlast : q = 1460
  · exact ⟨c, f, 3, 365, by omega, hc, hf, by omega, by omega, by omega⟩
  · exact ⟨c, f, q / 365, q % 365, by omega, hc, hf, by omega, by omega, by omega⟩

namespace EraDay

variable {day c f a d : Int}

theorem yearOfEra (h : EraDay day c f a d) :
    (day - day / 1460 + day / 36524 - day / 146096) / 365 = 100 * c + 4 * f + a := by
  obtain ⟨hday, hc, hf, ha, hd, hleap⟩ := h
  have hfour : day / 1460 = 25 * c + f ∨ day / 1460 = 25 * c + f + 1 ∧ a = 3 ∧ 1 ≤ d := by omega
  have hhundred : day / 36524 = c ∨ day / 36524 = c + 1 ∧ day = 146096 := by omega
  omega

theorem dayOfYear (h : EraDay day c f a d) :
    day - (365 * (100 * c + 4 * f + a) + (100 * c + 4 * f + a) / 4 -
      (100 * c + 4 * f + a) / 100) = d := by
  obtain ⟨hday, hc, hf, ha, hd, -⟩ := h
  omega

end EraDay

theorem isLeapYear_iff (year : Int) :
    isLeapYear year = true ↔ year % 4 = 0 ∧ (year % 100 ≠ 0 ∨ year % 400 = 0) := by
  simp [isLeapYear]

/-- The date of a day of a year that begins in March. -/
def inYear (year dayOfYear : Int) : Date :=
  let monthFromMarch := (5 * dayOfYear + 2) / 153
  let day := dayOfYear - (153 * monthFromMarch + 2) / 5 + 1
  let month := if monthFromMarch < 10 then monthFromMarch + 3 else monthFromMarch - 9
  { year := if month ≤ 2 then year + 1 else year, month := month.toNat, day := day.toNat }

/-- How many days lie before a month in a year that begins in March, the number of the month, and
how many days it has at most. -/
def months : List (Int × Nat × Nat) :=
  [(0, 3, 31), (31, 4, 30), (61, 5, 31), (92, 6, 30), (122, 7, 31), (153, 8, 31), (184, 9, 30),
    (214, 10, 31), (245, 11, 30), (275, 12, 31), (306, 1, 31), (337, 2, 29)]

theorem months_spec {first : Int} {month length : Nat} (h : (first, month, length) ∈ months)
    (year : Int) : 1 ≤ month ∧ month ≤ 12 ∧ (153 * (((month : Int) + 9) % 12) + 2) / 5 = first ∧
      (length = daysInMonth year month ∨ month = 2 ∧ first = 337 ∧ length = 29) := by
  simp only [months, List.mem_cons, Prod.mk.injEq, List.not_mem_nil, or_false] at h
  rcases h with ⟨rfl, rfl, rfl⟩ | ⟨rfl, rfl, rfl⟩ | ⟨rfl, rfl, rfl⟩ | ⟨rfl, rfl, rfl⟩ |
    ⟨rfl, rfl, rfl⟩ | ⟨rfl, rfl, rfl⟩ | ⟨rfl, rfl, rfl⟩ | ⟨rfl, rfl, rfl⟩ | ⟨rfl, rfl, rfl⟩ |
    ⟨rfl, rfl, rfl⟩ | ⟨rfl, rfl, rfl⟩ | ⟨rfl, rfl, rfl⟩ <;> simp [daysInMonth]

theorem inYear_cases (year : Int) {d : Int} (hd : 0 ≤ d ∧ d ≤ 365) :
    ∃ first month length, (first, month, length) ∈ months ∧ 0 ≤ d - first ∧ d - first < length ∧
      inYear year d =
        ⟨if month ≤ 2 then year + 1 else year, month, (d - first + 1).toNat⟩ := by
  obtain ⟨m, hm⟩ : ∃ m, m = (5 * d + 2) / 153 := ⟨_, rfl⟩
  have hlow : 0 ≤ m := by omega
  have hhigh : m ≤ 11 := by omega
  unfold inYear
  simp only [← hm]
  interval_cases m
  · exact ⟨0, 3, 31, by decide, by omega, by omega, rfl⟩
  · exact ⟨31, 4, 30, by decide, by omega, by omega, rfl⟩
  · exact ⟨61, 5, 31, by decide, by omega, by omega, rfl⟩
  · exact ⟨92, 6, 30, by decide, by omega, by omega, rfl⟩
  · exact ⟨122, 7, 31, by decide, by omega, by omega, rfl⟩
  · exact ⟨153, 8, 31, by decide, by omega, by omega, rfl⟩
  · exact ⟨184, 9, 30, by decide, by omega, by omega, rfl⟩
  · exact ⟨214, 10, 31, by decide, by omega, by omega, rfl⟩
  · exact ⟨245, 11, 30, by decide, by omega, by omega, rfl⟩
  · exact ⟨275, 12, 31, by decide, by omega, by omega, rfl⟩
  · exact ⟨306, 1, 31, by decide, by omega, by omega, rfl⟩
  · exact ⟨337, 2, 29, by decide, by omega, by omega, rfl⟩

theorem toDays_inYear {year d : Int} (hd : 0 ≤ d ∧ d ≤ 365) :
    (inYear year d).toDays = year / 400 * 146097 +
      (year % 400 * 365 + year % 400 / 4 - year % 400 / 100 + d) - 719468 := by
  obtain ⟨first, month, length, hmem, hlow, hhigh, heq⟩ := inYear_cases year hd
  obtain ⟨-, -, hfirst, -⟩ := months_spec hmem year
  rw [heq, toDays]
  simp only [hfirst]
  split <;> omega

theorem isValid_inYear {year d : Int} (hd : 0 ≤ d ∧ d ≤ 365)
    (hleap : d = 365 → isLeapYear (year + 1) = true) : (inYear year d).isValid = true := by
  obtain ⟨first, month, length, hmem, hlow, hhigh, heq⟩ := inYear_cases year hd
  obtain ⟨hone, htwelve, -, hlength⟩ :=
    months_spec hmem (if month ≤ 2 then year + 1 else year)
  have hlast :
      (d - first + 1).toNat ≤ daysInMonth (if month ≤ 2 then year + 1 else year) month := by
    rcases hlength with hlength | ⟨rfl, rfl, rfl⟩
    · omega
    · by_cases hday : d = 365
      · have hyear := hleap hday
        simp only [daysInMonth, Nat.le_refl, if_true, hyear]
        omega
      · have hshort : ∀ y, 28 ≤ daysInMonth y 2 := by
          intro y
          rw [daysInMonth, if_pos rfl]
          split <;> decide
        exact Nat.le_trans (by omega) (hshort _)
  rw [heq]
  simp only [isValid, Bool.and_eq_true, decide_eq_true_eq]
  exact ⟨⟨⟨hone, htwelve⟩, by omega⟩, hlast⟩

/-- A day in its era, with what its date is made of. -/
theorem ofDays_cases (days : Int) : ∃ c f a d,
    EraDay ((days + 719468) % 146097) c f a d ∧
      ofDays days = inYear (100 * c + 4 * f + a + (days + 719468) / 146097 * 400) d := by
  obtain ⟨c, f, a, d, h⟩ := exists_eraDay (Int.emod_nonneg (days + 719468) (by decide))
    (Int.emod_lt_of_pos (days + 719468) (by decide))
  refine ⟨c, f, a, d, h, ?_⟩
  unfold ofDays
  simp only [h.yearOfEra, h.dayOfYear]
  rfl

theorem isValid_ofDays (days : Int) : (ofDays days).isValid = true := by
  obtain ⟨c, f, a, d, h, heq⟩ := ofDays_cases days
  obtain ⟨-, hc, hf, ha, hd, hleap⟩ := h
  rw [heq]
  apply isValid_inYear hd
  intro hday
  rw [isLeapYear_iff]
  have hlast := hleap hday
  omega

theorem toDays_ofDays (days : Int) : (ofDays days).toDays = days := by
  obtain ⟨c, f, a, d, h, heq⟩ := ofDays_cases days
  obtain ⟨hday, hc, hf, ha, hd, -⟩ := h
  have hera : (100 * c + 4 * f + a + (days + 719468) / 146097 * 400) / 400 =
      (days + 719468) / 146097 := by omega
  have hyear : (100 * c + 4 * f + a + (days + 719468) / 146097 * 400) % 400 =
      100 * c + 4 * f + a := by omega
  have hfour : (100 * c + 4 * f + a) / 4 = 25 * c + f := by omega
  have hhundred : (100 * c + 4 * f + a) / 100 = c := by omega
  rw [heq, toDays_inYear hd, hera, hyear, hfour, hhundred]
  omega

theorem year_inYear {year d : Int} (hd : 0 ≤ d ∧ d ≤ 365) :
    (inYear year d).year = if 306 ≤ d then year + 1 else year := by
  simp only [inYear]
  split <;> split <;> split <;> omega

/-- A day is in no earlier year than a day before it. -/
theorem year_ofDays_le {a b : Int} (h : a ≤ b) : (ofDays a).year ≤ (ofDays b).year := by
  obtain ⟨c, f, y, d, ⟨hday, hc, hf, hy, hd, hleap⟩, heq⟩ := ofDays_cases a
  obtain ⟨c', f', y', d', ⟨hday', hc', hf', hy', hd', hleap'⟩, heq'⟩ := ofDays_cases b
  rw [heq, heq', year_inYear hd, year_inYear hd']
  have hera : (a + 719468) / 146097 ≤ (b + 719468) / 146097 := by omega
  rcases hera.lt_or_eq with hlt | hsame
  · split <;> split <;> omega
  have hdays : 36524 * c + 1461 * f + 365 * y + d ≤ 36524 * c' + 1461 * f' + 365 * y' + d' := by
    omega
  have hcentury : c ≤ c' := by omega
  have hgroup : c = c' → f ≤ f' := by omega
  have hyear : c = c' → f = f' → y ≤ y' := by omega
  have hrest : c = c' → f = f' → y = y' → d ≤ d' := by omega
  rw [hsame]
  split <;> split <;> omega

end Runbook.Date
