import CurrencyLedger.Instant.Basic
import Mathlib.Tactic.IntervalCases

/-! # Days and dates

* **`Instant.yearOfEra_spec`** — in which of four hundred years a day lies, and how far into it;
* **`Instant.isValid_civil`** — the date of a day is one of the calendar;
* **`Instant.dayOf_civil`** — the day of its date is the day. -/

namespace CurrencyLedger.Instant

/-- The year of a day within four hundred years that begin in March: the day lies in it, and its
366th day is that of a leap year. -/
theorem yearOfEra_spec {day : Int} (lo : 0 ≤ day) (hi : day < 146097) :
    ∃ year, (day - day / 1460 + day / 36524 - day / 146096) / 365 = year ∧
      0 ≤ year ∧ year < 400 ∧ 365 * year + year / 4 - year / 100 ≤ day ∧
      day ≤ 365 * year + year / 4 - year / 100 + 365 ∧
      (day = 365 * year + year / 4 - year / 100 + 365 →
        (year + 1) % 4 = 0 ∧ ((year + 1) % 100 ≠ 0 ∨ (year + 1) % 400 = 0)) := by
  by_cases last : day = 146096
  · -- The leap day that ends the four hundred years.
    subst last
    exact ⟨399, by decide⟩
  · have outermost : day / 146096 = 0 := by omega
    obtain ⟨year, is⟩ : ∃ year, (day - day / 1460 + day / 36524 - day / 146096) / 365 = year :=
      ⟨_, rfl⟩
    obtain ⟨cycle, cycles⟩ : ∃ cycle, day / 1460 = cycle := ⟨_, rfl⟩
    obtain ⟨century, centuries⟩ : ∃ century, day / 36524 = century := ⟨_, rfl⟩
    rw [outermost, cycles, centuries] at is
    have few : 0 ≤ century ∧ century ≤ 3 := by omega
    -- Years and days agree about the century, and about the cycle of four years up to one.
    have hundreds : year / 100 = century := by omega
    have below : year / 4 ≤ cycle := by omega
    have above : cycle ≤ year / 4 + 1 := by omega
    refine ⟨year, by rw [outermost, cycles, centuries, is], by omega, by omega, by omega, by omega,
      fun full => ⟨?_, ?_⟩⟩
    · -- A year of 366 days is the last of its cycle.
      have next : cycle = year / 4 + 1 := by omega
      have bound : year / 4 ≤ 99 := by omega
      have ends : 3 ≤ year % 4 := by omega
      omega
    · by_cases third : century = 3
      · by_cases hundredth : (year + 1) % 100 = 0
        · exact Or.inr (by omega)
        · exact Or.inl hundredth
      · exact Or.inl (by omega)

/-- The parts of a date, told from the day of four hundred years that begin in March. -/
theorem civil_eq (day : Int) :
    ∃ era year rest month, 0 ≤ year ∧ year < 400 ∧ 0 ≤ rest ∧ rest ≤ 365 ∧
      (rest = 365 → (year + 1) % 4 = 0 ∧ ((year + 1) % 100 ≠ 0 ∨ (year + 1) % 400 = 0)) ∧
      (5 * rest + 2) / 153 = month ∧
      day + 719468 = era * 146097 + (365 * year + year / 4 - year / 100 + rest) ∧
      civil day =
        { year := year + era * 400 + if (if month < 10 then month + 3 else month - 9) ≤ 2 then 1 else 0
          month := if month < 10 then month + 3 else month - 9
          day := rest - (153 * month + 2) / 5 + 1 } := by
  -- Days are counted from the first of March of the year zero, in spans of four hundred years.
  have lo : 0 ≤ (day + 719468) % 146097 := Int.emod_nonneg _ (by decide)
  have hi : (day + 719468) % 146097 < 146097 := Int.emod_lt_of_pos _ (by decide)
  obtain ⟨year, is, nonneg, less, ge, le, leap⟩ := yearOfEra_spec lo hi
  refine ⟨(day + 719468) / 146097, year, (day + 719468) % 146097 -
    (365 * year + year / 4 - year / 100), _, nonneg, less, by omega, by omega,
    fun full => leap (by omega), rfl, by omega, ?_⟩
  rw [civil]
  simp only [is]

/-- The date of a day is one of the calendar. -/
theorem isValid_civil (day : Int) : (civil day).isValid = true := by
  obtain ⟨era, year, rest, month, nonneg, less, lo, hi, leap, is, -, date⟩ := civil_eq day
  -- Months are counted from March, and begin with the days that the lengths before add up to.
  have months : 0 ≤ month ∧ month ≤ 11 := by omega
  have first : (153 * month + 2) / 5 ≤ rest := by omega
  rw [date, Date.isValid]
  simp only [Bool.and_eq_true, decide_eq_true_eq]
  refine ⟨⟨⟨?_, ?_⟩, by omega⟩, ?_⟩
  · split <;> omega
  · split <;> omega
  · -- Only the last month, February, has a length of its own in leap years.
    obtain ⟨low, high⟩ := months
    interval_cases month
    case «11» =>
      by_cases full : rest = 365
      · have ends := leap full
        have is_leap : isLeapYear (year + era * 400 + 1) = true := by
          simp only [isLeapYear, Bool.and_eq_true, Bool.or_eq_true, beq_iff_eq, bne_iff_ne]
          omega
        simp [monthLength, is_leap, full]
      · simp only [monthLength]
        split <;> simp <;> omega
    all_goals
      simp [monthLength]
      omega

/-- The day of the date of a day is the day. -/
theorem dayOf_civil (day : Int) : dayOf (civil day) = day := by
  obtain ⟨era, year, rest, month, nonneg, less, lo, hi, -, is, split, date⟩ := civil_eq day
  have months : 0 ≤ month ∧ month ≤ 11 := by omega
  -- Counted from March, the year and the month are those that the date was made of.
  have march : (if (if month < 10 then month + 3 else month - 9) ≤ 2 then
        year + era * 400 + (if (if month < 10 then month + 3 else month - 9) ≤ 2 then 1 else 0) - 1
      else
        year + era * 400 + (if (if month < 10 then month + 3 else month - 9) ≤ 2 then 1 else 0)) =
      year + era * 400 := by
    split <;> omega
  have since : ((if month < 10 then month + 3 else month - 9) + 9) % 12 = month := by
    split <;> omega
  rw [date, dayOf]
  simp only [march, since]
  have whole : (year + era * 400) / 400 = era := by omega
  have part : (year + era * 400) % 400 = year := by omega
  rw [whole, part]
  omega

end CurrencyLedger.Instant
