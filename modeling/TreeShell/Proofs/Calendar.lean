import TreeShell.Date

/-!
# Days and dates

A day count names one date, and the date has that day count again. The years of a cycle of 400 years
begin on days that the count finds: every year has 365 days and one more if it ends with a leap day.
-/

namespace TreeShell.Date

/-- The days of a cycle before a year of it, years being counted from the first of March. -/
def startOfYear (year : Nat) : Nat :=
  365 * year + year / 4 - year / 100

/-- The year of a cycle on a day of it. -/
def yearOnDay (day : Nat) : Nat :=
  (day - day / 1460 + day / 36524 - day / 146096) / 365

theorem yearOnDay_lt {day : Nat} (inCycle : day < 146097) : yearOnDay day < 400 := by
  unfold yearOnDay
  omega

/-- The count of years in terms of centuries, spans of four years and single years. Only the last
day of the cycle belongs to a fifth century. -/
theorem startOfYear_le {day : Nat} (century span year : Nat) (inCycle : day < 146097)
    (centuries : century ≤ 3) (spans : span ≤ 24) (years : year ≤ 3)
    (onDay : yearOnDay day = 100 * century + 4 * span + year) :
    let start := 36524 * century + 1461 * span + 365 * year
    start ≤ day ∧ day ≤ start + 365 ∧
      (day = start + 365 → year = 3 ∧ (span ≠ 24 ∨ century = 3)) := by
  unfold yearOnDay at onDay
  dsimp only
  have leapDays : day / 1460 ≤ 25 * century + span ∨ day / 1460 = 25 * century + span + 1 ∨
      25 * century + span + 1 < day / 1460 := by omega
  have lastDays : day / 36524 < century ∨ day / 36524 = century ∨ century < day / 36524 := by omega
  have lastOfCycle : day / 146096 = 0 ∨ day = 146096 := by omega
  refine ⟨?_, ?_, ?_⟩
  all_goals
    rcases lastOfCycle with none | rfl
    · rcases leapDays with fewer | one | more <;> rcases lastDays with before | within | after
      all_goals omega
    · omega

/-- A day lies in its year, and on the day after 365 days only if the year ends with a leap day. -/
theorem yearOnDay_spec {day : Nat} (inCycle : day < 146097) :
    startOfYear (yearOnDay day) ≤ day ∧ day ≤ startOfYear (yearOnDay day) + 365 ∧
      (day = startOfYear (yearOnDay day) + 365 →
        yearOnDay day % 4 = 3 ∧ (yearOnDay day % 100 ≠ 99 ∨ yearOnDay day = 399)) := by
  have small := yearOnDay_lt inCycle
  have spec := startOfYear_le (yearOnDay day / 100) (yearOnDay day % 100 / 4) (yearOnDay day % 4)
    inCycle (by omega) (by omega) (by omega) (by omega)
  dsimp only at spec
  have start : startOfYear (yearOnDay day) = 36524 * (yearOnDay day / 100) +
      1461 * (yearOnDay day % 100 / 4) + 365 * (yearOnDay day % 4) := by
    unfold startOfYear
    omega
  rw [start]
  refine ⟨spec.1, spec.2.1, ?_⟩
  intro last
  have leap := spec.2.2 last
  omega

/-- The month on a day of a year, months being counted from March. -/
def monthOnDay (day : Nat) : Nat :=
  (5 * day + 2) / 153

theorem monthOnDay_spec {day : Nat} (inYear : day ≤ 365) :
    monthOnDay day ≤ 11 ∧ (153 * monthOnDay day + 2) / 5 ≤ day := by
  unfold monthOnDay
  omega

/-- The date of a day count, given the parts of the count. -/
theorem ofDays_eq (days : Int) :
    let dayOfCycle := ((days + 719468) % 146097).toNat
    let year := yearOnDay dayOfCycle
    let dayOfYear := dayOfCycle - startOfYear year
    let month := if monthOnDay dayOfYear < 10 then monthOnDay dayOfYear + 3
      else monthOnDay dayOfYear - 9
    ofDays days =
      { year := if month ≤ 2 then (days + 719468) / 146097 * 400 + (year : Int) + 1
          else (days + 719468) / 146097 * 400 + (year : Int)
        month
        day := dayOfYear - (153 * monthOnDay dayOfYear + 2) / 5 + 1 } :=
  rfl

/-- The date of a day count has that day count. -/
theorem toDays_ofDays (days : Int) : (ofDays days).toDays = days := by
  rw [ofDays_eq]
  have inCycle : ((days + 719468) % 146097).toNat < 146097 := by omega
  have cycles : days + 719468 = (days + 719468) / 146097 * 146097 +
      (((days + 719468) % 146097).toNat : Int) := by omega
  generalize ((days + 719468) % 146097).toNat = dayOfCycle at inCycle cycles
  generalize (days + 719468) / 146097 = cycle at cycles
  have yearSmall := yearOnDay_lt inCycle
  obtain ⟨started, within, -⟩ := yearOnDay_spec inCycle
  generalize yearOnDay dayOfCycle = year at yearSmall started within
  have inYear : dayOfCycle - startOfYear year ≤ 365 := by omega
  obtain ⟨monthSmall, monthStarted⟩ := monthOnDay_spec inYear
  generalize isDay : dayOfCycle - startOfYear year = dayOfYear at monthSmall monthStarted
  generalize monthOnDay dayOfYear = month at monthSmall monthStarted
  have cycleBack : (cycle * 400 + (year : Int)) / 400 = cycle := by omega
  have yearBack : (cycle * 400 + (year : Int)) % 400 = year := by omega
  unfold startOfYear at started isDay
  unfold toDays
  dsimp only
  by_cases late : month < 10
  · have notEarly : ¬ month + 3 ≤ 2 := by omega
    have monthBack : (month + 3 + 9) % 12 = month := by omega
    simp only [if_pos late, if_neg notEarly, monthBack, cycleBack, yearBack]
    omega
  · have early : month - 9 ≤ 2 := by omega
    have monthBack : (month - 9 + 9) % 12 = month := by omega
    simp only [if_neg late, if_pos early, Int.add_sub_cancel, monthBack, cycleBack, yearBack]
    omega

/-- A leap year of the calendar follows a year of a cycle that ends with a leap day. -/
theorem isLeap_of_leapDay {cycle : Int} {year : Nat} (fourth : year % 4 = 3)
    (notCentury : year % 100 ≠ 99 ∨ year = 399) :
    isLeap (cycle * 400 + (year : Int) + 1) = true := by
  unfold isLeap
  have byFour : (cycle * 400 + (year : Int) + 1) % 4 = 0 := by omega
  have byCentury : (cycle * 400 + (year : Int) + 1) % 100 ≠ 0 ∨
      (cycle * 400 + (year : Int) + 1) % 400 = 0 := by omega
  simpa [byFour] using byCentury

/-- The day of a month on a day of a year is one that the month has. -/
theorem day_le_daysInMonth {dayOfYear : Nat} (inYear : dayOfYear ≤ 365) {year : Int}
    (leap : dayOfYear = 365 → isLeap (year + 1) = true) :
    let month := monthOnDay dayOfYear
    let number := if month < 10 then month + 3 else month - 9
    dayOfYear - (153 * month + 2) / 5 + 1 ≤
      daysInMonth (if number ≤ 2 then year + 1 else year) number := by
  have monthSmall := (monthOnDay_spec inYear).1
  generalize isMonth : monthOnDay dayOfYear = month at monthSmall
  unfold monthOnDay at isMonth
  dsimp only
  by_cases late : month < 10
  · have notFebruary : month + 3 ≠ 2 := by omega
    rw [if_pos late, daysInMonth, if_neg notFebruary]
    split <;> omega
  · rw [if_neg late]
    by_cases february : month = 11
    · subst february
      have number : 11 - 9 = 2 := rfl
      rw [number, if_pos (Nat.le_refl 2), daysInMonth, if_pos rfl]
      by_cases last : dayOfYear = 365
      · rw [if_pos (leap last)]
        omega
      · split <;> omega
    · have january : month = 10 := by omega
      subst january
      have notShort : ¬ (10 - 9 = 4 ∨ 10 - 9 = 6 ∨ 10 - 9 = 9 ∨ 10 - 9 = 11) := by decide
      rw [daysInMonth, if_neg (by decide), if_neg notShort]
      omega

/-- The date of a day count between the earliest and the latest one is in the calendar. -/
theorem isValid_ofDays {days : Int} (notBefore : firstDay ≤ days) (notAfter : days ≤ lastDay) :
    (ofDays days).isValid = true := by
  have first : firstDay = -96465292 := by decide
  have last : lastDay = 95026236 := by decide
  rw [first] at notBefore
  rw [last] at notAfter
  rw [ofDays_eq]
  have inCycle : ((days + 719468) % 146097).toNat < 146097 := by omega
  have cycles : days + 719468 = (days + 719468) / 146097 * 146097 +
      (((days + 719468) % 146097).toNat : Int) := by omega
  generalize ((days + 719468) % 146097).toNat = dayOfCycle at inCycle cycles
  generalize (days + 719468) / 146097 = cycle at cycles
  have yearSmall := yearOnDay_lt inCycle
  obtain ⟨started, within, leapDay⟩ := yearOnDay_spec inCycle
  generalize yearOnDay dayOfCycle = year at yearSmall started within leapDay
  have inYear : dayOfCycle - startOfYear year ≤ 365 := by omega
  have leap : dayOfCycle - startOfYear year = 365 →
      isLeap (cycle * 400 + (year : Int) + 1) = true := by
    intro isLast
    obtain ⟨fourth, notCentury⟩ := leapDay (by omega)
    exact isLeap_of_leapDay fourth notCentury
  have fits := day_le_daysInMonth inYear leap
  have monthSmall := (monthOnDay_spec inYear).1
  -- The last months of a year of a cycle belong to the next year of the calendar.
  have least : -262144 ≤ cycle * 400 + (year : Int) := by
    unfold startOfYear at started within
    omega
  have greatest : cycle * 400 + (year : Int) ≤ 262142 := by
    unfold startOfYear at started within
    omega
  have notLeast : monthOnDay (dayOfCycle - startOfYear year) < 10 →
      -262143 ≤ cycle * 400 + (year : Int) := by
    unfold monthOnDay startOfYear at *
    omega
  have notGreatest : 10 ≤ monthOnDay (dayOfCycle - startOfYear year) →
      cycle * 400 + (year : Int) ≤ 262141 := by
    unfold monthOnDay startOfYear at *
    omega
  generalize dayOfCycle - startOfYear year = dayOfYear at fits monthSmall notLeast notGreatest
  dsimp only at fits ⊢
  by_cases late : monthOnDay dayOfYear < 10
  · have march : ¬ monthOnDay dayOfYear + 3 ≤ 2 := by omega
    have notBefore := notLeast late
    simp only [if_pos late, if_neg march] at fits ⊢
    simp only [isValid, yearInRange, Bool.and_eq_true, decide_eq_true_eq]
    omega
  · have january : monthOnDay dayOfYear - 9 ≤ 2 := by omega
    have notAfter := notGreatest (by omega)
    simp only [if_neg late, if_pos january] at fits ⊢
    simp only [isValid, yearInRange, Bool.and_eq_true, decide_eq_true_eq]
    omega

end TreeShell.Date
