import WeatherRelay.Time.Calendar

/-! Every day has a date, and the date has the number of the day.

An era of 400 years is taken apart into centuries, fours of years, single years and the days within
one. The divisions by which a date is found from its day are then those parts, and the months from
March on are a table of the days before them.
-/

set_option autoImplicit false

namespace WeatherRelay.Date

/-- The years of an era by centuries, fours and single years, and the day within a year. Only the
last year of four has a day more, and the last of a century only at the end of the era. -/
structure EraDay (dayOfEra century four single dayOfYear : Int) : Prop where
  centuries : 0 ≤ century ∧ century ≤ 3
  fours : 0 ≤ four ∧ four ≤ 24
  singles : 0 ≤ single ∧ single ≤ 3
  days : 0 ≤ dayOfYear ∧ dayOfYear ≤ 365
  leap : dayOfYear = 365 → single = 3 ∧ (four = 24 → century = 3)
  total : dayOfEra = 36524 * century + 1461 * four + 365 * single + dayOfYear

theorem exists_eraDay {dayOfEra : Int} (nonneg : 0 ≤ dayOfEra) (bound : dayOfEra < 146097) :
    ∃ century four single dayOfYear, EraDay dayOfEra century four single dayOfYear := by
  obtain ⟨century, inCentury, byCentury, centuries, inCenturies⟩ : ∃ century inCentury : Int,
      dayOfEra = 36524 * century + inCentury ∧ (0 ≤ century ∧ century ≤ 3) ∧
      0 ≤ inCentury ∧ (inCentury < 36524 ∨ inCentury = 36524 ∧ century = 3) :=
    ⟨min (dayOfEra / 36524) 3, dayOfEra - 36524 * min (dayOfEra / 36524) 3, by omega, by omega,
      by omega⟩
  obtain ⟨four, inFour, byFour, inFours⟩ : ∃ four inFour : Int,
      inCentury = 1461 * four + inFour ∧ 0 ≤ inFour ∧ inFour < 1461 :=
    ⟨inCentury / 1461, inCentury % 1461, by omega, by omega, by omega⟩
  obtain ⟨single, dayOfYear, bySingle, singles, inYear⟩ : ∃ single dayOfYear : Int,
      inFour = 365 * single + dayOfYear ∧ (0 ≤ single ∧ single ≤ 3) ∧
      0 ≤ dayOfYear ∧ (dayOfYear < 365 ∨ dayOfYear = 365 ∧ single = 3) :=
    ⟨min (inFour / 365) 3, inFour - 365 * min (inFour / 365) 3, by omega, by omega, by omega⟩
  exact ⟨century, four, single, dayOfYear, centuries, by omega, singles, by omega, by omega,
    by omega⟩

-- The quotient by 1460 counts the leap days so far, and the next one some days early (`late`). A day
-- for which it is early stands late enough in its year to spare one.
theorem yearOfEra_eq {dayOfEra century four single dayOfYear : Int}
    (parts : EraDay dayOfEra century four single dayOfYear) :
    (dayOfEra - dayOfEra / 1460 + dayOfEra / 36524 - dayOfEra / 146096) / 365 =
      100 * century + 4 * four + single := by
  obtain ⟨centuries, fours, singles, days, leap, total⟩ := parts
  have byCentury : dayOfEra / 36524 - dayOfEra / 146096 = century := by
    have each : century = 0 ∨ century = 1 ∨ century = 2 ∨ century = 3 := by omega
    omega
  obtain ⟨late, byFour, lateIff⟩ : ∃ late : Int, dayOfEra / 1460 = 25 * century + four + late ∧
      (late = 0 ∧ 24 * century + four + 365 * single + dayOfYear < 1460 ∨
        late = 1 ∧ 1460 ≤ 24 * century + four + 365 * single + dayOfYear) := by
    refine ⟨dayOfEra / 1460 - 25 * century - four, by omega, ?_⟩
    omega
  have rest : 0 ≤ dayOfYear - late ∧ dayOfYear - late < 365 := by
    clear byCentury byFour total
    omega
  have numerator : dayOfEra - dayOfEra / 1460 + dayOfEra / 36524 - dayOfEra / 146096 =
      dayOfYear - late + (100 * century + 4 * four + single) * 365 := by
    clear centuries fours singles days leap lateIff rest
    omega
  rw [numerator, Int.add_mul_ediv_right _ _ (by decide), Int.ediv_eq_zero_of_lt rest.1 rest.2,
    Int.zero_add]

theorem isLeap_iff (year : Int) :
    isLeap year = true ↔ year % 4 = 0 ∧ (year % 100 ≠ 0 ∨ year % 400 = 0) := by
  simp [isLeap]

theorem monthLength_le (year : Int) (month : Nat) : monthLength year month ≤ 31 := by
  unfold monthLength
  repeat' split
  all_goals decide

theorem bounds_of_valid {date : Date} (valid : date.valid = true) :
    date.month ≤ 12 ∧ date.day ≤ 31 := by
  simp only [Date.valid, Bool.and_eq_true, decide_eq_true_eq] at valid
  have length := monthLength_le date.year date.month
  omega

/-- Months from March on, by the days of the year before them. -/
theorem month_bounds {dayOfYear : Int} (nonneg : 0 ≤ dayOfYear) (bound : dayOfYear ≤ 365) :
    (0 ≤ (5 * dayOfYear + 2) / 153 ∧ (5 * dayOfYear + 2) / 153 ≤ 11) ∧
      (153 * ((5 * dayOfYear + 2) / 153) + 2) / 5 ≤ dayOfYear ∧
      dayOfYear < (153 * ((5 * dayOfYear + 2) / 153 + 1) + 2) / 5 := by
  omega

theorem EraDay.leapYear {dayOfEra century four single dayOfYear : Int}
    (parts : EraDay dayOfEra century four single dayOfYear) (era : Int) :
    dayOfYear < 365 ∨
      dayOfYear = 365 ∧ isLeap (100 * century + 4 * four + single + era * 400 + 1) = true := by
  obtain ⟨centuries, fours, singles, days, leap, -⟩ := parts
  rw [isLeap_iff]
  by_cases last : dayOfYear = 365
  · obtain ⟨rfl, end100⟩ := leap last
    refine .inr ⟨last, by omega, ?_⟩
    by_cases last100 : four = 24
    · obtain rfl := end100 last100
      right
      omega
    · left
      omega
  · left
    omega

theorem EraDay.dayOfEra_sub {dayOfEra century four single dayOfYear : Int}
    (parts : EraDay dayOfEra century four single dayOfYear) :
    dayOfEra - (365 * (100 * century + 4 * four + single) +
        (100 * century + 4 * four + single) / 4 - (100 * century + 4 * four + single) / 100) =
      dayOfYear := by
  obtain ⟨centuries, fours, singles, days, leap, total⟩ := parts
  have byFour : (100 * century + 4 * four + single) / 4 = 25 * century + four := by omega
  have byCentury : (100 * century + 4 * four + single) / 100 = century := by omega
  rw [byFour, byCentury, total]
  omega

/-- A date by its year and month from March on and the days of that year before it. -/
def ofMarch (year month dayOfYear : Int) : Date :=
  ⟨if month < 10 then year else year + 1, (if month < 10 then month + 3 else month - 9).toNat,
    (dayOfYear - (153 * month + 2) / 5 + 1).toNat⟩

theorem ofDays_eq (days : Int) : ∃ year month dayOfYear : Int,
    ((0 ≤ month ∧ month ≤ 11) ∧ (153 * month + 2) / 5 ≤ dayOfYear ∧
      dayOfYear < (153 * (month + 1) + 2) / 5) ∧
    (dayOfYear < 365 ∨ dayOfYear = 365 ∧ isLeap (year + 1) = true) ∧
    days + 719468 = 365 * year + year / 4 - year / 100 + year / 400 + dayOfYear ∧
    ofDays days = ofMarch year month dayOfYear := by
  obtain ⟨era, dayOfEra, byEra, nonneg, bound⟩ : ∃ era dayOfEra : Int,
      days + 719468 = era * 146097 + dayOfEra ∧ 0 ≤ dayOfEra ∧ dayOfEra < 146097 :=
    ⟨(days + 719468) / 146097, (days + 719468) % 146097, by omega, by omega, by omega⟩
  have eraQuotient : (days + 719468) / 146097 = era := by omega
  have remainder : days + 719468 - era * 146097 = dayOfEra := by omega
  obtain ⟨century, four, single, dayOfYear, parts⟩ := exists_eraDay nonneg bound
  have yearOfEra := yearOfEra_eq parts
  have inYear := parts.dayOfEra_sub
  have leapYear := parts.leapYear era
  have months := month_bounds parts.days.1 parts.days.2
  have yearBound : 0 ≤ 100 * century + 4 * four + single ∧
      100 * century + 4 * four + single < 400 := by
    have := parts.centuries
    have := parts.fours
    have := parts.singles
    omega
  clear parts
  generalize 100 * century + 4 * four + single = yearOf at *
  refine ⟨yearOf + era * 400, (5 * dayOfYear + 2) / 153, dayOfYear, months, leapYear, ?_, ?_⟩
  · have quarter : (yearOf + era * 400) / 4 = yearOf / 4 + 100 * era := by omega
    have century : (yearOf + era * 400) / 100 = yearOf / 100 + 4 * era := by omega
    have whole : (yearOf + era * 400) / 400 = era := by omega
    rw [byEra, quarter, century, whole, ← inYear]
    omega
  · unfold ofDays ofMarch
    dsimp only
    rw [eraQuotient, remainder, yearOfEra, inYear]
    generalize (5 * dayOfYear + 2) / 153 = month at *
    by_cases early : month < 10
    · simp only [if_pos early]
      rw [if_neg (by omega), Int.add_zero]
    · simp only [if_neg early]
      rw [if_pos (by omega)]

section Fields

variable {year month dayOfYear : Int}

theorem month_ofMarch (months : 0 ≤ month ∧ month ≤ 11) :
    ((ofMarch year month dayOfYear).month : Int) = if month < 10 then month + 3 else month - 9 := by
  unfold ofMarch
  dsimp only
  split <;> omega

theorem day_ofMarch (first : (153 * month + 2) / 5 ≤ dayOfYear) :
    ((ofMarch year month dayOfYear).day : Int) = dayOfYear - (153 * month + 2) / 5 + 1 := by
  unfold ofMarch
  dsimp only
  omega

theorem toDays_ofMarch (months : 0 ≤ month ∧ month ≤ 11)
    (first : (153 * month + 2) / 5 ≤ dayOfYear) :
    (ofMarch year month dayOfYear).toDays =
      365 * year + year / 4 - year / 100 + year / 400 + dayOfYear - 719468 := by
  have monthOf : ((ofMarch year month dayOfYear).month : Int) = _ := month_ofMarch months
  have yearBack : (if (ofMarch year month dayOfYear).month ≤ 2
      then (ofMarch year month dayOfYear).year - 1 else (ofMarch year month dayOfYear).year) =
        year := by
    have yearOf : (ofMarch year month dayOfYear).year = if month < 10 then year else year + 1 := rfl
    rw [yearOf]
    split at monthOf <;> split <;> omega
  have monthBack : (if (ofMarch year month dayOfYear).month > 2
      then ((ofMarch year month dayOfYear).month : Int) - 3
      else (ofMarch year month dayOfYear).month + 9) = month := by
    split at monthOf <;> split <;> omega
  unfold toDays
  dsimp only
  rw [yearBack, monthBack, day_ofMarch first]
  have quarter : (year - year / 400 * 400) / 4 = year / 4 - 100 * (year / 400) := by omega
  have century : (year - year / 400 * 400) / 100 = year / 100 - 4 * (year / 400) := by omega
  rw [quarter, century]
  omega

/-- Months are as long as the table of the days before them says; only the last one, February, goes
by its year. -/
theorem monthLength_ofMarch (year : Int) (months : 0 ≤ month ∧ month ≤ 11) :
    (monthLength year (if month < 10 then month + 3 else month - 9).toNat : Int) =
      if month = 11 then (if isLeap year then 29 else 28)
      else (153 * (month + 1) + 2) / 5 - (153 * month + 2) / 5 := by
  have each : month = 0 ∨ month = 1 ∨ month = 2 ∨ month = 3 ∨ month = 4 ∨ month = 5 ∨ month = 6 ∨
      month = 7 ∨ month = 8 ∨ month = 9 ∨ month = 10 ∨ month = 11 := by omega
  rcases each with rfl | rfl | rfl | rfl | rfl | rfl | rfl | rfl | rfl | rfl | rfl | rfl
  case inr.inr.inr.inr.inr.inr.inr.inr.inr.inr.inr =>
    change ((if isLeap year then 29 else 28 : Nat) : Int) = if isLeap year then (29 : Int) else 28
    split <;> rfl
  all_goals rfl

theorem valid_ofMarch (months : 0 ≤ month ∧ month ≤ 11)
    (first : (153 * month + 2) / 5 ≤ dayOfYear) (next : dayOfYear < (153 * (month + 1) + 2) / 5)
    (leap : dayOfYear < 365 ∨ dayOfYear = 365 ∧ isLeap (year + 1) = true) :
    (ofMarch year month dayOfYear).valid = true := by
  have day : ((ofMarch year month dayOfYear).day : Int) = _ := day_ofMarch first
  have monthOf : ((ofMarch year month dayOfYear).month : Int) = _ := month_ofMarch months
  have length := monthLength_ofMarch (ofMarch year month dayOfYear).year months
  have inMonth : ((ofMarch year month dayOfYear).day : Int) ≤
      monthLength (ofMarch year month dayOfYear).year (ofMarch year month dayOfYear).month := by
    change _ ≤ (monthLength (ofMarch year month dayOfYear).year
      (if month < 10 then month + 3 else month - 9).toNat : Int)
    rw [length, day]
    by_cases february : month = 11
    · subst february
      have yearOf : (ofMarch year 11 dayOfYear).year = year + 1 := rfl
      rw [if_pos rfl, yearOf]
      rcases leap with short | ⟨last, leapYear⟩
      · split <;> omega
      · rw [if_pos leapYear]
        omega
    · rw [if_neg february]
      omega
  unfold valid
  simp only [Bool.and_eq_true, decide_eq_true_eq]
  split at monthOf <;> omega

end Fields

theorem toDays_ofDays (days : Int) : (ofDays days).toDays = days := by
  obtain ⟨year, month, dayOfYear, ⟨months, first, -⟩, -, total, same⟩ := ofDays_eq days
  rw [same, toDays_ofMarch months first, ← total, Int.add_sub_cancel]

theorem valid_ofDays (days : Int) : (ofDays days).valid = true := by
  obtain ⟨year, month, dayOfYear, ⟨months, first, next⟩, leap, -, same⟩ := ofDays_eq days
  rw [same, valid_ofMarch months first next leap]

end WeatherRelay.Date
