import Mathlib.Tactic.IntervalCases
import HearingSync.Time.Civil
/-!
Days and civil dates. Main statements: the year, month and day of a day lead back to it, they are a
date of the calendar, and a day is representable where its year is. A date of the calendar is in
turn that of its day, and an earlier year has earlier days.
-/

namespace HearingSync

/-- Where a day of the 400-year cycle lies: its century, the four years in it, and the day of
those. The last century has one more day, and so have the last four years of it. -/
theorem yearOfCycle_eq {century quad rest day : Int} (hc : 0 ≤ century ∧ century ≤ 3)
    (hq : 0 ≤ quad ∧ quad ≤ 24) (hr : 0 ≤ rest ∧ rest ≤ 1460)
    (hl : century < 3 → quad = 24 → rest < 1460)
    (hday : day = 36524 * century + 1461 * quad + rest) :
    (day - day / 1460 + day / 36524 - day / 146096) / 365 =
      100 * century + 4 * quad + if rest < 1460 then rest / 365 else 3 := by
  by_cases h : rest < 1460
  · rw [if_pos h]
    have hcentury : day / 36524 = century := by omega
    have hcycle : day / 146096 = 0 := by omega
    have hquad : day / 1460 = 25 * century + quad ∨ day / 1460 = 25 * century + quad + 1 := by
      omega
    rw [hcentury, hcycle]
    omega
  · rw [if_neg h]
    by_cases hlast : day = 146096
    · subst hlast
      omega
    · have hcentury : day / 36524 = century := by omega
      have hcycle : day / 146096 = 0 := by omega
      have hquad : day / 1460 = 25 * century + quad + 1 := by omega
      rw [hcentury, hcycle, hquad]
      omega

/-- The day of the year, counted from March; the 366th is in a leap year. -/
theorem dayOfYear_bounds {day : Int} (h : 0 ≤ day ∧ day < 146097) :
    ∃ year dayOfYear, (day - day / 1460 + day / 36524 - day / 146096) / 365 = year ∧
      day - (365 * year + year / 4 - year / 100) = dayOfYear ∧
      0 ≤ year ∧ year ≤ 399 ∧ 0 ≤ dayOfYear ∧ dayOfYear ≤ 365 ∧
      (dayOfYear = 365 → (year + 1) % 4 = 0 ∧ ((year + 1) % 100 ≠ 0 ∨ (year + 1) % 400 = 0)) := by
  obtain ⟨century, hcentury⟩ : ∃ c, c = min (day / 36524) 3 := ⟨_, rfl⟩
  obtain ⟨quad, hquad⟩ : ∃ q, q = (day - 36524 * century) / 1461 := ⟨_, rfl⟩
  obtain ⟨rest, hrest⟩ : ∃ r, r = day - 36524 * century - 1461 * quad := ⟨_, rfl⟩
  have hc : 0 ≤ century ∧ century ≤ 3 := by omega
  have hspan : 0 ≤ day - 36524 * century ∧ day - 36524 * century ≤ 36524 ∧
      (century < 3 → day - 36524 * century < 36524) := by omega
  have hq : 0 ≤ quad ∧ quad ≤ 24 := by omega
  have hr : 0 ≤ rest ∧ rest ≤ 1460 := by omega
  have hl : century < 3 → quad = 24 → rest < 1460 := by omega
  have hday : day = 36524 * century + 1461 * quad + rest := by omega
  have hyear := yearOfCycle_eq hc hq hr hl hday
  refine ⟨_, _, hyear, rfl, ?_⟩
  clear hyear hcentury hquad hrest hspan
  by_cases h1460 : rest < 1460
  · rw [if_pos h1460]
    generalize hb : rest / 365 = b
    have hfour : (100 * century + 4 * quad + b) / 4 = 25 * century + quad := by omega
    have hhundred : (100 * century + 4 * quad + b) / 100 = century := by omega
    rw [hfour, hhundred]
    omega
  · rw [if_neg h1460]
    have hfour : (100 * century + 4 * quad + 3) / 4 = 25 * century + quad := by omega
    have hhundred : (100 * century + 4 * quad + 3) / 100 = century := by omega
    rw [hfour, hhundred]
    omega

/-- Leap days before the March of a year. -/
def leapDays (year : Int) : Int := year / 4 - year / 100 + year / 400

theorem leapDays_mono {year later : Int} (h : year ≤ later) : leapDays year ≤ leapDays later := by
  unfold leapDays
  have hyear : year / 4 = 25 * (year / 100) + year % 100 / 4 := by omega
  have hlater : later / 4 = 25 * (later / 100) + later % 100 / 4 := by omega
  have hcycle : year / 400 ≤ later / 400 := Int.ediv_le_ediv (by decide) h
  rw [hyear, hlater]
  rcases (Int.ediv_le_ediv (by decide) h : year / 100 ≤ later / 100).lt_or_eq with hlt | heq
  · omega
  · have hrest : year % 100 / 4 ≤ later % 100 / 4 := by omega
    omega

namespace CivilDate

variable {c : CivilDate}

theorem isLeapYear_of {year : Int}
    (h : year % 4 = 0 ∧ (year % 100 ≠ 0 ∨ year % 400 = 0)) : isLeapYear year = true := by
  simpa [isLeapYear] using h

theorem daysInMonth_le (year : Int) (month : Nat) : daysInMonth year month ≤ 31 := by
  unfold daysInMonth
  split <;> (try split) <;> omega

theorem isValid_iff : c.isValid = true ↔ isRepresentable c.year = true ∧
    1 ≤ c.month ∧ c.month ≤ 12 ∧ 1 ≤ c.day ∧ c.day ≤ daysInMonth c.year c.month := by
  simp [isValid, and_assoc]

theorem number_toDate (c : CivilDate) : c.toDate.number =
    365 * c.marchYear + leapDays c.marchYear + (153 * c.marchMonth + 2) / 5 + c.day - 719469 := by
  simp only [toDate, leapDays]
  omega

/-- The first and the last date are the first and the last of their years. -/
theorem isRepresentable_toDate (hm : 1 ≤ c.month ∧ c.month ≤ 12) (hd : 1 ≤ c.day ∧ c.day ≤ 31) :
    c.toDate.isRepresentable = isRepresentable c.year := by
  have hfirst : Date.first.number = -96465292 := rfl
  have hlast : Date.last.number = 95026236 := rfl
  have hlow : leapDays (-262144) = -63570 := rfl
  have hhigh : leapDays 262142 = 63569 := rfl
  have hlow₁ : -262144 ≤ c.marchYear → leapDays (-262144) ≤ leapDays c.marchYear := leapDays_mono
  have hlow₂ : c.marchYear ≤ -262144 → leapDays c.marchYear ≤ leapDays (-262144) := leapDays_mono
  have hhigh₁ : 262142 ≤ c.marchYear → leapDays 262142 ≤ leapDays c.marchYear := leapDays_mono
  have hhigh₂ : c.marchYear ≤ 262142 → leapDays c.marchYear ≤ leapDays 262142 := leapDays_mono
  rw [hlow] at hlow₁ hlow₂
  rw [hhigh] at hhigh₁ hhigh₂
  rw [Bool.eq_iff_iff]
  simp only [Date.isRepresentable, isRepresentable, hfirst, hlast, Bool.and_eq_true,
    decide_eq_true_eq, number_toDate]
  generalize leapDays c.marchYear = days at *
  unfold marchYear marchMonth at *
  by_cases h : c.month ≤ 2
  · simp only [if_pos h] at *
    omega
  · simp only [if_neg h] at *
    omega

end CivilDate

/-- The month, counted from March, and the day of the month, from the day of such a year. -/
theorem monthOfYear_bounds {dayOfYear : Int} (h : 0 ≤ dayOfYear ∧ dayOfYear ≤ 365) :
    ∃ month day, (5 * dayOfYear + 2) / 153 = month ∧ dayOfYear - (153 * month + 2) / 5 + 1 = day ∧
      0 ≤ month ∧ month ≤ 11 ∧ 1 ≤ day ∧ day ≤ 31 ∧
      (month = 1 ∨ month = 3 ∨ month = 6 ∨ month = 8 → day ≤ 30) ∧
      (month = 11 → day ≤ 29 ∧ (day = 29 → dayOfYear = 365)) := by
  refine ⟨_, _, rfl, rfl, ?_⟩
  generalize hmonth : (5 * dayOfYear + 2) / 153 = month
  have hm : 0 ≤ month ∧ month ≤ 11 := by omega
  obtain ⟨hm, hm'⟩ := hm
  interval_cases month <;> omega

theorem daysInMonth_march {month : Int} (year : Int) (h : 0 ≤ month ∧ month < 10) :
    CivilDate.daysInMonth year (month + 3).toNat =
      if month = 1 ∨ month = 3 ∨ month = 6 ∨ month = 8 then 30 else 31 := by
  obtain ⟨hm, hm'⟩ := h
  interval_cases month <;> rfl

namespace Date

theorem ext_number {a b : Date} (h : a.number = b.number) : a = b := by
  cases a
  cases b
  cases h
  rfl

/-- The date of a day, put together from the place of the day in its cycle and its year. -/
theorem civil_spec (d : Date) : d.civil.toDate = d ∧ 1 ≤ d.civil.month ∧ d.civil.month ≤ 12 ∧
    1 ≤ d.civil.day ∧ d.civil.day ≤ CivilDate.daysInMonth d.civil.year d.civil.month := by
  obtain ⟨year, dayOfYear, hyear, hdayOfYear, hy, hy', hd, hd', hleap⟩ :=
    dayOfYear_bounds (show 0 ≤ (d.number + 719468) % 146097 ∧ _ by omega)
  obtain ⟨month, day, hmonth, hday, hm, hm', hday₁, hday₂, hshort, hfeb⟩ :=
    monthOfYear_bounds ⟨hd, hd'⟩
  have hnumber : d.number = 146097 * ((d.number + 719468) / 146097) +
      (365 * year + year / 4 - year / 100) + dayOfYear - 719468 := by omega
  generalize hcycle : (d.number + 719468) / 146097 = cycle at hnumber
  have hcivil : d.civil = if month < 10
      then { year := year + cycle * 400, month := (month + 3).toNat, day := day.toNat }
      else { year := year + cycle * 400 + 1, month := (month - 9).toNat, day := day.toNat } := by
    simp only [civil, hyear, hdayOfYear, hmonth, hday, hcycle]
  clear hyear hdayOfYear hcycle
  rw [hcivil]
  have hleapDays : leapDays (year + cycle * 400) = year / 4 - year / 100 + 97 * cycle := by
    have hfour : (year + cycle * 400) / 4 = year / 4 + 100 * cycle := by omega
    have hhundred : (year + cycle * 400) / 100 = year / 100 + 4 * cycle := by omega
    have hall : (year + cycle * 400) / 400 = cycle := by omega
    rw [leapDays, hfour, hhundred, hall]
    omega
  by_cases h : month < 10
  · rw [if_pos h]
    refine ⟨ext_number ?_, by dsimp only; omega, by dsimp only; omega, by dsimp only; omega, ?_⟩
    · have hmarch : ¬ (month + 3).toNat ≤ 2 := by omega
      rw [CivilDate.number_toDate]
      simp only [CivilDate.marchYear, CivilDate.marchMonth, if_neg hmarch, hleapDays]
      omega
    · rw [daysInMonth_march _ ⟨hm, h⟩]
      dsimp only
      split <;> omega
  · rw [if_neg h]
    refine ⟨ext_number ?_, by dsimp only; omega, by dsimp only; omega, by dsimp only; omega, ?_⟩
    · have hmarch : (month - 9).toNat ≤ 2 := by omega
      rw [CivilDate.number_toDate]
      simp only [CivilDate.marchYear, CivilDate.marchMonth, if_pos hmarch, Int.add_sub_cancel,
        hleapDays]
      omega
    · rcases (show month = 10 ∨ month = 11 by omega) with rfl | rfl
      · exact Int.toNat_le.mpr hday₂
      · have hfebruary (y : Int) : CivilDate.daysInMonth y (11 - 9 : Int).toNat =
            if CivilDate.isLeapYear y then 29 else 28 := rfl
        dsimp only
        rw [hfebruary]
        by_cases hlast : day = 29
        · have hyear := hleap ((hfeb rfl).2 hlast)
          have hleapYear : CivilDate.isLeapYear (year + cycle * 400 + 1) = true :=
            CivilDate.isLeapYear_of (by omega)
          rw [if_pos hleapYear]
          omega
        · have hshortFebruary : day ≤ 28 := by omega
          split <;> omega

theorem isRepresentable_eq (d : Date) :
    d.isRepresentable = CivilDate.isRepresentable d.civil.year := by
  obtain ⟨hd, hm, hm', hday, hday'⟩ := civil_spec d
  rw [← CivilDate.isRepresentable_toDate ⟨hm, hm'⟩
    ⟨hday, hday'.trans (CivilDate.daysInMonth_le _ _)⟩, hd]

/-- A representable day is a date of the calendar, and its year, month and day lead back to it. -/
theorem civil_isValid {d : Date} (h : d.isRepresentable = true) : d.civil.isValid = true := by
  obtain ⟨-, hm, hm', hday, hday'⟩ := civil_spec d
  exact CivilDate.isValid_iff.mpr ⟨(isRepresentable_eq d).symm.trans h, hm, hm', hday, hday'⟩

end Date

theorem CivilDate.toDate_isRepresentable {c : CivilDate} (h : c.isValid = true) :
    c.toDate.isRepresentable = true := by
  obtain ⟨hy, hm, hm', hd, hd'⟩ := isValid_iff.mp h
  rw [isRepresentable_toDate ⟨hm, hm'⟩ ⟨hd, hd'.trans (daysInMonth_le _ _)⟩]
  exact hy

/-- 29 February comes before the March of its year. -/
theorem leapDays_succ (year : Int) : leapDays (year + 1) =
    leapDays year + if CivilDate.isLeapYear (year + 1) then 1 else 0 := by
  unfold leapDays
  by_cases h : CivilDate.isLeapYear (year + 1) = true
  · have hleap : (year + 1) % 4 = 0 ∧ ((year + 1) % 100 ≠ 0 ∨ (year + 1) % 400 = 0) := by
      simpa [CivilDate.isLeapYear] using h
    rw [if_pos h]
    omega
  · have hplain : ¬((year + 1) % 4 = 0 ∧ ((year + 1) % 100 ≠ 0 ∨ (year + 1) % 400 = 0)) :=
      mt CivilDate.isLeapYear_of h
    rw [if_neg h]
    omega

namespace CivilDate

variable {c c' : CivilDate}

theorem le_daysInMonth (year : Int) (month : Nat) : 28 ≤ daysInMonth year month := by
  unfold daysInMonth
  split <;> (try split) <;> omega

structure InCalendar (c : CivilDate) : Prop where
  one_le_month : 1 ≤ c.month
  month_le : c.month ≤ 12
  one_le_day : 1 ≤ c.day
  day_le : c.day ≤ daysInMonth c.year c.month

theorem InCalendar.day_le_last (h : c.InCalendar) : c.day ≤ 31 :=
  h.day_le.trans (daysInMonth_le c.year c.month)

def marchDay (c : CivilDate) : Int := (153 * c.marchMonth + 2) / 5 + c.day - 1

theorem number_eq_marchDay (c : CivilDate) :
    c.toDate.number = 365 * c.marchYear + leapDays c.marchYear + c.marchDay - 719468 := by
  rw [number_toDate, marchDay]
  omega

/-- A day of the year is in the year, and tells its month. -/
theorem InCalendar.marchDay_spec (h : c.InCalendar) :
    0 ≤ c.marchDay ∧ c.marchDay < 365 + (if isLeapYear (c.marchYear + 1) then 1 else 0) ∧
      (5 * c.marchDay + 2) / 153 = c.marchMonth := by
  obtain ⟨year, month, day⟩ := c
  obtain ⟨hm, hm', hd, hd'⟩ := h
  have hday : day ≤ 31 := hd'.trans (daysInMonth_le year month)
  unfold marchDay marchYear marchMonth
  dsimp only at *
  by_cases hmarch : month ≤ 2
  · rw [if_pos hmarch, if_pos hmarch, Int.sub_add_cancel]
    rcases (show month = 1 ∨ month = 2 by omega) with rfl | rfl
    · split <;> omega
    · have hfebruary : day ≤ if isLeapYear year then 29 else 28 := hd'
      by_cases hleap : isLeapYear year = true
      · rw [if_pos hleap] at hfebruary ⊢
        omega
      · rw [if_neg hleap] at hfebruary ⊢
        omega
  · rw [if_neg hmarch, if_neg hmarch]
    have hshort : month = 4 ∨ month = 6 ∨ month = 9 ∨ month = 11 → day ≤ 30 := by
      rintro (rfl | rfl | rfl | rfl) <;> exact hd'
    have hlength : (0 : Int) ≤ if isLeapYear (year + 1) then 1 else 0 := by split <;> omega
    clear hd'
    interval_cases month <;> omega

theorem number_lt_of_marchYear_lt (hc : c.InCalendar) (hc' : c'.InCalendar)
    (h : c.marchYear < c'.marchYear) : c.toDate.number < c'.toDate.number := by
  obtain ⟨-, hlast, -⟩ := hc.marchDay_spec
  obtain ⟨hfirst, -, -⟩ := hc'.marchDay_spec
  have hleap := leapDays_mono (show c.marchYear + 1 ≤ c'.marchYear by omega)
  rw [leapDays_succ] at hleap
  rw [number_eq_marchDay, number_eq_marchDay]
  omega

theorem toDate_injective (hc : c.InCalendar) (hc' : c'.InCalendar) (h : c.toDate = c'.toDate) :
    c = c' := by
  have hyear : c.marchYear = c'.marchYear := by
    rcases Int.lt_trichotomy c.marchYear c'.marchYear with hlt | heq | hgt
    · have hnumber := number_lt_of_marchYear_lt hc hc' hlt
      rw [h] at hnumber
      omega
    · exact heq
    · have hnumber := number_lt_of_marchYear_lt hc' hc hgt
      rw [h] at hnumber
      omega
  have hday : c.marchDay = c'.marchDay := by
    have hnumber := congrArg Date.number h
    rw [number_eq_marchDay, number_eq_marchDay, hyear] at hnumber
    omega
  have hmonth : c.marchMonth = c'.marchMonth := by
    rw [← hc.marchDay_spec.2.2, ← hc'.marchDay_spec.2.2, hday]
  have hm : 1 ≤ c.month ∧ c.month ≤ 12 := ⟨hc.one_le_month, hc.month_le⟩
  have hm' : 1 ≤ c'.month ∧ c'.month ≤ 12 := ⟨hc'.one_le_month, hc'.month_le⟩
  unfold marchDay at hday
  rw [hmonth] at hday
  unfold marchYear at hyear
  unfold marchMonth at hmonth
  obtain ⟨year, month, day⟩ := c
  obtain ⟨year', month', day'⟩ := c'
  dsimp only at *
  obtain rfl : month = month' := by
    split at hmonth <;> split at hmonth <;> omega
  obtain rfl : day = day' := by omega
  obtain rfl : year = year' := by
    split at hyear <;> omega
  rfl

theorem civil_inCalendar (d : Date) : d.civil.InCalendar := by
  obtain ⟨-, hm, hm', hd, hd'⟩ := d.civil_spec
  exact ⟨hm, hm', hd, hd'⟩

/-- A date of the calendar is the year, month and day of its day. -/
theorem InCalendar.civil_toDate (h : c.InCalendar) : c.toDate.civil = c :=
  toDate_injective (civil_inCalendar _) h (Date.civil_spec _).1

theorem number_lt_of_year_lt (hc : c.InCalendar) (hc' : c'.InCalendar) (h : c.year < c'.year) :
    c.toDate.number < c'.toDate.number := by
  by_cases hmarch : c.marchYear < c'.marchYear
  · exact number_lt_of_marchYear_lt hc hc' hmarch
  -- The later one is in January or February, the earlier one in the months before.
  · obtain ⟨hm, hm', hd, hd'⟩ := hc
    have hday : c.day ≤ 31 := hd'.trans (daysInMonth_le _ _)
    obtain ⟨hm₁, -, hd₁, -⟩ := hc'
    have hearlier : ¬c.month ≤ 2 ∧ c'.month ≤ 2 ∧ c.marchYear = c'.marchYear := by
      unfold marchYear at *
      split at hmarch <;> split at hmarch <;> omega
    obtain ⟨hc2, hc2', hyear⟩ := hearlier
    rw [number_toDate, number_toDate, hyear]
    unfold marchMonth
    rw [if_neg hc2, if_pos hc2']
    omega

/-- Within a month days are counted one by one. -/
theorem number_of_sameMonth (c c' : CivilDate) (hy : c.year = c'.year) (hm : c.month = c'.month) :
    c.toDate.number - c.day = c'.toDate.number - c'.day := by
  rw [number_toDate, number_toDate]
  unfold marchYear marchMonth
  rw [hy, hm]
  omega

end CivilDate

namespace Date

def newYear (year : Int) : Date := CivilDate.toDate { year, month := 1, day := 1 }

theorem newYear_inCalendar (year : Int) :
    ({ year, month := 1, day := 1 } : CivilDate).InCalendar :=
  ⟨Nat.le_refl 1, by dsimp only; omega, Nat.le_refl 1,
    Nat.le_trans (by decide : 1 ≤ 28) (CivilDate.le_daysInMonth year 1)⟩

theorem civil_newYear (year : Int) : (newYear year).civil = { year, month := 1, day := 1 } :=
  (newYear_inCalendar year).civil_toDate

theorem newYear_le (d : Date) : (newYear d.civil.year).number ≤ d.number := by
  have hc := CivilDate.civil_inCalendar d
  have hd := (civil_spec d).1
  generalize d.civil = c at hc hd
  subst hd
  by_cases h : c.month ≤ 2
  · obtain ⟨hm, -, hd, -⟩ := hc
    unfold newYear
    rw [CivilDate.number_toDate, CivilDate.number_toDate]
    simp only [CivilDate.marchYear, CivilDate.marchMonth, if_pos h, if_pos (show 1 ≤ 2 by decide)]
    omega
  · refine Int.le_of_lt (CivilDate.number_lt_of_marchYear_lt (newYear_inCalendar _) hc ?_)
    simp only [CivilDate.marchYear, if_neg h, if_pos (show 1 ≤ 2 by decide)]
    omega

theorem lt_newYear {d : Date} {year : Int} (h : d.civil.year < year) :
    d.number < (newYear year).number := by
  have hlt := CivilDate.number_lt_of_year_lt (CivilDate.civil_inCalendar d)
    (newYear_inCalendar year) h
  rwa [(civil_spec d).1] at hlt

end Date

end HearingSync
