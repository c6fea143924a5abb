import HearingSync.Proofs.Time.LocalOrder
/-!
British Summer Time. The clocks in London go forward on the last Sunday of March and back on the
last Sunday of October, each time at one o'clock in universal time. Main statement: from 2000 to
2099 the table of changes goes by this rule, at every instant.
-/

namespace HearingSync

/-- The place of a day in its week, counted from Sunday; 1 January 1970 was a Thursday. -/
def Date.weekday (d : Date) : Int := (d.number + 4) % 7

structure Date.IsLastSunday (d : Date) (year : Int) (month : Nat) : Prop where
  inYear : d.civil.year = year
  inMonth : d.civil.month = month
  sunday : d.weekday = 0
  last : ∀ later : Date, later.civil.year = year → later.civil.month = month →
    later.weekday = 0 → later.number ≤ d.number

def CivilDate.monthEnd (year : Int) (month : Nat) : CivilDate :=
  { year, month, day := daysInMonth year month }

def Date.lastSunday (year : Int) (month : Nat) : Date :=
  let monthEnd := (CivilDate.monthEnd year month).toDate
  ⟨monthEnd.number - monthEnd.weekday⟩

namespace Date

variable {a b : Date} {year : Int} {month : Nat}

theorem IsLastSunday.unique (ha : a.IsLastSunday year month) (hb : b.IsLastSunday year month) :
    a = b :=
  ext_number (Int.le_antisymm (hb.last a ha.inYear ha.inMonth ha.sunday)
    (ha.last b hb.inYear hb.inMonth hb.sunday))

theorem civil_lastSunday (year : Int) {month : Nat} (hm : 1 ≤ month ∧ month ≤ 12) :
    ∃ day : Nat, (lastSunday year month).civil = { year, month, day } := by
  have hweek : 0 ≤ (CivilDate.monthEnd year month).toDate.weekday ∧
      (CivilDate.monthEnd year month).toDate.weekday < 7 :=
    ⟨Int.emod_nonneg _ (by decide), Int.emod_lt_of_pos _ (by decide)⟩
  have hlong := CivilDate.le_daysInMonth year month
  obtain ⟨back, hback⟩ := Int.eq_ofNat_of_zero_le hweek.1
  have hday : (lastSunday year month) =
      CivilDate.toDate { year, month, day := CivilDate.daysInMonth year month - back } := by
    have hmonth := CivilDate.number_of_sameMonth
      { year, month, day := CivilDate.daysInMonth year month - back }
      (CivilDate.monthEnd year month) rfl rfl
    refine ext_number ?_
    unfold lastSunday
    dsimp only [CivilDate.monthEnd] at *
    omega
  refine ⟨_, (congrArg civil hday).trans (CivilDate.InCalendar.civil_toDate ?_)⟩
  exact ⟨hm.1, hm.2, by dsimp only; omega, Nat.sub_le _ _⟩

theorem lastSunday_isLastSunday (hm : 1 ≤ month ∧ month ≤ 12) :
    (lastSunday year month).IsLastSunday year month := by
  obtain ⟨day, hcivil⟩ := civil_lastSunday year hm
  refine ⟨by rw [hcivil], by rw [hcivil], ?_, fun later hy hm hsunday => ?_⟩
  · dsimp only [lastSunday, weekday]
    omega
  · have hend := CivilDate.number_of_sameMonth later.civil (CivilDate.monthEnd year month) hy hm
    have hday := (CivilDate.civil_inCalendar later).day_le
    rw [(civil_spec later).1] at hend
    rw [hy, hm] at hday
    unfold lastSunday
    unfold weekday at *
    dsimp only [CivilDate.monthEnd] at *
    omega

def atHour (d : Date) (hour : Fin 24) : Instant :=
  ⟨{ date := d, second := hour * 3600, nano := 0, nano_lt := WallClock.zero_nano_lt }⟩

theorem lt_atHour_iff {t : Instant} {d : Date} {hour : Fin 24} :
    t < d.atHour hour ↔ t.epochSecond < d.number * 86400 + hour * 3600 := by
  have hlt : t < d.atHour hour ↔ t.utc < (d.atHour hour).utc := Iff.rfl
  rw [hlt, WallClock.lt_iff]
  simp [atHour, WallClock.epochSecond, Instant.epochSecond]

end Date

namespace London

/-- When the clocks go forward in a year, and when they go back, in seconds of the epoch: at one
o'clock in universal time on the last Sunday of March and of October. -/
def springForward (year : Int) : Int := (Date.lastSunday year 3).number * 86400 + 3600

def fallBack (year : Int) : Int := (Date.lastSunday year 10).number * 86400 + 3600

def InSummer (year t : Int) : Prop := springForward year ≤ t ∧ t < fallBack year

instance (year t : Int) : Decidable (InSummer year t) :=
  inferInstanceAs (Decidable (_ ∧ _))

def summerTimes (first : Int) : Nat → List (Int × Int)
  | 0 => []
  | years + 1 =>
    (springForward first, 3600) :: (fallBack first, 0) :: summerTimes (first + 1) years

/-- The table goes by the rule from 2000 on. -/
theorem transitions_summerTimes :
    (transitions.dropWhile fun change => change.1 < 946684800) = summerTimes 2000 100 := by
  decide +kernel

theorem offset_before_summerTimes :
    (transitions.takeWhile fun change => change.1 < 946684800).foldl (fun _ change => change.2)
      localMeanOffset = 0 := by
  decide +kernel

variable {t : Int}

theorem offsetFrom_of_after {table : List (Int × Int)} {before : Int}
    (h : ∀ change ∈ table, change.1 ≤ t) :
    offsetFrom table before t = table.foldl (fun _ change => change.2) before := by
  induction table generalizing before with
  | nil => rfl
  | cons change table ih =>
    rw [offsetFrom_cons, if_pos (h change List.mem_cons_self)]
    exact ih fun later hmem => h later (List.mem_cons_of_mem change hmem)

theorem offsetAt_eq (ht : 946684800 ≤ t) : offsetAt t = offsetFrom (summerTimes 2000 100) 0 t := by
  have hearlier : ∀ change ∈ transitions.takeWhile (fun change => change.1 < 946684800),
      change.1 ≤ t := by
    intro change hmem
    have hlt := List.all_eq_true.mp List.all_takeWhile change hmem
    simp only [decide_eq_true_eq] at hlt
    omega
  have hsplit : offsetAt t = offsetFrom (transitions.dropWhile fun change => change.1 < 946684800)
      (offsetFrom (transitions.takeWhile fun change => change.1 < 946684800) localMeanOffset
        t) t := by
    unfold offsetAt offsetFrom
    rw [← List.foldl_append, List.takeWhile_append_dropWhile]
  rw [hsplit, offsetFrom_of_after hearlier, offset_before_summerTimes, transitions_summerTimes]

def yearStart (year : Int) : Int := (Date.newYear year).number * 86400

theorem lastSunday_within (year : Int) (month : Nat) (hm : 1 ≤ month ∧ month ≤ 12) :
    yearStart year ≤ (Date.lastSunday year month).number * 86400 ∧
      (Date.lastSunday year month).number * 86400 + 86400 ≤ yearStart (year + 1) := by
  obtain ⟨day, hcivil⟩ := Date.civil_lastSunday year hm
  have hstart := Date.newYear_le (Date.lastSunday year month)
  have hend : (Date.lastSunday year month).number < (Date.newYear (year + 1)).number :=
    Date.lt_newYear (by rw [hcivil]; exact Int.lt_succ year)
  rw [hcivil] at hstart
  unfold yearStart
  dsimp only at hstart
  omega

theorem yearStart_mono {year later : Int} (h : year ≤ later) :
    yearStart year ≤ yearStart later := by
  rcases Int.lt_or_eq_of_le h with hlt | rfl
  · have hnumber : (Date.newYear year).number < (Date.newYear later).number :=
      Date.lt_newYear (by rwa [Date.civil_newYear])
    unfold yearStart
    omega
  · exact Int.le_refl _

theorem after_summerTimes {first : Int} {years : Nat} (ht : t < yearStart first) :
    ∀ change ∈ summerTimes first years, t < change.1 := by
  induction years generalizing first with
  | zero => exact fun change hmem => nomatch hmem
  | succ years ih =>
    obtain ⟨hspring, -⟩ := lastSunday_within first 3 (by decide)
    obtain ⟨hautumn, -⟩ := lastSunday_within first 10 (by decide)
    have hnext : t < yearStart (first + 1) := by
      have hmono := yearStart_mono (Int.le_of_lt (Int.lt_succ first))
      omega
    intro change hmem
    rcases List.mem_cons.mp hmem with rfl | hmem
    · unfold springForward
      omega
    rcases List.mem_cons.mp hmem with rfl | hmem
    · unfold fallBack
      omega
    · exact ih hnext change hmem

/-- In its year an instant is in summer time between the two changes; those of earlier years leave
the clocks back, and those of later years are still to come. -/
theorem offsetFrom_summerTimes {first year : Int} {years : Nat}
    (hyear : first ≤ year ∧ year < first + years)
    (ht : yearStart year ≤ t ∧ t < yearStart (year + 1)) :
    offsetFrom (summerTimes first years) 0 t = if InSummer year t then 3600 else 0 := by
  induction years generalizing first with
  | zero => omega
  | succ years ih =>
    rw [summerTimes, offsetFrom_cons, offsetFrom_cons]
    rcases Int.lt_or_eq_of_le hyear.1 with hlt | rfl
    · have hback : fallBack first ≤ t := by
        obtain ⟨-, hautumn⟩ := lastSunday_within first 10 (by decide)
        have hmono := yearStart_mono (show first + 1 ≤ year by omega)
        unfold fallBack
        omega
      rw [if_pos hback]
      exact ih (by omega)
    · rw [offsetFrom_of_before (after_summerTimes ht.2)]
      by_cases hback : fallBack first ≤ t
      · have hover : ¬InSummer first t := fun h => Int.not_lt.mpr hback h.2
        rw [if_pos hback, if_neg hover]
      · rw [if_neg hback]
        by_cases hforward : springForward first ≤ t
        · have hsummer : InSummer first t := ⟨hforward, Int.not_le.mp hback⟩
          rw [if_pos hforward, if_pos hsummer]
        · have hwinter : ¬InSummer first t := fun h => hforward h.1
          rw [if_neg hforward, if_neg hwinter]

end London

namespace Instant

variable {t : Instant}

theorem within_year (t : Instant) : London.yearStart t.utc.date.civil.year ≤ t.epochSecond ∧
    t.epochSecond < London.yearStart (t.utc.date.civil.year + 1) := by
  have hsecond := t.utc.second_lt
  have hstart := Date.newYear_le t.utc.date
  have hend := Date.lt_newYear (Int.lt_succ t.utc.date.civil.year)
  unfold London.yearStart Instant.epochSecond WallClock.epochSecond
  omega

theorem year_of_between {first last : Int} (hfirst : ¬t < (Date.newYear first).atHour 0)
    (hlast : t < (Date.newYear last).atHour 0) :
    first ≤ t.utc.date.civil.year ∧ t.utc.date.civil.year < last := by
  rw [Date.lt_atHour_iff] at hfirst hlast
  have hsecond := t.utc.second_lt
  unfold Instant.epochSecond WallClock.epochSecond at hfirst hlast
  constructor
  · by_contra hyear
    have hnumber := Date.lt_newYear (d := t.utc.date) (Int.not_le.mp hyear)
    simp at hfirst
    omega
  · by_contra hyear
    have hstart := Date.newYear_le t.utc.date
    have hmono := London.yearStart_mono (Int.not_lt.mp hyear)
    unfold London.yearStart at hmono
    simp at hlast
    omega

theorem offsetAt_of_year (h : 2000 ≤ t.utc.date.civil.year ∧ t.utc.date.civil.year < 2100) :
    London.offsetAt t.epochSecond =
      if London.InSummer t.utc.date.civil.year t.epochSecond then 3600 else 0 := by
  have hcentury : London.yearStart 2000 = 946684800 := rfl
  have hmono := London.yearStart_mono h.1
  have hyear := within_year t
  rw [London.offsetAt_eq (by omega)]
  exact London.offsetFrom_summerTimes (by omega) hyear

theorem inSummer_iff {year : Int} : London.InSummer year t.epochSecond ↔
    ¬t < (Date.lastSunday year 3).atHour 1 ∧ t < (Date.lastSunday year 10).atHour 1 := by
  rw [Date.lt_atHour_iff, Date.lt_atHour_iff, Int.not_lt]
  exact Iff.rfl

/-- In this century the clocks in London are an hour ahead exactly from one o'clock, in universal
time, on the last Sunday of March until one o'clock on the last Sunday of October of that year, and
show universal time before and after; the part of the second is the same. -/
theorem toLondon_by_summer_time (t : Instant) (hfirst : ¬t < (Date.newYear 2000).atHour 0)
    (hlast : t < (Date.newYear 2100).atHour 0) :
    ∃ spring autumn : Date, spring.IsLastSunday t.utc.date.civil.year 3 ∧
      autumn.IsLastSunday t.utc.date.civil.year 10 ∧
      (t.toLondon = t.utc.addSeconds 3600 ↔ ¬t < spring.atHour 1 ∧ t < autumn.atHour 1) ∧
      (¬(¬t < spring.atHour 1 ∧ t < autumn.atHour 1) → t.toLondon = t.utc) ∧
      t.toLondon.nano = t.utc.nano := by
  have hoffset := offsetAt_of_year (year_of_between hfirst hlast)
  refine ⟨_, _, Date.lastSunday_isLastSunday (by decide), Date.lastSunday_isLastSunday (by decide),
    ?_, ?_, rfl⟩
  · rw [← inSummer_iff]
    constructor
    · intro hahead
      by_contra hnot
      have hsecond := congrArg WallClock.epochSecond hahead
      rw [toLondon, hoffset, if_neg hnot, WallClock.epochSecond_addSeconds,
        WallClock.epochSecond_addSeconds] at hsecond
      omega
    · intro hsummer
      rw [toLondon, hoffset, if_pos hsummer]
  · intro hnot
    rw [← inSummer_iff] at hnot
    rw [toLondon, hoffset, if_neg hnot, WallClock.addSeconds_zero]

def lastOfWinter : Instant := ⟨{ date := ⟨19813⟩, second := 3599, nano := 999999999 }⟩

def firstOfSummer : Instant :=
  ⟨{ date := ⟨19813⟩, second := 3600, nano := 0, nano_lt := WallClock.zero_nano_lt }⟩

theorem toLondon_by_summer_time_march :
    (¬lastOfWinter < (Date.newYear 2000).atHour 0 ∧ lastOfWinter < (Date.newYear 2100).atHour 0 ∧
      lastOfWinter.toLondon = lastOfWinter.utc) ∧
    (¬firstOfSummer < (Date.newYear 2000).atHour 0 ∧
      firstOfSummer < (Date.newYear 2100).atHour 0 ∧
      firstOfSummer.toLondon = firstOfSummer.utc.addSeconds 3600) := by
  have hsunday : (Date.lastSunday 2024 3).IsLastSunday 2024 3 :=
    Date.lastSunday_isLastSunday (by decide)
  have hsunday' : (Date.lastSunday 2024 10).IsLastSunday 2024 10 :=
    Date.lastSunday_isLastSunday (by decide)
  constructor
  · have hfirst : ¬lastOfWinter < (Date.newYear 2000).atHour 0 := by decide
    have hlast : lastOfWinter < (Date.newYear 2100).atHour 0 := by decide
    obtain ⟨spring, autumn, hspring, -, -, hbehind, -⟩ :=
      toLondon_by_summer_time lastOfWinter hfirst hlast
    obtain rfl := hspring.unique hsunday
    exact ⟨hfirst, hlast, hbehind fun h => h.1 (by decide)⟩
  · have hfirst : ¬firstOfSummer < (Date.newYear 2000).atHour 0 := by decide
    have hlast : firstOfSummer < (Date.newYear 2100).atHour 0 := by decide
    obtain ⟨spring, autumn, hspring, hautumn, hahead, -, -⟩ :=
      toLondon_by_summer_time firstOfSummer hfirst hlast
    obtain rfl := hspring.unique hsunday
    obtain rfl := hautumn.unique hsunday'
    exact ⟨hfirst, hlast, hahead.mpr ⟨by decide, by decide⟩⟩

end Instant

end HearingSync
