import NodeFleet.Timestamp

/-!
# The calendar

Days are counted through eras of 400 years that start in March.  The year of a day is found by
a division, after the leap days before it were taken off (`evened`).  That this is the right year
need only be looked at for the first and the last day of each of the 400 years
(`evened_yearStart`), because days less leap days ascend (`evened_mono`).  So the date of a day
leads back to the day (`toDays_ofDays`).
-/

namespace NodeFleet.Timestamp

/-- Days from the start of an era to the start of one of its years. -/
def yearStart (year : Int) : Int := 365 * year + year / 4 - year / 100 + year / 400

/-- A day of an era less the leap days before it. -/
def evened (day : Int) : Int := day - day / 1460 + day / 36524 - day / 146096

theorem evened_mono {a b : Int} (h : a ≤ b) : evened a ≤ evened b := by
  unfold evened
  omega

theorem evened_yearStart : ∀ year : Fin 400, 365 * (year.val : Int) ≤ evened (yearStart year.val) ∧
    evened (yearStart (year.val + 1) - 1) < 365 * (year.val + 1 : Int) := by
  decide +kernel

theorem exists_year {day : Int} (hday : 0 ≤ day) (count : Nat) (h : day < yearStart count) :
    ∃ year < count, yearStart year ≤ day ∧ day < yearStart (year + 1) := by
  induction count with
  | zero => exact absurd hday (Int.not_le.2 h)
  | succ count ih =>
      by_cases hlt : day < yearStart count
      · obtain ⟨year, hyear, hstart⟩ := ih hlt
        exact ⟨year, Nat.lt_succ_of_lt hyear, hstart⟩
      · exact ⟨count, Nat.lt_succ_self count, Int.not_lt.1 hlt, h⟩

/-- The year of a day of an era. -/
theorem yearStart_evened {day : Int} (hday : 0 ≤ day) (hera : day < 146097) :
    0 ≤ evened day / 365 ∧ evened day / 365 < 400 ∧ yearStart (evened day / 365) ≤ day ∧
      day < yearStart (evened day / 365 + 1) := by
  obtain ⟨year, hyear, hstart, hend⟩ := exists_year hday 400 hera
  obtain ⟨hfirst, hlast⟩ := evened_yearStart ⟨year, hyear⟩
  have hlow : 365 * (year : Int) ≤ evened day := Int.le_trans hfirst (evened_mono hstart)
  have hhigh : evened day < 365 * (year + 1 : Int) :=
    Int.lt_of_le_of_lt (evened_mono (Int.le_sub_one_of_lt hend)) hlast
  have hsame : evened day / 365 = year := by omega
  rw [hsame]
  exact ⟨Int.natCast_nonneg year, Int.ofNat_lt.2 hyear, hstart, hend⟩

/-- No year has more than 366 days. -/
theorem yearStart_succ_le (year : Int) : yearStart (year + 1) ≤ yearStart year + 366 := by
  -- Every fourth end of a century is the end of an era.
  have hera (n : Int) : n / 400 = n / 100 / 4 := by omega
  have hcentury : year / 100 ≤ (year + 1) / 100 := by omega
  have hleap : (year + 1) / 4 ≤ year / 4 + 1 := by omega
  simp only [yearStart, hera]
  omega

/-- The days to a date whose month and year are counted from March. -/
theorem toDays_eq {era year month day : Int} (hyear : 0 ≤ year) (hless : year < 400)
    (hmonth : 0 ≤ month) (hlast : month < 12) (hday : 1 ≤ day) :
    let calendarMonth := if month < 10 then month + 3 else month - 9
    Date.toDays ⟨year + era * 400 + (if calendarMonth ≤ 2 then 1 else 0), calendarMonth.toNat,
        day.toNat⟩ =
      era * 146097 + (yearStart year + ((153 * month + 2) / 5 + day - 1)) - 719468 := by
  intro calendarMonth
  have hdays : (day.toNat : Int) = day := Int.toNat_of_nonneg (Int.le_trans (by decide) hday)
  have hera : (year + era * 400) / 400 = era := by omega
  have hyears : (year + era * 400) % 400 = year := by omega
  have hstart : yearStart year = year * 365 + year / 4 - year / 100 := by
    unfold yearStart
    omega
  by_cases hspring : month < 10
  · have hname : calendarMonth = month + 3 := if_pos hspring
    have hlate : ¬ (month + 3).toNat ≤ 2 := by omega
    have hback : (((month + 3).toNat + 9) % 12 : Nat) = month := by omega
    have hafter : ¬ month + 3 ≤ 2 := by omega
    simp only [Date.toDays, hname, hlate, hafter, if_false, hback, hdays, Int.add_zero, hera, hyears,
      hstart]
  · have hname : calendarMonth = month - 9 := if_neg hspring
    have hearly : (month - 9).toNat ≤ 2 := by omega
    have hback : (((month - 9).toNat + 9) % 12 : Nat) = month := by omega
    have hbefore : month - 9 ≤ 2 := by omega
    simp only [Date.toDays, hname, hearly, hbefore, if_true, hback, hdays, Int.add_sub_cancel, hera,
      hyears, hstart]

/-- The date of a day leads back to the day. -/
theorem toDays_ofDays (days : Int) : (Date.ofDays days).toDays = days := by
  obtain ⟨era, dayOfEra, hshifted, hday, hera⟩ : ∃ era dayOfEra : Int,
      days + 719468 = era * 146097 + dayOfEra ∧ 0 ≤ dayOfEra ∧ dayOfEra < 146097 :=
    ⟨(days + 719468) / 146097, (days + 719468) % 146097, by omega, by omega, by omega⟩
  have hquotient : (days + 719468) / 146097 = era := by omega
  have hremainder : (days + 719468) % 146097 = dayOfEra := by omega
  obtain ⟨hzero, hless, hstart, hend⟩ := yearStart_evened hday hera
  obtain ⟨year, hyear⟩ : ∃ year, evened dayOfEra / 365 = year := ⟨_, rfl⟩
  obtain ⟨dayOfYear, hdayOfYear⟩ : ∃ day, dayOfEra - yearStart year = day := ⟨_, rfl⟩
  obtain ⟨month, hmonth⟩ : ∃ month, (5 * dayOfYear + 2) / 153 = month := ⟨_, rfl⟩
  rw [hyear] at hzero hless hstart hend
  have hlast : dayOfYear < 366 := by
    have hlength := yearStart_succ_le year
    omega
  have hofYear : dayOfEra - (365 * year + year / 4 - year / 100) = dayOfYear := by
    unfold yearStart at hdayOfYear
    omega
  have htwelve : month < 12 := by omega
  have hmonths : 0 ≤ month := by omega
  have hfirst : 1 ≤ dayOfYear - (153 * month + 2) / 5 + 1 := by omega
  calc (Date.ofDays days).toDays
      = Date.toDays ⟨year + era * 400 + (if (if month < 10 then month + 3 else month - 9) ≤ 2
          then 1 else 0), (if month < 10 then month + 3 else month - 9).toNat,
          (dayOfYear - (153 * month + 2) / 5 + 1).toNat⟩ := by
        unfold evened at hyear
        simp only [Date.ofDays, hquotient, hremainder, hyear, hofYear, hmonth]
    _ = era * 146097 + (yearStart year + ((153 * month + 2) / 5 +
          (dayOfYear - (153 * month + 2) / 5 + 1) - 1)) - 719468 :=
        toDays_eq hzero hless hmonths htwelve hfirst
    _ = days := by omega

end NodeFleet.Timestamp
