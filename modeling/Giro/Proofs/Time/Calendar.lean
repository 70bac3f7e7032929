import Giro.Proofs.Text.Digits
import Giro.Time.Instant

/-!
# Dates and what they are called

Counted from the first of March, the years of an era of 400 are told from its days by leaving
the leap days out. That never goes back from one day to the next, so it is enough to look at
where the years meet. Year, month and day are then enough to tell the date.
-/

namespace Giro
namespace Date

/-- The days of an era before a day, without the leap days among them. -/
def leaplessDays (dayOfEra : Nat) : Nat :=
  dayOfEra - dayOfEra / 1460 + dayOfEra / 36524 - dayOfEra / 146096

/-- The days of an era before the first of March of a year. -/
def daysBeforeYear (yearOfEra : Nat) : Nat :=
  365 * yearOfEra + yearOfEra / 4 - yearOfEra / 100

theorem leaplessDays_mono : Monotone leaplessDays := by
  refine monotone_nat_of_le_succ fun dayOfEra => ?_
  rw [leaplessDays, leaplessDays]
  omega

theorem leaplessDays_meet :
    ∀ yearOfEra < 400,
      (0 < yearOfEra -> leaplessDays (daysBeforeYear yearOfEra - 1) / 365 < yearOfEra) ∧
        yearOfEra < leaplessDays (daysBeforeYear yearOfEra + 366) / 365 := by
  decide +kernel

/-- The year that a day of an era belongs to. -/
theorem daysBeforeYear_bounds {dayOfEra : Nat} (within : dayOfEra < 146097) :
    let yearOfEra := leaplessDays dayOfEra / 365
    yearOfEra < 400 ∧ daysBeforeYear yearOfEra <= dayOfEra ∧
      dayOfEra <= daysBeforeYear yearOfEra + 365 := by
  intro yearOfEra
  have ordered {other : Nat} (most : other <= dayOfEra) :
      leaplessDays other / 365 <= yearOfEra :=
    Nat.div_le_div_right (leaplessDays_mono most)
  have few : yearOfEra < 400 :=
    (Nat.div_le_div_right (leaplessDays_mono (Nat.le_of_lt_succ within))).trans_lt (by decide)
  obtain ⟨before, after⟩ := leaplessDays_meet yearOfEra few
  refine ⟨few, ?_, ?_⟩
  · by_contra! early
    have later : yearOfEra <= leaplessDays (daysBeforeYear yearOfEra - 1) / 365 :=
      Nat.div_le_div_right (leaplessDays_mono (Nat.le_sub_one_of_lt early))
    refine absurd (before ?_) (Nat.not_lt.mpr later)
    exact Nat.pos_of_ne_zero fun zero => Nat.not_lt_zero _ (by rwa [zero] at early)
  · by_contra! late
    exact absurd after (Nat.not_lt.mpr (ordered late))

/-- A day of a year, counted from the first of March, is in one of twelve months. -/
theorem daysBeforeMonth_bounds {dayOfYear : Nat} (within : dayOfYear <= 365) :
    let monthFromMarch := (5 * dayOfYear + 2) / 153
    monthFromMarch <= 11 ∧ daysBeforeMonth monthFromMarch <= dayOfYear ∧
      dayOfYear <= daysBeforeMonth monthFromMarch + 30 := by
  intro monthFromMarch
  rw [daysBeforeMonth]
  omega

/-- The years of past eras have all their leap days. -/
theorem daysOfYears (era : Int) {yearOfEra : Nat} (few : yearOfEra < 400) :
    365 * (era * 400 + yearOfEra) + (era * 400 + yearOfEra) / 4 -
          (era * 400 + yearOfEra) / 100 + (era * 400 + yearOfEra) / 400 =
      era * 146097 + daysBeforeYear yearOfEra := by
  have fours : (era * 400 + yearOfEra) / 4 = 100 * era + (yearOfEra : Int) / 4 := by omega
  have hundreds : (era * 400 + yearOfEra) / 100 = 4 * era + (yearOfEra : Int) / 100 := by omega
  have eras : (era * 400 + yearOfEra) / 400 = era := by omega
  rw [fours, hundreds, eras, daysBeforeYear]
  omega

/-- Month and day are small numbers, and the date is the one that they and the year name. -/
theorem toCivil_spec (date : Date) :
    ofCivil date.toCivil = date ∧ date.toCivil.month <= 12 ∧ date.toCivil.day <= 31 := by
  obtain ⟨day⟩ := date
  have within : ((day + 719468) % 146097).toNat < 146097 := by omega
  obtain ⟨few, lower, upper⟩ := daysBeforeYear_bounds within
  rw [toCivil]
  dsimp only
  rw [← leaplessDays, ← daysBeforeYear]
  have whole : day + 719468 =
      (day + 719468) / 146097 * 146097 + (((day + 719468) % 146097).toNat : Int) := by omega
  generalize (day + 719468) / 146097 = era at *
  generalize ((day + 719468) % 146097).toNat = dayOfEra at *
  generalize leaplessDays dayOfEra / 365 = yearOfEra at *
  obtain ⟨months, first, last⟩ := daysBeforeMonth_bounds (Nat.sub_le_iff_le_add'.mpr upper)
  have split : dayOfEra = daysBeforeYear yearOfEra + (dayOfEra - daysBeforeYear yearOfEra) :=
    (Nat.add_sub_cancel' lower).symm
  generalize dayOfEra - daysBeforeYear yearOfEra = dayOfYear at *
  generalize (5 * dayOfYear + 2) / 153 = monthFromMarch at *
  rw [ofCivil, Date.mk.injEq]
  dsimp only
  by_cases early : monthFromMarch < 10
  · have same : (monthFromMarch + 3 + 9) % 12 = monthFromMarch := by omega
    rw [if_pos early, if_neg (by omega), if_neg (by omega), same, daysOfYears era few]
    omega
  · have same : (monthFromMarch - 9 + 9) % 12 = monthFromMarch := by omega
    rw [if_neg early, if_pos (by omega), if_pos (by omega), same, add_sub_cancel_right,
      daysOfYears era few]
    omega

theorem toCivil_inj {left right : Date} : left.toCivil = right.toCivil ↔ left = right := by
  refine ⟨fun same => ?_, congrArg toCivil⟩
  rw [← (toCivil_spec left).1, same, (toCivil_spec right).1]

theorem toList_showYear (year : Int) :
    (showYear year).toList =
      (if 0 <= year ∧ year <= 9999 then [] else if year < 0 then ['-'] else ['+']) ++
        (Text.showPadded 4 year.natAbs).toList := by
  rw [showYear]
  simp only [Bool.and_eq_true, decide_eq_true_eq]
  split_ifs with short early
  · have same : year.toNat = year.natAbs := by omega
    rw [List.nil_append, same]
  · rw [String.toList_append]
    rfl
  · rw [String.toList_append]
    rfl

/-- A year without a sign has four digits. -/
theorem all_isDigit_showYear_iff (year : Int) :
    (showYear year).toList.all Char.isDigit = true ↔ 0 <= year ∧ year <= 9999 := by
  rw [toList_showYear, List.all_append, Text.all_isDigit_showPadded, Bool.and_true]
  split_ifs with short early
  · exact iff_of_true rfl short
  · exact iff_of_false (by decide) short
  · exact iff_of_false (by decide) short

/-- Years that are written the same are the same. -/
theorem showYear_inj {left right : Int} : showYear left = showYear right ↔ left = right := by
  refine ⟨fun same => ?_, congrArg showYear⟩
  have alike : (0 <= left ∧ left <= 9999) ↔ 0 <= right ∧ right <= 9999 := by
    rw [← all_isDigit_showYear_iff, same, all_isDigit_showYear_iff]
  have magnitude (digits : (Text.showPadded 4 left.natAbs).toList =
      (Text.showPadded 4 right.natAbs).toList) : left.natAbs = right.natAbs :=
    Text.showPadded_inj.mp (String.toList_inj.mp digits)
  have characters := congrArg String.toList same
  rw [toList_showYear, toList_showYear] at characters
  by_cases short : 0 <= left ∧ left <= 9999
  · rw [if_pos short, if_pos (alike.mp short), List.nil_append, List.nil_append] at characters
    have numbers := magnitude characters
    omega
  · rw [if_neg short, if_neg (alike.not.mp short)] at characters
    split_ifs at characters with leftEarly rightEarly rightEarly
    · have numbers := magnitude (List.append_cancel_left characters)
      omega
    · cases characters
    · cases characters
    · have numbers := magnitude (List.append_cancel_left characters)
      omega

end Date

namespace Instant

theorem secondOfDay_lt (instant : Instant) : instant.secondOfDay < 86400 := by
  rw [secondOfDay]
  omega

end Instant
end Giro
