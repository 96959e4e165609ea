import Mathlib.Algebra.GroupWithZero.Nat
import NotePager.Time.Calendar

/-!
# Days and their dates

Every day has one date, which is valid (`Date.isValid_ofDays`) and gives the day back
(`Date.toDays_ofDays`). The year is the one whose first day is not behind the day while that of the
next is (`Date.yearOf_bounds`), and in the year the months are walked through (`Date.monthOf_spec`).
-/

namespace NotePager.Date

/-! ## Years -/

/-- `yearOf` is the year that has begun by the day, while the next has not. -/
theorem yearOf_bounds (days : Int) :
    daysBeforeYear (yearOf days) ≤ days ∧ days < daysBeforeYear (yearOf days + 1) := by
  -- The quotient is at most one year short, as four centuries have 146097 days.
  have hquotient := Int.mul_ediv_self_le (x := 400 * (days - 2)) (k := 146097) (by decide)
  have hnext := Int.lt_mul_ediv_self_add (x := 400 * (days - 2)) (k := 146097) (by decide)
  simp only [yearOf]
  generalize 400 * (days - 2) / 146097 = year at hquotient hnext
  have hbegun : daysBeforeYear year ≤ days := by
    simp only [daysBeforeYear]
    omega
  have hover : days < daysBeforeYear (year + 2) := by
    simp only [daysBeforeYear]
    omega
  split
  · rename_i hshort
    refine ⟨hshort, ?_⟩
    rwa [Int.add_assoc]
  · rename_i hright
    exact ⟨hbegun, Int.not_le.1 hright⟩

/-- `daysBeforeYear` grows by the lengths of the months. -/
theorem daysBeforeYear_succ (year : Int) :
    daysBeforeYear (year + 1) = daysBeforeYear year + (monthLengths year).sum := by
  have hsum : ((monthLengths year).sum : Int) = if isLeapYear year then 366 else 365 := by
    simp only [monthLengths]
    split <;> rfl
  rw [hsum]
  by_cases hleap : isLeapYear year = true
  · rw [if_pos hleap]
    simp only [isLeapYear, Bool.and_eq_true, Bool.or_eq_true, beq_iff_eq, bne_iff_ne] at hleap
    simp only [daysBeforeYear]
    omega
  · rw [if_neg hleap]
    simp only [isLeapYear, Bool.and_eq_true, Bool.or_eq_true, beq_iff_eq, bne_iff_ne] at hleap
    simp only [daysBeforeYear]
    omega

/-- `daysBeforeYear` is monotone. -/
theorem daysBeforeYear_mono {year later : Int} (h : year ≤ later) :
    daysBeforeYear year ≤ daysBeforeYear later := by
  simp only [daysBeforeYear]
  omega

/-- Bounds on the year of a day, as bounds on the day. -/
theorem year_bounds_iff {days first past : Int} :
    first ≤ (ofDays days).year ∧ (ofDays days).year < past
      ↔ daysBeforeYear first ≤ days ∧ days < daysBeforeYear past := by
  show first ≤ yearOf days ∧ yearOf days < past ↔ _
  obtain ⟨hbegun, hover⟩ := yearOf_bounds days
  constructor
  · rintro ⟨hfirst, hpast⟩
    have hfirst := daysBeforeYear_mono hfirst
    have hpast := daysBeforeYear_mono (Int.add_one_le_of_lt hpast)
    omega
  · rintro ⟨hfirst, hpast⟩
    refine ⟨Int.not_lt.1 fun hless => ?_, Int.not_le.1 fun hmore => ?_⟩
    · have hless := daysBeforeYear_mono (Int.add_one_le_of_lt hless)
      omega
    · have hmore := daysBeforeYear_mono hmore
      omega

/-! ## Months -/

/-- `monthOf` ends in the month that holds the day, behind the months before it. -/
theorem monthOf_spec {lengths : List Nat} {index : Nat} (h : index < lengths.sum) (month : Nat) :
    ∃ passed < lengths.length, (monthOf lengths month index).1 = month + passed
      ∧ (monthOf lengths month index).2 < lengths.getD passed 0
      ∧ (lengths.take passed).sum + (monthOf lengths month index).2 = index := by
  induction lengths generalizing month index with
  | nil => cases h
  | cons length lengths ih =>
    rw [monthOf]
    by_cases hhere : index < length
    · rw [if_pos hhere]
      exact ⟨0, by simp, rfl, hhere, by simp⟩
    · rw [if_neg hhere]
      rw [List.sum_cons] at h
      obtain ⟨passed, hpassed, hmonth, hday, hsum⟩ :=
        ih (show index - length < lengths.sum by omega) (month + 1)
      refine ⟨passed + 1, Nat.succ_lt_succ hpassed, by omega, hday, ?_⟩
      rw [List.take_succ_cons, List.sum_cons]
      omega

/-- `monthLengths` are at most 31. -/
theorem monthLengths_le (year : Int) (passed : Nat) : (monthLengths year).getD passed 0 ≤ 31 := by
  have hall : ∀ length ∈ monthLengths year, length ≤ 31 := by
    simp only [monthLengths]
    split <;> decide
  rw [List.getD_eq_getElem?_getD]
  cases hlength : (monthLengths year)[passed]? with
  | none => exact Nat.zero_le 31
  | some length => exact hall length (List.mem_of_getElem? hlength)

/-! ## Dates -/

/-- The month and day of `ofDays`, by the months before them. -/
theorem ofDays_spec (days : Int) :
    ∃ passed < 12, (ofDays days).month = passed + 1
      ∧ (ofDays days).day ≤ (monthLengths (ofDays days).year).getD passed 0
      ∧ 1 ≤ (ofDays days).day
      ∧ daysBeforeYear (ofDays days).year
          + (((monthLengths (ofDays days).year).take passed).sum + (ofDays days).day : Nat)
        = days + 1 := by
  obtain ⟨hbegun, hover⟩ := yearOf_bounds days
  rw [daysBeforeYear_succ] at hover
  have hindex : (days - daysBeforeYear (yearOf days)).toNat < (monthLengths (yearOf days)).sum := by
    omega
  obtain ⟨passed, hpassed, hmonth, hday, hsum⟩ := monthOf_spec hindex 1
  refine ⟨passed, hpassed, hmonth.trans (Nat.add_comm 1 passed), hday, Nat.le_add_left 1 _, ?_⟩
  simp only [ofDays]
  omega

/-- `ofDays` is valid. -/
theorem isValid_ofDays (days : Int) : (ofDays days).isValid = true := by
  obtain ⟨passed, hpassed, hmonth, hday, hpos, -⟩ := ofDays_spec days
  rw [isValid, hmonth, Nat.add_sub_cancel, Bool.and_eq_true, Bool.and_eq_true]
  exact ⟨⟨decide_eq_true (Nat.le_add_left 1 passed), decide_eq_true hpos⟩, decide_eq_true hday⟩

/-- `toDays` reads back `ofDays`. -/
theorem toDays_ofDays (days : Int) : (ofDays days).toDays = days := by
  obtain ⟨passed, -, hmonth, -, -, hsum⟩ := ofDays_spec days
  have hfold (lengths : List Nat) : lengths.foldl Nat.add 0 = lengths.sum :=
    List.sum_eq_foldl_nat.symm
  rw [toDays, hmonth, Nat.add_sub_cancel, hfold]
  omega

end NotePager.Date
