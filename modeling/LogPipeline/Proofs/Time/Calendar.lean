import LogPipeline.Proofs.Collections
import LogPipeline.Time.Calendar

namespace LogPipeline

/-! ## Years -/

theorem isLeapYear_iff (year : Int) :
    isLeapYear year = true ↔ year % 4 = 0 ∧ (year % 100 ≠ 0 ∨ year % 400 = 0) := by
  simp [isLeapYear]

theorem daysBeforeYear_succ (year : Int) :
    daysBeforeYear (year + 1) = daysBeforeYear year + (monthLengths year).sum := by
  have leap := isLeapYear_iff year
  by_cases longer : isLeapYear year = true
  · obtain ⟨four, others⟩ := leap.mp longer
    simp only [monthLengths, longer, if_true, List.sum_cons, List.sum_nil, daysBeforeYear]
    omega
  · have others := mt leap.mpr longer
    simp only [monthLengths, Bool.eq_false_iff.mpr longer, Bool.false_eq_true, if_false,
      List.sum_cons, List.sum_nil, daysBeforeYear]
    omega

theorem daysBeforeYear_mono {early late : Int} (order : early ≤ late) :
    daysBeforeYear early ≤ daysBeforeYear late := by
  simp only [daysBeforeYear]
  omega

theorem yearOfDay_spec (day : Int) :
    daysBeforeYear (Date.yearOfDay day) ≤ day ∧ day < daysBeforeYear (Date.yearOfDay day + 1) := by
  simp only [Date.yearOfDay]
  split
  · rename_i early
    rw [Int.sub_add_cancel]
    refine ⟨?_, early⟩
    simp only [daysBeforeYear]
    omega
  · rename_i notEarly
    split
    · rename_i late
      refine ⟨late, ?_⟩
      simp only [daysBeforeYear]
      omega
    · rename_i notLate
      exact ⟨Int.not_lt.mp notEarly, Int.not_le.mp notLate⟩

theorem yearOfDay_mem_iff (day first last : Int) :
    first ≤ Date.yearOfDay day ∧ Date.yearOfDay day ≤ last ↔
      daysBeforeYear first ≤ day ∧ day < daysBeforeYear (last + 1) := by
  obtain ⟨lower, upper⟩ := yearOfDay_spec day
  have before (year : Int) (early : Date.yearOfDay day < year) : day < daysBeforeYear year :=
    Int.lt_of_lt_of_le upper (daysBeforeYear_mono early)
  constructor
  · rintro ⟨since, until_⟩
    exact ⟨Int.le_trans (daysBeforeYear_mono since) lower, before _ (Int.lt_add_one_of_le until_)⟩
  · rintro ⟨since, until_⟩
    refine ⟨Int.not_lt.mp fun early => ?_, Int.not_lt.mp fun late => ?_⟩
    · exact Int.not_lt.mpr since (before first early)
    · exact Int.not_lt.mpr (Int.le_trans (daysBeforeYear_mono late) lower) until_

/-! ## Months -/

namespace Date

theorem splitMonths_spec {lengths : List Nat} {n : Nat} (within : n < lengths.sum) :
    (splitMonths lengths n).1 < lengths.length ∧
      (splitMonths lengths n).2 < lengths.getD (splitMonths lengths n).1 0 ∧
      (lengths.take (splitMonths lengths n).1).sum + (splitMonths lengths n).2 = n := by
  induction lengths generalizing n with
  | nil => exact absurd within (Nat.not_lt_zero n)
  | cons length rest ih =>
      rw [List.sum_cons] at within
      rw [splitMonths]
      split
      · rename_i here
        exact ⟨Nat.zero_lt_succ _, here, Nat.zero_add n⟩
      · rename_i later
        obtain ⟨among, inside, total⟩ := ih (n := n - length) (by omega)
        refine ⟨Nat.succ_lt_succ among, inside, ?_⟩
        simp only [List.take_succ_cons, List.sum_cons]
        omega

def dayInYear (day : Int) : Nat :=
  (day - daysBeforeYear (yearOfDay day)).toNat

theorem ofDayNumber_eq (day : Int) :
    ofDayNumber day = ⟨yearOfDay day,
      (splitMonths (monthLengths (yearOfDay day)) (dayInYear day)).1 + 1,
      (splitMonths (monthLengths (yearOfDay day)) (dayInYear day)).2 + 1⟩ := by
  simp only [ofDayNumber, dayInYear]

theorem dayInYear_lt (day : Int) : dayInYear day < (monthLengths (yearOfDay day)).sum := by
  obtain ⟨lower, upper⟩ := yearOfDay_spec day
  rw [daysBeforeYear_succ] at upper
  rw [dayInYear]
  omega

theorem isValid_ofDayNumber (day : Int) : (ofDayNumber day).isValid = true := by
  obtain ⟨among, inside, -⟩ := splitMonths_spec (dayInYear_lt day)
  have twelve : (monthLengths (yearOfDay day)).length = 12 := rfl
  rw [twelve] at among
  simp only [ofDayNumber_eq, isValid, Nat.add_sub_cancel, Bool.and_eq_true, decide_eq_true_eq]
  omega

theorem dayNumber_ofDayNumber (day : Int) : (ofDayNumber day).dayNumber = day := by
  obtain ⟨-, -, total⟩ := splitMonths_spec (dayInYear_lt day)
  have lower := (yearOfDay_spec day).1
  simp only [ofDayNumber_eq, dayNumber, Number.total_eq_sum, Nat.add_sub_cancel]
  rw [dayInYear] at total ⊢
  omega

theorem monthLength_le (year : Int) (month : Nat) : (monthLengths year).getD month 0 ≤ 31 := by
  have all : ∀ length ∈ monthLengths year, length ≤ 31 := by
    rw [monthLengths]
    split <;> decide
  rw [List.getD_eq_getElem?_getD]
  cases found : (monthLengths year)[month]? with
  | none => exact Nat.zero_le 31
  | some length => exact all length (List.mem_of_getElem? found)

theorem lt_hundred_of_isValid {d : Date} (valid : d.isValid = true) :
    d.month < 100 ∧ d.day < 100 := by
  have longest := monthLength_le d.year (d.month - 1)
  simp only [isValid, Bool.and_eq_true, decide_eq_true_eq] at valid
  omega

end Date

end LogPipeline
