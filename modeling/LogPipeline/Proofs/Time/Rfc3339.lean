import Mathlib.Data.Option.Basic
import LogPipeline.Proofs.Number.Decimal
import LogPipeline.Proofs.Time.Calendar
import LogPipeline.Proofs.Time.Timestamp
import LogPipeline.Time.Rfc3339

namespace LogPipeline

open Number (isDigit digitsValue)

/-! ## Digits -/

namespace Number

theorem isDigit_of_mem_toDigits {n : Nat} {c : Char} (member : c ∈ Nat.toDigits 10 n) :
    isDigit c = true := by
  have digit := Nat.isDigit_of_mem_toDigits (by decide) (by decide) member
  simpa [isDigit, Char.isDigit, Char.le_def] using digit

theorem digitsValue_toDigits (n : Nat) : digitsValue (Nat.toDigits 10 n) = n := by
  have value := Nat.ofDigitChars_ten_toDigits (n := n)
  simpa only [Nat.ofDigitChars, digitsValue, Nat.mul_comm] using value

theorem digitsValue_zeros (count : Nat) (digits : List Char) :
    digitsValue (List.replicate count '0' ++ digits) = digitsValue digits := by
  induction count with
  | zero => rfl
  | succ count ih => exact ih

theorem digitsValue_lt {digits : List Char} (digital : ∀ c ∈ digits, isDigit c = true) :
    digitsValue digits < 10 ^ digits.length := by
  induction digits using List.reverseRecOn with
  | nil => exact Nat.one_pos
  | append_singleton digits c ih =>
      obtain ⟨before, last⟩ := List.forall_mem_append.mp digital
      have digit : 48 ≤ c.toNat ∧ c.toNat ≤ 57 := by
        simpa [isDigit, Char.le_def, UInt32.le_iff_toNat_le] using last c List.mem_cons_self
      have zero : '0'.toNat = 48 := rfl
      have front := ih before
      rw [digitsValue_concat, List.length_append, List.length_singleton, Nat.pow_succ, zero]
      omega

end Number

namespace Rfc3339

structure Spells (width : Nat) (digits : List Char) (n : Nat) : Prop where
  length : digits.length = width
  digital : ∀ c ∈ digits, isDigit c = true
  value : digitsValue digits = n

theorem spells_padded {width n : Nat} (positive : 0 < width) (small : n < 10 ^ width) :
    Spells width (padded width n).toList n := by
  have short : (Nat.toDigits 10 n).length ≤ width :=
    (Nat.length_toDigits_le_iff (by decide) positive).mpr small
  have text : (padded width n).toList =
      List.replicate (width - (Nat.toDigits 10 n).length) '0' ++ Nat.toDigits 10 n := by
    simp only [padded, Nat.toString_eq_ofList_toDigits, String.toList_append, String.toList_ofList,
      String.length_ofList]
  rw [text]
  refine ⟨?_, List.forall_mem_append.mpr ⟨?_, fun c => Number.isDigit_of_mem_toDigits⟩, ?_⟩
  · rw [List.length_append, List.length_replicate, Nat.sub_add_cancel short]
  · intro c member
    rw [List.eq_of_mem_replicate member]
    rfl
  · rw [Number.digitsValue_zeros, Number.digitsValue_toDigits]

variable {width n : Nat} {digits : List Char}

theorem Spells.number? (spells : Spells width digits n) (rest : List Char) :
    number? width width (digits ++ rest) = some (n, rest) := by
  obtain ⟨rfl, digital, rfl⟩ := spells
  have all : digits.takeWhile isDigit = digits := List.takeWhile_eq_self_iff.mpr digital
  simp [Rfc3339.number?, all]

theorem char?_cons (c : Char) (rest : List Char) : char? c (c :: rest) = some rest :=
  if_pos rfl

/-! ## Fractions -/

def EndsFraction (rest : List Char) : Prop :=
  ∀ c ∈ rest.head?, isDigit c = false ∧ c ≠ '.'

theorem takeWhile_of_ends {rest : List Char} (ends : EndsFraction rest)
    (digital : ∀ c ∈ digits, isDigit c = true) : (digits ++ rest).takeWhile isDigit = digits := by
  rw [List.takeWhile_append_of_pos digital]
  cases rest with
  | nil => exact List.append_nil _
  | cons c rest =>
      rw [List.takeWhile_cons_of_neg (by simp [(ends c rfl).1]), List.append_nil]

theorem Spells.fraction? {rest : List Char} (spells : Spells width digits n) (some : 0 < width)
    (most : width ≤ 9) (ends : EndsFraction rest) :
    fraction? ('.' :: digits ++ rest) = .some (n * 10 ^ (9 - width), rest) := by
  obtain ⟨rfl, digital, rfl⟩ := spells
  have nonempty : digits.isEmpty = false := by simpa using List.ne_nil_of_length_pos some
  simp only [Rfc3339.fraction?, List.cons_append, takeWhile_of_ends ends digital,
    List.take_of_length_le most, nonempty, Bool.false_eq_true, if_false, List.drop_left]
  rfl

theorem fraction?_of_ends {rest : List Char} (ends : EndsFraction rest) :
    fraction? rest = some (0, rest) := by
  cases rest with
  | nil => rfl
  | cons c rest =>
      rw [Rfc3339.fraction?]
      rintro _ ⟨⟩
      exact (ends '.' rfl).2 rfl

theorem fraction?_fractionText {nano : Nat} (small : nano < 10 ^ 9) {rest : List Char}
    (ends : EndsFraction rest) :
    fraction? ((fractionText nano).toList ++ rest) = some (nano, rest) := by
  have point (width : Nat) (value : Nat) :
      ("." ++ padded width value).toList = '.' :: (padded width value).toList := by
    rw [String.toList_append]
    rfl
  rw [fractionText]
  split
  · rename_i none
    rw [none]
    exact fraction?_of_ends ends
  · split
    · rename_i millis
      rw [point, (spells_padded (by decide) (by omega)).fraction? (by decide) (by decide) ends]
      simp only [Option.some.injEq, Prod.mk.injEq, and_true]
      omega
    · split
      · rename_i micros
        rw [point, (spells_padded (by decide) (by omega)).fraction? (by decide) (by decide) ends]
        simp only [Option.some.injEq, Prod.mk.injEq, and_true]
        omega
      · rw [point, (spells_padded (by decide) small).fraction? (by decide) (by decide) ends]
        simp only [Option.some.injEq, Prod.mk.injEq, and_true]
        omega

/-! ## Instants -/

end Rfc3339

namespace Timestamp

def dayNumber (t : Timestamp) : Int :=
  t.second / 86400 + epochDay

def year (t : Timestamp) : Int :=
  (Date.ofDayNumber t.dayNumber).year

/-- An instant that can be kept, with a fraction of more than a second only in a leap second, which
ends a minute. -/
structure Regular (t : Timestamp) : Prop where
  inRange : t.inRange = true
  nano : t.nano < 2 * nanosPerSecond
  leap : nanosPerSecond ≤ t.nano → t.second % 60 = 59

theorem checked_of_inRange {t : Timestamp} (kept : t.inRange = true) : t.checked = some t :=
  if_pos kept

theorem inRange_of_checked {t kept : Timestamp} (made : t.checked = some kept) :
    t.inRange = true := by
  rw [checked] at made
  split at made
  · assumption
  · cases made

theorem year_mem_iff (t : Timestamp) :
    0 ≤ t.year ∧ t.year ≤ 9999 ↔ -62167219200 ≤ t.second ∧ t.second < 253402300800 := by
  have first : daysBeforeYear 0 = 0 := by decide
  have last : daysBeforeYear (9999 + 1) = 3652425 := by decide
  rw [year, Date.ofDayNumber_eq, yearOfDay_mem_iff, first, last, dayNumber, epochDay]
  omega

end Timestamp

namespace Rfc3339

open Timestamp (nanosPerSecond)

variable {t : Timestamp}

def clockOf (t : Timestamp) : Clock :=
  let inDay := (t.second % 86400).toNat
  ⟨inDay / 3600, inDay / 60 % 60, inDay % 60 + t.nano / nanosPerSecond, t.nano % nanosPerSecond⟩

theorem leap_of_regular (regular : t.Regular) :
    t.nano / nanosPerSecond = 0 ∨
      t.nano / nanosPerSecond = 1 ∧ (t.second % 86400).toNat % 60 = 59 := by
  have nano := regular.nano
  have leap := regular.leap
  simp only [nanosPerSecond] at nano leap ⊢
  omega

theorem isValid_clockOf (regular : t.Regular) : (clockOf t).isValid = true := by
  have leap := leap_of_regular regular
  have hour : (clockOf t).hour < 24 := by simp only [clockOf]; omega
  have minute : (clockOf t).minute < 60 := by simp only [clockOf]; omega
  have second : (clockOf t).second ≤ 60 := by simp only [clockOf]; omega
  simp only [Clock.isValid, hour, minute, second, decide_true, Bool.and_self]

theorem instant?_clockOf (regular : t.Regular) (four : 0 ≤ t.year ∧ t.year ≤ 9999) :
    instant? (Date.ofDayNumber t.dayNumber) (clockOf t) 0 = some t := by
  have within : Timestamp.firstYear ≤ (Date.ofDayNumber t.dayNumber).year ∧
      (Date.ofDayNumber t.dayNumber).year ≤ Timestamp.lastYear :=
    ⟨Int.le_trans (by decide) four.1, Int.le_trans four.2 (by decide)⟩
  have leap := leap_of_regular regular
  have second : (t.dayNumber - Timestamp.epochDay) * 86400 +
      ((clockOf t).hour * 3600 + (clockOf t).minute * 60 +
        ((clockOf t).second - (clockOf t).second / 60) : Nat) - 0 * 60 = t.second := by
    simp only [clockOf, Timestamp.dayNumber]
    omega
  have nano : (clockOf t).nano + (clockOf t).second / 60 * nanosPerSecond = t.nano := by
    simp only [clockOf, nanosPerSecond] at leap ⊢
    omega
  simp only [instant?, Date.isValid_ofDayNumber, isValid_clockOf regular, within,
    Date.dayNumber_ofDayNumber, second, nano]
  exact Timestamp.checked_of_inRange regular.inRange

theorem toList_write (zone : String) (four : 0 ≤ t.year ∧ t.year ≤ 9999) :
    (write zone t).toList =
      (padded 4 t.year.toNat).toList ++ '-' ::
        ((padded 2 (Date.ofDayNumber t.dayNumber).month).toList ++ '-' ::
          ((padded 2 (Date.ofDayNumber t.dayNumber).day).toList ++ 'T' ::
            ((padded 2 (clockOf t).hour).toList ++ ':' ::
              ((padded 2 (clockOf t).minute).toList ++ ':' ::
                ((padded 2 (clockOf t).second).toList ++
                  ((fractionText (clockOf t).nano).toList ++ zone.toList)))))) := by
  have year : yearText t.year = padded 4 t.year.toNat := if_pos four
  have parts : write zone t = yearText t.year ++ "-" ++
      padded 2 (Date.ofDayNumber t.dayNumber).month ++ "-" ++
      padded 2 (Date.ofDayNumber t.dayNumber).day ++ "T" ++ padded 2 (clockOf t).hour ++ ":" ++
      padded 2 (clockOf t).minute ++ ":" ++ padded 2 (clockOf t).second ++
      fractionText (clockOf t).nano ++ zone := rfl
  rw [parts, year]
  simp only [String.toList_append, List.append_assoc, String.reduceToList, List.cons_append,
    List.nil_append]

theorem read?_write (regular : t.Regular) (four : 0 ≤ t.year ∧ t.year ≤ 9999) {zone : String}
    (universal : offset? (char? ':') zone.toList = some (0, [])) (ends : EndsFraction zone.toList) :
    read? (write zone t) = some t := by
  have two {n : Nat} (small : n < 100) (rest : List Char) :
      number? 2 2 ((padded 2 n).toList ++ rest) = some (n, rest) :=
    (spells_padded (by decide) small).number? rest
  have year (rest : List Char) :
      number? 4 4 ((padded 4 t.year.toNat).toList ++ rest) = some (t.year.toNat, rest) :=
    (spells_padded (by decide) (by omega)).number? rest
  obtain ⟨month, day⟩ := Date.lt_hundred_of_isValid (Date.isValid_ofDayNumber t.dayNumber)
  have time := isValid_clockOf regular
  simp only [Clock.isValid, Bool.and_eq_true, decide_eq_true_eq] at time
  obtain ⟨⟨hour, minute⟩, second⟩ := time
  have nano : (clockOf t).nano < 10 ^ 9 := by
    simp only [clockOf, nanosPerSecond]
    omega
  have date : (⟨(t.year.toNat : Int), (Date.ofDayNumber t.dayNumber).month,
      (Date.ofDayNumber t.dayNumber).day⟩ : Date) = Date.ofDayNumber t.dayNumber := by
    rw [Int.toNat_of_nonneg four.1]
    rfl
  rw [read?, toList_write zone four]
  -- Each part is read in its turn, and what stands before the next one is passed over.
  refine Option.bind_eq_some_iff.mpr ⟨_, year _, ?_⟩
  refine Option.bind_eq_some_iff.mpr ⟨_, char?_cons '-' _, ?_⟩
  refine Option.bind_eq_some_iff.mpr ⟨_, two month _, ?_⟩
  refine Option.bind_eq_some_iff.mpr ⟨_, char?_cons '-' _, ?_⟩
  refine Option.bind_eq_some_iff.mpr ⟨_, two day _, ?_⟩
  refine Option.bind_eq_some_iff.mpr ⟨_, rfl, ?_⟩
  refine Option.bind_eq_some_iff.mpr ⟨_, two (Nat.lt_trans hour (by decide)) _, ?_⟩
  refine Option.bind_eq_some_iff.mpr ⟨_, char?_cons ':' _, ?_⟩
  refine Option.bind_eq_some_iff.mpr ⟨_, two (Nat.lt_trans minute (by decide)) _, ?_⟩
  refine Option.bind_eq_some_iff.mpr ⟨_, char?_cons ':' _, ?_⟩
  refine Option.bind_eq_some_iff.mpr ⟨_, two (Nat.lt_of_le_of_lt second (by decide)) _, ?_⟩
  refine Option.bind_eq_some_iff.mpr ⟨_, fraction?_fractionText nano ends, ?_⟩
  refine Option.bind_eq_some_iff.mpr ⟨_, universal, ?_⟩
  rw [date]
  exact instant?_clockOf regular four

theorem exists_sign (zone : String) (other : ¬ (0 ≤ t.year ∧ t.year ≤ 9999)) :
    ∃ sign rest, (write zone t).toList = sign :: rest ∧ isDigit sign = false := by
  obtain ⟨rest, text⟩ : ∃ rest, (write zone t).toList = (yearText t.year).toList ++ rest := by
    simp only [write, String.toList_append, List.append_assoc]
    exact ⟨_, rfl⟩
  rw [text, yearText, if_neg other]
  split
  · exact ⟨'-', _, by rw [String.toList_append]; rfl, by decide⟩
  · exact ⟨'+', _, by rw [String.toList_append]; rfl, by decide⟩

theorem read?_write_eq_none (zone : String) (other : ¬ (0 ≤ t.year ∧ t.year ≤ 9999)) :
    read? (write zone t) = none := by
  obtain ⟨sign, rest, text, undigital⟩ := exists_sign zone other
  have unread : number? 4 4 (sign :: rest) = none := by
    simp [number?, undigital]
  rw [read?, text, unread]
  rfl

/-! ## What is read -/

theorem lt_of_fraction? {cs rest : List Char} {nano : Nat}
    (read : fraction? cs = some (nano, rest)) : nano < nanosPerSecond := by
  rw [fraction?.eq_def] at read
  split at read
  · rename_i after
    dsimp only at read
    split at read
    · cases read
    · cases read
      have digital : ∀ c ∈ (after.takeWhile isDigit).take 9, isDigit c = true :=
        fun c member => List.mem_takeWhile_imp (List.mem_of_mem_take member)
      have value := Number.digitsValue_lt digital
      have most : ((after.takeWhile isDigit).take 9).length ≤ 9 := List.length_take_le _ _
      generalize (after.takeWhile isDigit).take 9 = used at value most
      calc digitsValue used * 10 ^ (9 - used.length)
          < 10 ^ used.length * 10 ^ (9 - used.length) :=
            Nat.mul_lt_mul_of_pos_right value (Nat.pow_pos (by decide))
        _ = nanosPerSecond := by rw [← Nat.pow_add, Nat.add_sub_cancel' most]; rfl
  · cases read
    exact by decide

theorem regular_of_instant? {date : Date} {clock : Clock} {ahead : Int}
    (nano : clock.nano < nanosPerSecond) (read : instant? date clock ahead = some t) :
    t.Regular := by
  simp only [instant?, guard, Option.bind_eq_bind, Option.bind_eq_some_iff] at read
  obtain ⟨_, -, _, valid, made⟩ := read
  have second : clock.second ≤ 60 := by
    by_contra far
    simp [Clock.isValid, far] at valid
  obtain rfl := Timestamp.eq_of_checked made
  refine ⟨Timestamp.inRange_of_checked made, ?_, ?_⟩
  · simp only [nanosPerSecond] at nano ⊢
    omega
  · intro leap
    have last : clock.second = 60 := by
      simp only [nanosPerSecond] at nano leap
      omega
    simp only [last]
    omega

theorem regular_of_read? {text : String} (read : read? text = some t) : t.Regular := by
  -- The date and the time of day without its fraction are read in eleven steps.
  iterate 11 obtain ⟨_, -, read⟩ := Option.bind_eq_some_iff.mp read
  obtain ⟨_, fraction, read⟩ := Option.bind_eq_some_iff.mp read
  iterate 2 obtain ⟨_, -, read⟩ := Option.bind_eq_some_iff.mp read
  exact regular_of_instant? (lt_of_fraction? fraction) read

end Rfc3339

end LogPipeline
