import LogPipeline.Proofs.Time.Rfc3339

namespace LogPipeline.Rfc3339

open Number (isDigit)
open Timestamp (nanosPerSecond)

variable {t : Timestamp} {width n : Nat} {digits : List Char}

theorem trimStart_cons {c : Char} (solid : Text.isBlank c = false) (rest : List Char) :
    Text.trimStart (c :: rest) = c :: rest :=
  List.dropWhile_cons_of_neg (Bool.eq_false_iff.mp solid)

theorem Spells.exists_cons (spells : Spells width digits n) (some : 0 < width) :
    ∃ c more, digits = c :: more ∧ isDigit c = true := by
  cases digits with
  | nil => exact absurd spells.length (Nat.ne_of_lt some)
  | cons c more => exact ⟨c, more, rfl, spells.digital c List.mem_cons_self⟩

theorem Spells.spacedNumber? (spells : Spells width digits n) (some : 0 < width)
    (rest : List Char) : spacedNumber? width (digits ++ rest) = .some (n, rest) := by
  have start : Text.trimStart (digits ++ rest) = digits ++ rest := by
    obtain ⟨c, more, rfl, digit⟩ := spells.exists_cons some
    exact trimStart_cons (Number.isBlank_of_isDigit digit) _
  obtain ⟨rfl, digital, rfl⟩ := spells
  have all : digits.takeWhile isDigit = digits := List.takeWhile_eq_self_iff.mpr digital
  have enough : ¬ digits.length < 1 := Nat.not_lt.mpr some
  simp [Rfc3339.spacedNumber?, Rfc3339.number?, start, all, enough]

theorem Spells.spacedYear? (spells : Spells 4 digits n) (rest : List Char) :
    spacedYear? (digits ++ rest) = some ((n : Int), rest) := by
  have number := spells.spacedNumber? (by decide) rest
  obtain ⟨c, more, rfl, digit⟩ := spells.exists_cons (by decide)
  have start := trimStart_cons (Number.isBlank_of_isDigit digit) (more ++ rest)
  rw [Rfc3339.spacedNumber?] at number
  rw [Rfc3339.spacedYear?]
  split
  · rename_i signed
    cases (start.symm.trans signed)
    exact absurd digit (by decide)
  · rename_i signed
    cases (start.symm.trans signed)
    exact absurd digit (by decide)
  · rw [number]
    rfl

theorem spacedChar?_cons {c : Char} (solid : Text.isBlank c = false) (rest : List Char) :
    spacedChar? c (c :: rest) = some rest := by
  rw [spacedChar?, trimStart_cons solid, char?_cons]

theorem readLenient?_write (regular : t.Regular) (four : 0 ≤ t.year ∧ t.year ≤ 9999) :
    readLenient? (write "Z" t) = some t := by
  have two {n : Nat} (small : n < 100) (rest : List Char) :
      spacedNumber? 2 ((padded 2 n).toList ++ rest) = some (n, rest) :=
    (spells_padded (by decide) small).spacedNumber? (by decide) rest
  have year (rest : List Char) :
      spacedYear? ((padded 4 t.year.toNat).toList ++ rest) = some (t.year, rest) := by
    rw [(spells_padded (by decide) (by omega)).spacedYear? rest, Int.toNat_of_nonneg four.1]
  obtain ⟨month, day⟩ := Date.lt_hundred_of_isValid (Date.isValid_ofDayNumber t.dayNumber)
  have time := isValid_clockOf regular
  simp only [Clock.isValid, Bool.and_eq_true, decide_eq_true_eq] at time
  obtain ⟨⟨hour, minute⟩, second⟩ := time
  have nano : (clockOf t).nano < 10 ^ 9 := by
    simp only [clockOf, nanosPerSecond]
    omega
  have ends : EndsFraction "Z".toList := by
    rintro c ⟨⟩
    decide
  have dash (rest : List Char) : spacedChar? '-' ('-' :: rest) = some rest :=
    spacedChar?_cons (by decide) rest
  have colon (rest : List Char) : spacedChar? ':' (':' :: rest) = some rest :=
    spacedChar?_cons (by decide) rest
  rw [readLenient?, toList_write "Z" four]
  -- Each part is read in its turn, and what stands before the next one is passed over.
  refine Option.bind_eq_some_iff.mpr ⟨_, year _, ?_⟩
  refine Option.bind_eq_some_iff.mpr ⟨_, dash _, ?_⟩
  refine Option.bind_eq_some_iff.mpr ⟨_, two month _, ?_⟩
  refine Option.bind_eq_some_iff.mpr ⟨_, dash _, ?_⟩
  refine Option.bind_eq_some_iff.mpr ⟨_, two day _, ?_⟩
  refine Option.bind_eq_some_iff.mpr ⟨_, rfl, ?_⟩
  refine Option.bind_eq_some_iff.mpr ⟨_, two (Nat.lt_trans hour (by decide)) _, ?_⟩
  refine Option.bind_eq_some_iff.mpr ⟨_, colon _, ?_⟩
  refine Option.bind_eq_some_iff.mpr ⟨_, two (Nat.lt_trans minute (by decide)) _, ?_⟩
  refine Option.bind_eq_some_iff.mpr ⟨_, colon _, ?_⟩
  refine Option.bind_eq_some_iff.mpr ⟨_, two (Nat.lt_of_le_of_lt second (by decide)) _, ?_⟩
  refine Option.bind_eq_some_iff.mpr ⟨_, fraction?_fractionText nano ends, ?_⟩
  refine Option.bind_eq_some_iff.mpr ⟨(0, []), by decide, ?_⟩
  exact instant?_clockOf regular four

theorem regular_of_readLenient? {text : String} (read : readLenient? text = some t) :
    t.Regular := by
  -- The date and the time of day without its fraction are read in eleven steps.
  iterate 11 obtain ⟨_, -, read⟩ := Option.bind_eq_some_iff.mp read
  obtain ⟨_, fraction, read⟩ := Option.bind_eq_some_iff.mp read
  iterate 2 obtain ⟨_, -, read⟩ := Option.bind_eq_some_iff.mp read
  exact regular_of_instant? (lt_of_fraction? fraction) read

end LogPipeline.Rfc3339
