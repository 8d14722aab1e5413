import Mathlib.Algebra.Ring.Nat
import Mathlib.Data.List.DropRight
import LogPipeline.Log.Instant
import LogPipeline.Text.Blank

namespace LogPipeline

namespace Text

theorem dropWhile_padded {front body : List Char} (rest : List Char)
    (before : ∀ c ∈ front, isBlank c = true) (solid : ∀ c ∈ body, isBlank c = false)
    (some : body ≠ []) : (front ++ (body ++ rest)).dropWhile isBlank = body ++ rest := by
  rw [List.dropWhile_append_of_pos before]
  cases body with
  | nil => exact absurd rfl some
  | cons first body =>
      exact List.dropWhile_cons_of_neg (Bool.eq_false_iff.mp (solid first List.mem_cons_self))

theorem trim_padded {front body back : List Char} (before : ∀ c ∈ front, isBlank c = true)
    (solid : ∀ c ∈ body, isBlank c = false) (some : body ≠ [])
    (behind : ∀ c ∈ back, isBlank c = true) : trim (front ++ body ++ back) = body := by
  have turned : (back.reverse ++ (body.reverse ++ [])).dropWhile isBlank = body.reverse ++ [] :=
    dropWhile_padded [] (by simpa using behind) (by simpa using solid) (by simpa using some)
  rw [List.append_nil] at turned
  rw [trim, List.append_assoc, dropWhile_padded back before solid some, List.reverse_append, turned,
    List.reverse_reverse]

theorem exists_padding (s : List Char) :
    ∃ front back, s = front ++ trim s ++ back ∧ (∀ c ∈ front, isBlank c = true) ∧
      ∀ c ∈ back, isBlank c = true := by
  refine ⟨s.takeWhile isBlank, (s.dropWhile isBlank).rtakeWhile isBlank, ?_,
    fun _ => List.mem_takeWhile_imp, fun _ => List.mem_rtakeWhile_imp⟩
  have trimmed : trim s = (s.dropWhile isBlank).rdropWhile isBlank := rfl
  rw [trimmed, List.append_assoc, List.rdropWhile_append_rtakeWhile,
    List.takeWhile_append_dropWhile]

end Text

namespace Number

def IsNumeral (digits : List Char) : Prop :=
  digits ≠ [] ∧ ∀ c ∈ digits, isDigit c = true

inductive Writes : List Char → Int → Prop where
  | plain {digits : List Char} (numeral : IsNumeral digits) : Writes digits (digitsValue digits)
  | plus {digits : List Char} (numeral : IsNumeral digits) :
    Writes ('+' :: digits) (digitsValue digits)
  | minus {digits : List Char} (numeral : IsNumeral digits) :
    Writes ('-' :: digits) (-digitsValue digits)

theorem ofDigits?_eq_some_iff {digits : List Char} {n : Nat} :
    ofDigits? digits = some n ↔ IsNumeral digits ∧ digitsValue digits = n := by
  simp [ofDigits?, IsNumeral]

theorem isNumeral_of_map {digits : List Char} {f : Nat → Int} {n : Int}
    (read : (ofDigits? digits).map f = some n) : IsNumeral digits ∧ n = f (digitsValue digits) := by
  obtain ⟨value, known, rfl⟩ := Option.map_eq_some_iff.mp read
  obtain ⟨numeral, rfl⟩ := ofDigits?_eq_some_iff.mp known
  exact ⟨numeral, rfl⟩

theorem readInteger?_eq_some_iff {text : String} {n : Int} :
    readInteger? text = some n ↔ Writes text.toList n := by
  unfold readInteger?
  generalize text.toList = characters
  constructor
  · intro read
    split at read
    · obtain ⟨_, known, rfl⟩ := Option.map_eq_some_iff.mp read
      obtain ⟨numeral, rfl⟩ := isNumeral_of_map (Option.map_eq_bind.trans known)
      exact .minus numeral
    · obtain ⟨numeral, rfl⟩ := isNumeral_of_map read
      exact .plus numeral
    · obtain ⟨numeral, rfl⟩ := isNumeral_of_map read
      exact .plain numeral
  · intro writes
    cases writes with
    | plain numeral =>
        split
        · exact absurd (numeral.2 '-' List.mem_cons_self) (by decide)
        · exact absurd (numeral.2 '+' List.mem_cons_self) (by decide)
        · rw [ofDigits?_eq_some_iff.mpr ⟨numeral, rfl⟩]
          rfl
    | plus numeral =>
        change Option.map Int.ofNat (ofDigits? _) = _
        rw [ofDigits?_eq_some_iff.mpr ⟨numeral, rfl⟩]
        rfl
    | minus numeral =>
        change Option.map (fun n : Int => -n) (ofDigits? _ >>= fun n => pure (n : Int)) = _
        rw [ofDigits?_eq_some_iff.mpr ⟨numeral, rfl⟩]
        rfl

def StatesInt64 (text : String) (n : Int) : Prop :=
  (∃ front body back, text.toList = front ++ body ++ back ∧
    (∀ c ∈ front, Text.isBlank c = true) ∧ (∀ c ∈ back, Text.isBlank c = true) ∧
    Writes body n) ∧ -9223372036854775808 ≤ n ∧ n < 9223372036854775808

theorem isBlank_of_isDigit {c : Char} (digit : isDigit c = true) : Text.isBlank c = false := by
  have range : 48 ≤ c.toNat ∧ c.toNat ≤ 57 := by
    simpa [isDigit, Char.le_def, UInt32.le_iff_toNat_le] using digit
  simp only [Text.isBlank, Bool.or_eq_false_iff, Bool.and_eq_false_iff, decide_eq_false_iff_not,
    beq_eq_false_iff_ne]
  omega

theorem Writes.solid {body : List Char} {n : Int} (writes : Writes body n) :
    body ≠ [] ∧ ∀ c ∈ body, Text.isBlank c = false := by
  have digital : ∀ {digits : List Char}, IsNumeral digits → ∀ c ∈ digits, Text.isBlank c = false :=
    fun numeral c member => isBlank_of_isDigit (numeral.2 c member)
  cases writes with
  | plain numeral => exact ⟨numeral.1, digital numeral⟩
  | plus numeral =>
      exact ⟨List.cons_ne_nil _ _, List.forall_mem_cons.mpr ⟨by decide, digital numeral⟩⟩
  | minus numeral =>
      exact ⟨List.cons_ne_nil _ _, List.forall_mem_cons.mpr ⟨by decide, digital numeral⟩⟩

theorem Writes.sign_or_isDigit {body : List Char} {n : Int} (writes : Writes body n) :
    ∀ c ∈ body, c = '+' ∨ c = '-' ∨ isDigit c = true := by
  cases writes with
  | plain numeral => exact fun c member => .inr (.inr (numeral.2 c member))
  | plus numeral =>
      exact List.forall_mem_cons.mpr
        ⟨.inl rfl, fun c member => .inr (.inr (numeral.2 c member))⟩
  | minus numeral =>
      exact List.forall_mem_cons.mpr
        ⟨.inr (.inl rfl), fun c member => .inr (.inr (numeral.2 c member))⟩

theorem writes_trim_iff {text : List Char} {n : Int} : Writes (Text.trim text) n ↔
    ∃ front body back, text = front ++ body ++ back ∧ (∀ c ∈ front, Text.isBlank c = true) ∧
      (∀ c ∈ back, Text.isBlank c = true) ∧ Writes body n := by
  constructor
  · intro writes
    obtain ⟨front, back, split, before, behind⟩ := Text.exists_padding text
    exact ⟨front, _, back, split, before, behind, writes⟩
  · rintro ⟨front, body, back, rfl, before, behind, writes⟩
    obtain ⟨some, solid⟩ := writes.solid
    rwa [Text.trim_padded before solid some behind]

theorem readInt64?_trim_eq_some_iff {text : String} {n : Int} :
    readInt64? (String.ofList (Text.trim text.toList)) = some n ↔ StatesInt64 text n := by
  have read : readInt64? (String.ofList (Text.trim text.toList)) = some n ↔
      readInteger? (String.ofList (Text.trim text.toList)) = some n ∧
        -9223372036854775808 ≤ n ∧ n < 9223372036854775808 := by
    simp [readInt64?, Option.bind_eq_some_iff, guard]
  rw [read, readInteger?_eq_some_iff, String.toList_ofList, writes_trim_iff]
  rfl

/-! ## Texts that go on -/

theorem digitsValue_concat (digits : List Char) (c : Char) :
    digitsValue (digits ++ [c]) = digitsValue digits * 10 + (c.toNat - '0'.toNat) := by
  rw [digitsValue, List.foldl_concat, ← digitsValue]

theorem digitsValue_append (digits more : List Char) :
    digitsValue (digits ++ more) = digitsValue digits * 10 ^ more.length + digitsValue more := by
  induction more using List.reverseRecOn with
  | nil => simp [digitsValue]
  | append_singleton more c ih =>
      rw [← List.append_assoc, digitsValue_concat, digitsValue_concat, ih, List.length_append,
        List.length_singleton, Nat.pow_succ, Nat.add_mul, Nat.mul_assoc, Nat.add_assoc]

theorem IsNumeral.not_sign {rest : List Char} :
    ¬ IsNumeral ('+' :: rest) ∧ ¬ IsNumeral ('-' :: rest) :=
  ⟨fun numeral => absurd (numeral.2 _ List.mem_cons_self) (by decide),
    fun numeral => absurd (numeral.2 _ List.mem_cons_self) (by decide)⟩

theorem IsNumeral.extend {digits more : List Char} (longer : IsNumeral (digits ++ more)) :
    (∀ c ∈ more, isDigit c = true) ∧
      digitsValue (digits ++ more) = digitsValue digits * 10 ^ more.length + digitsValue more :=
  ⟨fun c member => longer.2 c (List.mem_append_right digits member), digitsValue_append digits more⟩

theorem Writes.extend {body more : List Char} {n m : Int} (writes : Writes body n)
    (longer : Writes (body ++ more) m) : (∀ c ∈ more, isDigit c = true) ∧
      m.natAbs = n.natAbs * 10 ^ more.length + digitsValue more := by
  cases writes with
  | plain numeral =>
      cases body with
      | nil => exact absurd rfl numeral.1
      | cons first rest =>
          generalize whole : first :: rest ++ more = text at longer
          cases longer with
          | plain longer =>
              subst whole
              exact longer.extend
          | plus =>
              cases whole
              exact absurd numeral IsNumeral.not_sign.1
          | minus =>
              cases whole
              exact absurd numeral IsNumeral.not_sign.2
  | plus numeral =>
      cases longer with
      | plain longer => exact absurd longer IsNumeral.not_sign.1
      | plus longer => exact longer.extend
  | minus numeral =>
      cases longer with
      | plain longer => exact absurd longer IsNumeral.not_sign.2
      | minus longer => simpa using longer.extend

theorem takeWhile_solid {solid rest : List Char} (before : ∀ c ∈ solid, Text.isBlank c = false) :
    (solid ++ rest).takeWhile (! Text.isBlank ·) =
      solid ++ rest.takeWhile (! Text.isBlank ·) :=
  List.takeWhile_append_of_pos fun c member => by simp [before c member]

theorem takeWhile_blank {blanks : List Char} (blank : ∀ c ∈ blanks, Text.isBlank c = true) :
    blanks.takeWhile (! Text.isBlank ·) = [] := by
  cases blanks with
  | nil => rfl
  | cons c rest => simp [blank c List.mem_cons_self]

theorem StatesInt64.extend {text longer : String} {more : List Char} {n m : Int}
    (whole : longer.toList = text.toList ++ more) (states : StatesInt64 text n)
    (also : StatesInt64 longer m) :
    ∃ digits blanks, more = digits ++ blanks ∧ (∀ c ∈ digits, isDigit c = true) ∧
      (∀ c ∈ blanks, Text.isBlank c = true) ∧
      m.natAbs = n.natAbs * 10 ^ digits.length + digitsValue digits := by
  obtain ⟨⟨front, body, back, split, before, behind, writes⟩, -⟩ := states
  obtain ⟨⟨lead, figure, trail, longerSplit, leads, trails, longerWrites⟩, -⟩ := also
  obtain ⟨some, solid⟩ := writes.solid
  obtain ⟨longerSome, longerSolid⟩ := longerWrites.solid
  have trimmed : body ++ (back ++ more) = figure ++ trail := by
    rw [← Text.dropWhile_padded _ before solid some,
      ← Text.dropWhile_padded _ leads longerSolid longerSome, ← List.append_assoc lead,
      ← longerSplit, whole, split]
    simp only [List.append_assoc]
  -- The longer number is written by all that comes before the next white space.
  have longest : body ++ (back ++ more).takeWhile (! Text.isBlank ·) = figure := by
    have taken := congrArg (List.takeWhile (! Text.isBlank ·)) trimmed
    rwa [takeWhile_solid solid, takeWhile_solid longerSolid, takeWhile_blank trails,
      List.append_nil] at taken
  rw [← longest] at longerWrites trimmed
  rw [List.append_assoc, List.append_cancel_left_eq] at trimmed
  cases back with
  | nil =>
      obtain ⟨digital, value⟩ := writes.extend longerWrites
      exact ⟨_, trail, trimmed, digital, trails, value⟩
  | cons c rest =>
      have ended : (c :: rest ++ more).takeWhile (! Text.isBlank ·) = [] := by
        simp [behind c List.mem_cons_self]
      rw [ended] at longerWrites trimmed
      obtain ⟨digital, value⟩ := writes.extend longerWrites
      refine ⟨[], more, rfl, nofun, fun d member => trails d ?_, value⟩
      rw [← List.nil_append trail, ← trimmed]
      exact List.mem_append_right _ member

end Number

end LogPipeline
