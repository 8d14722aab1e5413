import LogPipeline.Proofs.Log.Preserving
import LogPipeline.Proofs.Time.Rfc3339

namespace LogPipeline

variable {t : Timestamp}

/-! ## What is read -/

theorem Timestamp.regular_of_checked {made : Timestamp} (ordinary : made.nano < nanosPerSecond)
    (kept : made.checked = some t) : t.Regular := by
  obtain rfl := eq_of_checked kept
  exact ⟨inRange_of_checked kept, Nat.lt_trans ordinary (by decide),
    fun leap => absurd ordinary (Nat.not_lt.mpr leap)⟩

theorem regular_of_readInstant? {text : String} (read : readInstant? text = some t) :
    t.Regular := by
  rw [readInstant?] at read
  split at read
  · rename_i named
    cases read
    exact Rfc3339.regular_of_read? named
  · obtain ⟨n, -, made⟩ := Option.bind_eq_some_iff.mp read
    split at made
    · exact Timestamp.regular_of_checked (Timestamp.nano_ofMillis_lt n) made
    · exact Timestamp.regular_of_checked (Nat.zero_lt_succ _) made

theorem readInt64?_write (zone : String) (t : Timestamp) :
    readInt64? (Rfc3339.write zone t) = none := by
  have between : 'T' ∈ (Rfc3339.write zone t).toList := by
    simp [Rfc3339.write]
  have unread : Number.readInteger? (Rfc3339.write zone t) = none := by
    cases read : Number.readInteger? (Rfc3339.write zone t) with
    | none => rfl
    | some n =>
        have characters := (Number.readInteger?_eq_some_iff.mp read).sign_or_isDigit
        exact absurd (characters 'T' between) (by decide)
  simp [readInt64?, unread]

def Timestamp.HasShortYear (t : Timestamp) : Prop :=
  -62167219200 ≤ t.second ∧ t.second < 253402300800

instance (t : Timestamp) : Decidable t.HasShortYear :=
  inferInstanceAs (Decidable (-62167219200 ≤ t.second ∧ t.second < 253402300800))

theorem readInstant?_instantText (regular : t.Regular) :
    readInstant? (instantText t) = if t.HasShortYear then some t else none := by
  have universal : Rfc3339.offset? (Rfc3339.char? ':') "+00:00".toList = some (0, []) := by
    decide
  have ends : Rfc3339.EndsFraction "+00:00".toList := by
    rintro c ⟨⟩
    decide
  rw [readInstant?, instantText, readInt64?_write]
  by_cases short : t.HasShortYear
  · have four := (Timestamp.year_mem_iff t).mpr short
    rw [Rfc3339.read?_write regular four universal ends, if_pos short]
  · have unread : Rfc3339.read? (Rfc3339.write "+00:00" t) = none :=
      Rfc3339.read?_write_eq_none _ (mt (Timestamp.year_mem_iff t).mp short)
    rw [unread, if_neg short]
    rfl

/-! ## What becomes of a log -/

namespace Preprocessor

variable {raw : RawLog} {log : ProcessedLog}

def namedInstant? (log : ProcessedLog) : Option Timestamp :=
  (firstField log.fields timestampFields).bind readInstant?

def instantOf (log : ProcessedLog) : Timestamp × Option String :=
  (log.logTime, log.metadata.get? timestampKey)

theorem namedInstant?_normalizeTimestamp (log : ProcessedLog) :
    namedInstant? (normalizeTimestamp log) = namedInstant? log := by
  rw [namedInstant?, fields_normalizeTimestamp, namedInstant?]

theorem namedInstant?_normalizeLevel (log : ProcessedLog) :
    namedInstant? (normalizeLevel log) = namedInstant? log := by
  rw [namedInstant?, fields_normalizeLevel, namedInstant?]

theorem instantOf_normalizeLevel (log : ProcessedLog) :
    instantOf (normalizeLevel log) = instantOf log := by
  rw [normalizeLevel]
  split
  · exact Prod.ext rfl ((Dict.get?_insert _ _ _ _).trans (if_neg (by decide)))
  · rfl

theorem instantOf_normalizeTimestamp (log : ProcessedLog) :
    instantOf (normalizeTimestamp log) =
      ((namedInstant? log).map fun t => (t, some (instantText t))).getD (instantOf log) := by
  rw [normalizeTimestamp, ← namedInstant?]
  cases namedInstant? log with
  | none => rfl
  | some t => exact Prod.ext rfl ((Dict.get?_insert _ _ _ _).trans (if_pos rfl))

theorem instantOf_preprocess (p : Preprocessor) (key : Key) (now : Timestamp) (raw : RawLog) :
    instantOf (p.preprocess key now raw) =
      ((namedInstant? (p.preprocess key now raw)).map fun t => (t, some (instantText t))).getD
        (raw.timestamp, raw.metadata.get? timestampKey) := by
  rw [preprocess]
  split
  · rw [structureJson]
    split
    · rfl
    · rw [instantOf_normalizeLevel, instantOf_normalizeTimestamp, namedInstant?_normalizeLevel,
        namedInstant?_normalizeTimestamp]
      rfl
    · rfl
  · rw [structureText]
    split
    · rfl
    · rw [instantOf_normalizeTimestamp, instantOf_normalizeLevel,
        namedInstant?_normalizeTimestamp]
      rfl
  · rfl
  · rfl
  · rfl

/-- A log that names an instant is moved there and tells it in universal time. A log that names
what is told there becomes the same again if the year has four digits; otherwise that text names no
instant. -/
theorem instant_read_back {p : Preprocessor} {key : Key} {now : Timestamp} {raw : RawLog}
    {t : Timestamp} (named : namedInstant? (p.preprocess key now raw) = some t) :
    instantOf (p.preprocess key now raw) = (t, some (instantText t)) ∧
      readInstant? (instantText t) = (if t.HasShortYear then some t else none) ∧
      ∀ (q : Preprocessor) (other : Key) (later : Timestamp) (again : RawLog),
        firstField (q.preprocess other later again).fields timestampFields =
            some (instantText t) →
          instantOf (q.preprocess other later again) =
            if t.HasShortYear then (t, some (instantText t))
            else (again.timestamp, again.metadata.get? timestampKey) := by
  have regular : t.Regular := by
    obtain ⟨text, -, read⟩ := Option.bind_eq_some_iff.mp named
    exact regular_of_readInstant? read
  have read := readInstant?_instantText regular
  refine ⟨?_, read, fun q other later again first => ?_⟩
  · rw [instantOf_preprocess, named]
    rfl
  · have namedAgain : namedInstant? (q.preprocess other later again) =
        if t.HasShortYear then some t else none := by
      rw [namedInstant?, first, Option.bind_some, read]
    rw [instantOf_preprocess, namedAgain]
    split <;> rfl

/-- A leap second with a fraction, told by a clock that is an hour ahead. -/
theorem instant_read_back_leap :
    let key : Key := ⟨⟨"app"⟩, ⟨"endpoint"⟩⟩
    let raw : RawLog := .new "\x7b\"time\":\"2015-07-01t00:59:60.25+01:00\"\x7d" .json ⟨0, 0⟩
    let again : RawLog := .new "\x7b\"ts\":\"2015-06-30T23:59:60.250+00:00\"\x7d" .json ⟨0, 0⟩
    let leap : Timestamp := ⟨1435708799, 1250000000⟩
    namedInstant? (defaults.preprocess key ⟨9, 0⟩ raw) = some leap ∧
      readInstant? "2015-06-30T23:59:60.250+00:00" = some leap ∧
      instantOf (defaults.preprocess key ⟨9, 0⟩ again) =
        (leap, some "2015-06-30T23:59:60.250+00:00") := by
  intro key raw again leap
  have named : namedInstant? (defaults.preprocess key ⟨9, 0⟩ raw) = some leap := by
    decide +kernel
  have text : instantText leap = "2015-06-30T23:59:60.250+00:00" := by decide +kernel
  have short : leap.HasShortYear := by decide
  have first : firstField (defaults.preprocess key ⟨9, 0⟩ again).fields timestampFields =
      some (instantText leap) := by
    decide +kernel
  obtain ⟨-, read, kept⟩ := instant_read_back named
  have same := kept defaults key ⟨9, 0⟩ again first
  rw [if_pos short, text] at read same
  exact ⟨named, read, same⟩

/-- Milliseconds that reach beyond the year 9999 are told in a text that names no instant, and a log
that has it for its instant is not moved. -/
theorem instant_not_read_back :
    let key : Key := ⟨⟨"app"⟩, ⟨"endpoint"⟩⟩
    let raw : RawLog := .new "\x7b\"ts\":253402300800000\x7d" .json ⟨0, 0⟩
    let again : RawLog := .new "\x7b\"timestamp\":\"+10000-01-01T00:00:00+00:00\"\x7d" .json ⟨0, 0⟩
    instantOf (defaults.preprocess key ⟨9, 0⟩ raw) =
        (⟨253402300800, 0⟩, some "+10000-01-01T00:00:00+00:00") ∧
      readInstant? "+10000-01-01T00:00:00+00:00" = none ∧
      instantOf (defaults.preprocess key ⟨9, 0⟩ again) = (⟨0, 0⟩, none) := by
  decide +kernel

end Preprocessor

end LogPipeline
