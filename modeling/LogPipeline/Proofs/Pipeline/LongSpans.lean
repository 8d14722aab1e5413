import LogPipeline.Proofs.Daemon.Validation

namespace LogPipeline

structure LongSpan where
  count : UInt64
  unit : UInt64
  made : Nanos

namespace LongSpan

def seconds (s : LongSpan) : Nat :=
  s.count.toNat * s.unit.toNat

/-- The span is what is left of the seconds after full rounds of 64 bits. -/
def IsCutDown (s : LongSpan) : Prop :=
  s.made = .ofSeconds (s.seconds % UInt64.size)

variable {s : LongSpan}

theorem IsCutDown.made_eq_iff (cut : s.IsCutDown) :
    s.made = .ofSeconds s.seconds ↔ s.seconds < UInt64.size := by
  rw [cut]
  constructor
  · intro whole
    have same : s.seconds % UInt64.size = s.seconds :=
      Nat.eq_of_mul_eq_mul_right (by decide) whole
    exact same ▸ Nat.mod_lt _ (by decide)
  · intro fits
    rw [Nat.mod_eq_of_lt fits]

theorem IsCutDown.made_le (cut : s.IsCutDown) (large : UInt64.size ≤ s.seconds) :
    s.made + .ofSeconds UInt64.size ≤ .ofSeconds s.seconds := by
  have rounds : s.seconds % UInt64.size + UInt64.size ≤ s.seconds := by
    have whole := Nat.div_add_mod s.seconds UInt64.size
    have one : 1 ≤ s.seconds / UInt64.size := Nat.div_pos large (by decide)
    have round := Nat.mul_le_mul_left UInt64.size one
    omega
  calc s.made + .ofSeconds UInt64.size
      = .ofSeconds (s.seconds % UInt64.size + UInt64.size) := by
        rw [cut]
        exact (Nat.add_mul _ _ _).symm
    _ ≤ .ofSeconds s.seconds := Nat.mul_le_mul_right _ rounds

end LongSpan

namespace PipelineConfig

def longSpans (c : PipelineConfig) : List LongSpan :=
  [⟨c.processedRetentionHours, 3600, c.retention.processedRetention⟩,
    ⟨c.failedRetentionHours, 3600, c.retention.failedRetention⟩,
    ⟨c.processingTimeoutMinutes, 60, c.retention.processingTimeout⟩,
    ⟨c.cleanupDelayMinutes, 60, c.cleanupDelay⟩,
    ⟨c.cleanupIntervalMinutes, 60, c.cleanupInterval⟩]

theorem isCutDown_of_mem {c : PipelineConfig} {s : LongSpan} (listed : s ∈ c.longSpans) :
    s.IsCutDown := by
  have product (count unit : UInt64) : LongSpan.IsCutDown
      ⟨count, unit, .ofSeconds (count * unit).toNat⟩ := by
    rw [LongSpan.IsCutDown, UInt64.toNat_mul]
    rfl
  simp only [longSpans, List.mem_cons, List.not_mem_nil, or_false] at listed
  rcases listed with rfl | rfl | rfl | rfl | rfl <;> exact product _ _

structure LongCounts where
  processedRetention : UInt64
  failedRetention : UInt64
  processingTimeout : UInt64
  delay : UInt64
  interval : UInt64

def withCounts (c : PipelineConfig) (counts : LongCounts) : PipelineConfig :=
  { c with
    processedRetentionHours := counts.processedRetention
    failedRetentionHours := counts.failedRetention
    processingTimeoutMinutes := counts.processingTimeout
    cleanupDelayMinutes := counts.delay
    cleanupIntervalMinutes := counts.interval }

def LongCounts.Positive (counts : LongCounts) : Prop :=
  counts.processedRetention ≠ 0 ∧ counts.failedRetention ≠ 0 ∧
    counts.processingTimeout ≠ 0 ∧ counts.interval ≠ 0

theorem validate_withCounts_eq_ok_iff {c : PipelineConfig} (valid : c.validate = .ok ())
    (counts : LongCounts) :
    (c.withCounts counts).validate = .ok () ↔ (c.cleanupEnabled → counts.Positive) := by
  have limits := validate_eq_ok_iff.mp valid
  have cleanup : (∀ x ∈ (c.withCounts counts).positiveForCleanup, x.2 ≠ 0) ↔
      counts.Positive := by
    simp [positiveForCleanup, withCounts, LongCounts.Positive]
  rw [validate_eq_ok_iff, ← cleanup]
  constructor
  · exact fun changed => changed.cleanup
  · exact fun positive =>
      { threshold := limits.threshold
        retries := limits.retries
        workers := limits.workers
        positive := limits.positive
        cleanup := positive }

/-- An accepted configuration makes its long spans as they are set, if 64 bits can hold their
seconds. The others come out shorter, by one round of the count or more, and no limit keeps them
out. -/
theorem long_spans_made {c : PipelineConfig} (valid : c.validate = .ok ()) :
    (∀ s ∈ c.longSpans, s.made = .ofSeconds (s.seconds % UInt64.size) ∧
      (s.made = .ofSeconds s.seconds ↔ s.seconds < UInt64.size) ∧
      (UInt64.size ≤ s.seconds → s.made + .ofSeconds UInt64.size ≤ .ofSeconds s.seconds)) ∧
    ∀ counts, (c.withCounts counts).validate = .ok () ↔ (c.cleanupEnabled → counts.Positive) := by
  refine ⟨fun s listed => ?_, validate_withCounts_eq_ok_iff valid⟩
  have cut := isCutDown_of_mem listed
  exact ⟨cut, cut.made_eq_iff, cut.made_le⟩

theorem validate_defaults : defaults.validate = .ok () := rfl

/-- Processed batches that are to be kept for half a trillion years are kept for an hour at most. -/
theorem long_spans_made_of_long_retention :
    let c := defaults.withCounts ⟨5124095576030432, 72, 30, 5, 60⟩
    c.validate = .ok () ∧ c.retention.processedRetention = .ofSeconds 3584 ∧
      c.retention.processedRetention + .ofSeconds UInt64.size ≤
        .ofSeconds (5124095576030432 * 3600) := by
  intro c
  have valid : c.validate = .ok () :=
    (validate_withCounts_eq_ok_iff validate_defaults _).mpr fun _ => by
      simp only [LongCounts.Positive]
      decide
  obtain ⟨cut, -, shorter⟩ := (long_spans_made valid).1
    ⟨5124095576030432, 3600, c.retention.processedRetention⟩ List.mem_cons_self
  have seconds : 5124095576030432 * 3600 % UInt64.size = 3584 := by decide
  exact ⟨valid, cut.trans (congrArg Nanos.ofSeconds seconds), shorter (by decide)⟩

/-- A first delay of as many minutes as 64 bits can count is accepted, and is not made. -/
theorem validate_accepts_endless_delay :
    let c := defaults.withCounts ⟨24, 72, 30, 18446744073709551615, 60⟩
    c.validate = .ok () ∧ ¬ c.cleanupDelayMinutes.toNat * 60 < UInt64.size ∧
      c.cleanupDelay ≠ .ofSeconds (c.cleanupDelayMinutes.toNat * 60) := by
  refine ⟨?_, by decide, by decide⟩
  refine (validate_withCounts_eq_ok_iff validate_defaults _).mpr fun _ => ?_
  simp only [LongCounts.Positive]
  decide

end PipelineConfig

end LogPipeline
