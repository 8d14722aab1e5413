import LogPipeline.Time.Timestamp

namespace LogPipeline.Timestamp

def nanos (t : Timestamp) : Int :=
  t.second * nanosPerSecond + t.nano

variable {s t limit : Timestamp} {span : Nat}

theorem nanos_ofMillis (n : Int) : (ofMillis n).nanos = n * 1000000 := by
  simp only [nanos, ofMillis, nanosPerSecond]
  omega

theorem nano_ofMillis_lt (n : Int) : (ofMillis n).nano < nanosPerSecond := by
  simp only [ofMillis, nanosPerSecond]
  omega

theorem nanos_lt_of_lt (ordinary : s.nano < nanosPerSecond) (sooner : s < t) :
    s.nanos < t.nanos := by
  simp only [nanos, nanosPerSecond] at ordinary ⊢
  rcases sooner with sooner | ⟨same, sooner⟩
  · omega
  · omega

theorem firstSecond_le_of_inRange (kept : t.inRange = true) : firstSecond ≤ t.second := by
  rw [inRange, Bool.and_eq_true] at kept
  exact of_decide_eq_true kept.1

theorem not_lt_earliest (kept : firstSecond ≤ t.second) : ¬ t < earliest := by
  rintro (sooner | ⟨-, sooner⟩)
  · exact Int.not_lt.mpr kept sooner
  · exact Nat.not_lt_zero _ sooner

theorem eq_of_checked (made : t.checked = some limit) : limit = t := by
  unfold checked at made
  split at made
  · exact (Option.some.inj made).symm
  · cases made

theorem checked_eq_none (early : t.second < firstSecond) : t.checked = none := by
  unfold checked
  split
  · rename_i kept
    exact absurd (firstSecond_le_of_inRange kept) (Int.not_le.mpr early)
  · rfl

theorem nanos_of_minus? (made : t.minus? span = some limit) : limit.nanos = t.nanos - span := by
  unfold minus? at made
  split at made
  · rename_i leap
    rw [eq_of_checked made]
    simp only [nanos, nanosPerSecond] at leap ⊢
    omega
  · rw [eq_of_checked made]
    simp only [nanos, nanosPerSecond]
    omega

theorem minus?_eq_none (far : t.nanos < earliest.nanos + span) : t.minus? span = none := by
  simp only [nanos, earliest, nanosPerSecond] at far
  unfold minus?
  split
  · rename_i leap
    simp only [nanosPerSecond] at leap
    exact checked_eq_none (by simp only; omega)
  · exact checked_eq_none (by simp only [nanosPerSecond]; omega)

theorem lt_before_iff (kept : firstSecond ≤ s.second) :
    s < t.before span ↔ ∃ limit, t.minus? span = some limit ∧ s < limit := by
  unfold before
  cases t.minus? span with
  | none => simp [not_lt_earliest kept]
  | some limit => simp

def lapsed (now : Timestamp) (span : Nat) (time : Option Timestamp) : Bool :=
  time.any fun t => (now.minus? span).any fun limit => t < limit

theorem lapsed_of_far (far : t.nanos < earliest.nanos + span) (time : Option Timestamp) :
    t.lapsed span time = false := by
  rw [lapsed, minus?_eq_none far]
  cases time <;> rfl

end LogPipeline.Timestamp
