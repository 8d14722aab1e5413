import Mathlib.Algebra.Ring.Nat
import LogPipeline.Delivery.RetryPolicy

namespace LogPipeline

namespace Nanos

theorem waitMillis_ofMillis {n : Nat} (waitable : (ofMillis n).Waitable) :
    (ofMillis n).waitMillis = n := by
  have below : ¬ 9223372036854775808 * 1000000000 ≤ ofMillis n := Nat.not_le.mpr waitable
  simp only [waitMillis, below, if_false]
  simp only [ofMillis]
  omega

theorem waitMillis_ne_zero {span : Nanos} (some : span ≠ 0) : span.waitMillis ≠ 0 := by
  unfold waitMillis
  split
  · decide
  · have positive : 1 ≤ span := Nat.one_le_iff_ne_zero.mpr some
    exact Nat.ne_of_gt (Nat.div_pos (Nat.add_le_add_right positive 999999) (by decide))

end Nanos

namespace RetryPolicy

theorem powerOfTwo_pos (n : Nat) : 0 < powerOfTwo n := by
  unfold powerOfTwo
  split
  · exact Nat.two_pow_pos n
  · decide

theorem backoff_ne_zero {policy : RetryPolicy} (some : policy.interval ≠ 0) (retry : Nat) :
    policy.backoff retry ≠ 0 := by
  have product := Nat.mul_pos (Nat.pos_of_ne_zero some) (powerOfTwo_pos (retry - 1))
  have positive : 0 < min (policy.interval * powerOfTwo (retry - 1)) Nanos.longest :=
    Nat.lt_min.mpr ⟨product, by decide⟩
  exact Nat.ne_of_gt positive

def waits (policy : RetryPolicy) (retry count : Nat) : Nat :=
  ((List.range count).map fun i => (policy.backoff (retry + i + 1)).waitMillis).sum

theorem waits_zero (policy : RetryPolicy) (retry : Nat) : policy.waits retry 0 = 0 := rfl

theorem waits_succ (policy : RetryPolicy) (retry count : Nat) :
    policy.waits retry (count + 1) =
      (policy.backoff (retry + 1)).waitMillis + policy.waits (retry + 1) count := by
  simp only [waits, List.range_succ_eq_map, List.map_cons, List.map_map, List.sum_cons,
    Nat.add_zero]
  congr 2
  apply List.map_congr_left
  intro i _
  simp only [Function.comp_apply]
  congr 2
  omega

theorem waits_concat (policy : RetryPolicy) (count : Nat) :
    policy.waits 0 (count + 1) =
      policy.waits 0 count + (policy.backoff (count + 1)).waitMillis := by
  simp [waits, List.range_succ]

theorem waits_mono (policy : RetryPolicy) {fewer more : Nat} (le : fewer ≤ more) :
    policy.waits 0 fewer ≤ policy.waits 0 more := by
  induction le with
  | refl => exact Nat.le_refl _
  | step _ ih =>
      rw [waits_concat]
      exact Nat.le_add_right_of_le ih

theorem backoff_of_waitable {policy : RetryPolicy} {retry : Nat}
    (waitable : (policy.backoff retry).Waitable) :
    policy.backoff retry = policy.interval * powerOfTwo (retry - 1) := by
  simp only [Nanos.Waitable, backoff, Nanos.times] at waitable ⊢
  refine Nat.min_eq_left (Nat.le_of_not_lt fun above => ?_)
  rw [Nat.min_eq_right (Nat.le_of_lt above)] at waitable
  exact absurd waitable (by decide)

theorem ofMillis_waitMillis_backoff {policy : RetryPolicy} {millis : Nat}
    (whole : policy.interval = .ofMillis millis) {retry : Nat}
    (waitable : (policy.backoff retry).Waitable) :
    Nanos.ofMillis (policy.backoff retry).waitMillis = policy.backoff retry := by
  have scaled : policy.backoff retry = .ofMillis (millis * powerOfTwo (retry - 1)) := by
    rw [backoff_of_waitable waitable, whole]
    exact Nat.mul_right_comm _ _ _
  rw [scaled] at waitable ⊢
  rw [Nanos.waitMillis_ofMillis waitable]

theorem ofMillis_waits {policy : RetryPolicy} {millis : Nat}
    (whole : policy.interval = .ofMillis millis) (count : Nat)
    (waitable : ∀ i < count, (policy.backoff (i + 1)).Waitable) :
    Nanos.ofMillis (policy.waits 0 count) =
      ((List.range count).map fun i => policy.backoff (i + 1)).sum := by
  induction count with
  | zero => exact Nat.zero_mul _
  | succ count ih =>
      have earlier := ih fun i below => waitable i (Nat.lt_succ_of_lt below)
      have last := ofMillis_waitMillis_backoff whole (waitable count (Nat.lt_succ_self count))
      rw [waits_concat, List.range_succ, List.map_append, List.sum_append, List.map_singleton,
        List.sum_singleton, ← earlier]
      exact (Nat.add_mul _ _ _).trans (congrArg (_ + ·) last)

end RetryPolicy

end LogPipeline
