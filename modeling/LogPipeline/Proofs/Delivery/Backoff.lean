import Mathlib.Order.MinMax
import Mathlib.Order.Monotone.Basic
import LogPipeline.Proofs.Delivery.RetryPolicy

/-!
# Waits that double

A retry waits twice as long as the one before it, until the factor fills 32 bits or the wait is the
longest span. A span of seconds and nanoseconds is multiplied part by part, and the seconds that the
nanoseconds make are carried over. That gives the exact product, or the longest span in its stead.
-/

namespace LogPipeline

/-! ## Spans in words -/

/-- Whole seconds in 64 bits, and the nanoseconds that do not make another one. -/
@[ext]
structure Duration where
  seconds : UInt64
  nanos : UInt32
  small : nanos.toNat < 1000000000

namespace Duration

def length (s : Duration) : Nanos :=
  .ofSeconds s.seconds.toNat + s.nanos.toNat

def longest : Duration := ⟨18446744073709551615, 999999999, by decide⟩

def product? (a b : UInt64) : Option UInt64 :=
  if a.toNat * b.toNat < UInt64.size then some (a * b) else none

def sum? (a b : UInt64) : Option UInt64 :=
  if a.toNat + b.toNat < UInt64.size then some (a + b) else none

def rest (nanos : UInt64) : UInt32 :=
  (nanos % 1000000000).toUInt32

theorem toNat_rest (nanos : UInt64) : (rest nanos).toNat = nanos.toNat % 1000000000 := by
  have below : nanos.toNat % 1000000000 < 1000000000 := Nat.mod_lt _ (by decide)
  rw [rest, UInt64.toNat_toUInt32, UInt64.toNat_mod]
  exact Nat.mod_eq_of_lt (Nat.lt_trans below (by decide))

/-- A multiple of a span. The nanoseconds are multiplied in 64 bits, and their whole seconds are
carried over. -/
def multiple? (s : Duration) (factor : UInt32) : Option Duration := do
  let nanos := s.nanos.toUInt64 * factor.toUInt64
  let seconds ← product? s.seconds factor.toUInt64
  let seconds ← sum? seconds (nanos / 1000000000)
  return ⟨seconds, rest nanos, by rw [toNat_rest]; exact Nat.mod_lt _ (by decide)⟩

def times (s : Duration) (factor : UInt32) : Duration :=
  (s.multiple? factor).getD longest

theorem length_longest : longest.length = Nanos.longest := by
  decide

theorem length_le_longest (s : Duration) : s.length ≤ Nanos.longest := by
  have seconds : s.seconds.toNat < 18446744073709551616 := s.seconds.toNat_lt_size
  have nanos := s.small
  have bound : s.seconds.toNat * 1000000000 + s.nanos.toNat ≤
      18446744073709551616 * 1000000000 - 1 := by omega
  exact bound

theorem product?_eq_some_iff {a b c : UInt64} :
    product? a b = some c ↔ a.toNat * b.toNat = c.toNat := by
  rw [product?]
  split
  · rename_i fits
    have unwrapped : (a * b).toNat = a.toNat * b.toNat := by
      rw [UInt64.toNat_mul]
      exact Nat.mod_eq_of_lt fits
    rw [← unwrapped, Option.some.injEq, UInt64.toNat_inj]
  · rename_i large
    exact iff_of_false nofun fun same => large (same ▸ c.toNat_lt_size)

theorem sum?_eq_some_iff {a b c : UInt64} : sum? a b = some c ↔ a.toNat + b.toNat = c.toNat := by
  rw [sum?]
  split
  · rename_i fits
    have unwrapped : (a + b).toNat = a.toNat + b.toNat := by
      rw [UInt64.toNat_add]
      exact Nat.mod_eq_of_lt fits
    rw [← unwrapped, Option.some.injEq, UInt64.toNat_inj]
  · rename_i large
    exact iff_of_false nofun fun same => large (same ▸ c.toNat_lt_size)

theorem toNat_nanos_mul (s : Duration) (factor : UInt32) :
    (s.nanos.toUInt64 * factor.toUInt64).toNat = s.nanos.toNat * factor.toNat := by
  have bound : s.nanos.toNat * factor.toNat < 1000000000 * 4294967296 :=
    Nat.mul_lt_mul_of_lt_of_lt s.small factor.toNat_lt_size
  rw [UInt64.toNat_mul, UInt32.toNat_toUInt64, UInt32.toNat_toUInt64]
  exact Nat.mod_eq_of_lt (Nat.lt_trans bound (by decide))

def secondsTimes (s : Duration) (factor : Nat) : Nat :=
  s.seconds.toNat * factor + s.nanos.toNat * factor / 1000000000

theorem length_mul (s : Duration) (factor : Nat) :
    s.length * factor =
      s.secondsTimes factor * 1000000000 + s.nanos.toNat * factor % 1000000000 := by
  have whole := Nat.div_add_mod (s.nanos.toNat * factor) 1000000000
  calc (s.seconds.toNat * 1000000000 + s.nanos.toNat) * factor
      = s.seconds.toNat * factor * 1000000000 + s.nanos.toNat * factor := by
        rw [Nat.add_mul, Nat.mul_right_comm]
    _ = s.secondsTimes factor * 1000000000 + s.nanos.toNat * factor % 1000000000 := by
        rw [secondsTimes]
        omega

theorem multiple?_eq_some_iff {s product : Duration} {factor : UInt32} :
    s.multiple? factor = some product ↔ product.length = s.length * factor.toNat := by
  have parts : product.length = s.length * factor.toNat ↔
      product.seconds.toNat = s.secondsTimes factor.toNat ∧
        product.nanos.toNat = s.nanos.toNat * factor.toNat % 1000000000 := by
    have small := product.small
    have rest := Nat.mod_lt (s.nanos.toNat * factor.toNat) (y := 1000000000) (by decide)
    rw [length_mul]
    change product.seconds.toNat * 1000000000 + product.nanos.toNat = _ ↔ _
    omega
  have carried : (s.nanos.toUInt64 * factor.toUInt64 / 1000000000).toNat =
      s.nanos.toNat * factor.toNat / 1000000000 := by
    rw [UInt64.toNat_div, toNat_nanos_mul]
    rfl
  rw [parts]
  simp only [multiple?, Option.bind_eq_bind, Option.bind_eq_some_iff, product?_eq_some_iff,
    sum?_eq_some_iff, UInt32.toNat_toUInt64, carried]
  constructor
  · rintro ⟨a, multiplied, b, added, made⟩
    cases made
    refine ⟨?_, ?_⟩
    · rw [secondsTimes, multiplied, added]
    · rw [toNat_rest, toNat_nanos_mul]
  · rintro ⟨seconds, nanos⟩
    have fits : s.seconds.toNat * factor.toNat < UInt64.size :=
      Nat.lt_of_le_of_lt (Nat.le_add_right _ _) (seconds ▸ product.seconds.toNat_lt_size)
    have multiplied : s.seconds.toNat * factor.toNat =
        (UInt64.ofNat (s.seconds.toNat * factor.toNat)).toNat :=
      (UInt64.toNat_ofNat_of_lt fits).symm
    refine ⟨_, multiplied, product.seconds, ?_, ?_⟩
    · rw [← multiplied, seconds, secondsTimes]
    · refine congrArg some (Duration.ext rfl (UInt32.toNat_inj.mp ?_))
      rw [toNat_rest, toNat_nanos_mul, nanos]

theorem exists_length {n : Nanos} (short : n ≤ Nanos.longest) : ∃ s : Duration, s.length = n := by
  have seconds : n / 1000000000 < UInt64.size := Nat.div_lt_of_lt_mul <| by
    rw [Nat.mul_comm]
    exact Nat.lt_of_le_of_lt short (by decide)
  have nanos : n % 1000000000 < 1000000000 := Nat.mod_lt _ (by decide)
  have word : n % 1000000000 < UInt32.size := Nat.lt_trans nanos (by decide)
  exact ⟨⟨.ofNatLT _ seconds, .ofNatLT _ word, nanos⟩, Nat.div_add_mod' n 1000000000⟩

theorem length_times (s : Duration) (factor : UInt32) :
    (s.times factor).length = s.length.times factor.toNat := by
  rw [times, Nanos.times]
  cases found : s.multiple? factor with
  | none =>
      have large : Nanos.longest < s.length * factor.toNat := by
        by_contra within
        obtain ⟨product, made⟩ := exists_length (Nat.not_lt.mp within)
        cases found.symm.trans (multiple?_eq_some_iff.mpr made)
      rw [Option.getD_none, length_longest, Nat.min_eq_right (Nat.le_of_lt large)]
  | some product =>
      have made := multiple?_eq_some_iff.mp found
      rw [Option.getD_some, ← made, Nat.min_eq_left product.length_le_longest]

end Duration

/-! ## Powers of two in 32 bits -/

namespace RetryPolicy

theorem powerOfTwo_eq_min (n : Nat) : powerOfTwo n = min (2 ^ n) (2 ^ 32 - 1) := by
  rw [powerOfTwo]
  split
  · rename_i small
    have bound : 2 ^ n ≤ 2 ^ 31 := Nat.pow_le_pow_right (by decide) (Nat.le_of_lt_succ small)
    exact (Nat.min_eq_left (Nat.le_trans bound (by decide))).symm
  · rename_i large
    have bound : 2 ^ 32 ≤ 2 ^ n := Nat.pow_le_pow_right (by decide) (Nat.not_lt.mp large)
    exact (Nat.min_eq_right (Nat.le_trans (by decide) bound)).symm

theorem powerOfTwo_mono {n m : Nat} (le : n ≤ m) : powerOfTwo n ≤ powerOfTwo m := by
  rw [powerOfTwo_eq_min, powerOfTwo_eq_min]
  exact min_le_min_right _ (Nat.pow_le_pow_right (by decide) le)

theorem powerOfTwo_succ_le (n : Nat) : powerOfTwo (n + 1) ≤ 2 * powerOfTwo n := by
  rw [powerOfTwo_eq_min, powerOfTwo_eq_min, Nat.pow_succ]
  omega

def factor (retry : UInt32) : UInt32 :=
  .ofNat (powerOfTwo (retry.toNat - 1))

theorem toNat_factor (retry : UInt32) : (factor retry).toNat = powerOfTwo (retry.toNat - 1) := by
  refine UInt32.toNat_ofNat_of_lt ?_
  rw [powerOfTwo_eq_min]
  exact Nat.lt_of_le_of_lt (Nat.min_le_right _ _) (by decide)

/-! ## Waits -/

variable (policy : RetryPolicy)

theorem backoff_mono : Monotone policy.backoff := by
  intro early late le
  have factor := powerOfTwo_mono (Nat.sub_le_sub_right le 1)
  exact min_le_min_right _ (Nat.mul_le_mul_left _ factor)

theorem backoff_succ_le (retry : Nat) :
    policy.backoff (retry + 1) ≤ min (2 * policy.backoff retry) Nanos.longest := by
  have factor : powerOfTwo (retry + 1 - 1) ≤ 2 * powerOfTwo (retry - 1) := by
    cases retry with
    | zero => decide
    | succ n => exact powerOfTwo_succ_le n
  have product := Nat.mul_le_mul_left policy.interval factor
  rw [Nat.mul_left_comm] at product
  have clipped (next wait most : Nat) (twice : next ≤ 2 * wait) :
      min next most ≤ min (2 * min wait most) most := by omega
  exact clipped _ _ _ product

theorem backoff_of_le_one {retry : Nat} (first : retry ≤ 1)
    (short : policy.interval ≤ Nanos.longest) : policy.backoff retry = policy.interval := by
  have factor : powerOfTwo (retry - 1) = 1 := by
    rw [Nat.sub_eq_zero_of_le first]
    rfl
  rw [backoff, factor, Nanos.times, Nat.mul_one, Nat.min_eq_left short]

/-- The wait before a retry is the exact multiple of the interval, or the longest span. Words
compute it without a loss, and it grows at most twofold from each retry to the next. -/
theorem backoff_doubles (retries : UInt32) (interval : Duration) (retry : UInt32) :
    let policy : RetryPolicy := ⟨retries, interval.length⟩
    policy.backoff retry.toNat = (interval.times (factor retry)).length ∧
      policy.backoff retry.toNat =
        min (interval.length * min (2 ^ (max retry.toNat 1 - 1)) (2 ^ 32 - 1))
          Duration.longest.length ∧
      Monotone policy.backoff ∧
      policy.backoff (retry.toNat + 1) ≤
        min (2 * policy.backoff retry.toNat) Duration.longest.length ∧
      policy.backoff 0 = interval.length ∧ policy.backoff 1 = interval.length := by
  intro policy
  have short := interval.length_le_longest
  have exponent : max retry.toNat 1 - 1 = retry.toNat - 1 := by omega
  refine ⟨?_, ?_, policy.backoff_mono, ?_, ?_, ?_⟩
  · rw [Duration.length_times, toNat_factor]
    rfl
  · rw [exponent, ← powerOfTwo_eq_min, Duration.length_longest]
    rfl
  · rw [Duration.length_longest]
    exact policy.backoff_succ_le retry.toNat
  · exact policy.backoff_of_le_one (Nat.zero_le 1) short
  · exact policy.backoff_of_le_one (Nat.le_refl 1) short

example : (Duration.times ⟨0, 500000001, by decide⟩ (factor 33)).seconds = 2147483651 := by decide

end RetryPolicy

end LogPipeline
