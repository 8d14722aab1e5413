import LogPipeline.Proofs.Collections
import LogPipeline.Rate.Limiter

namespace LogPipeline

namespace TokenBucket

variable {α : Type} [Quantity α]

def config (b : TokenBucket α) : α × α :=
  (b.ratePerSecond, b.capacity)

@[simp]
theorem config_refill (b : TokenBucket α) (now : Nanos) : (b.refill now).config = b.config := rfl

@[simp]
theorem config_tryTake (b : TokenBucket α) (count : UInt32) :
    (b.tryTake count).2.config = b.config := by
  unfold tryTake
  dsimp only
  split <;> rfl

theorem tryTake_fst (b : TokenBucket α) (count : UInt32) :
    (b.tryTake count).1 = Quantity.atMost (Quantity.ofNat count.toNat) b.tokens := by
  unfold tryTake
  dsimp only
  split <;> rename_i enough
  · exact enough.symm
  · exact (Bool.eq_false_iff.mpr enough).symm

@[simp]
theorem config_full (rate capacity : UInt32) (now : Nanos) :
    (full rate capacity now : TokenBucket α).config =
      (Quantity.ofNat rate.toNat, Quantity.ofNat capacity.toNat) := rfl

@[simp]
theorem config_reconfigure (b : TokenBucket α) (rate capacity : UInt32) (now : Nanos) :
    (b.reconfigure rate capacity now).config =
      (Quantity.ofNat rate.toNat, Quantity.ofNat capacity.toNat) := rfl

def inLine (b? : Option (TokenBucket α)) (rate capacity : UInt32) (now : Nanos) : TokenBucket α :=
  match b? with
  | none => full rate capacity now
  | some b => if b.hasLimits rate capacity then b else b.reconfigure rate capacity now

end TokenBucket

namespace Limiter

variable {α : Type} [Quantity α] (l : Limiter α) (key other : Key)

theorem get?_tryAcquire (count : UInt32) :
    (l.tryAcquire key count).2.buckets.get? other =
      if key = other then (l.buckets.get? key).map fun b => (b.tryTake count).2
      else l.buckets.get? other := by
  unfold tryAcquire
  cases found : l.buckets.get? key with
  | none =>
      by_cases same : key = other
      · rw [if_pos same, ← same]
        exact found
      · rw [if_neg same]
  | some bucket => exact Table.get?_insert _ _ _ _

theorem tryAcquire_fst (count : UInt32) :
    (l.tryAcquire key count).1 = (l.buckets.get? key).all fun b => (b.tryTake count).1 := by
  unfold tryAcquire
  cases l.buckets.get? key <;> rfl

theorem get?_sync_of_zero {rate capacity : UInt32} (zero : rate = 0 ∨ capacity = 0) (now : Nanos) :
    (l.sync key rate capacity now).2.buckets.get? other =
      if key = other then none else l.buckets.get? other := by
  rw [sync, if_pos zero]
  exact Table.get?_erase _ _ _

theorem get?_sync_of_ne_zero {rate capacity : UInt32} (some : ¬ (rate = 0 ∨ capacity = 0))
    (now : Nanos) : (l.sync key rate capacity now).2.buckets.get? other =
      if key = other then Option.some (.inLine (l.buckets.get? key) rate capacity now)
      else l.buckets.get? other := by
  rw [sync, if_neg some]
  cases found : l.buckets.get? key with
  | none => exact Table.get?_insert _ _ _ _
  | some bucket =>
      dsimp only [TokenBucket.inLine]
      split
      · split <;> rename_i same
        · rw [← same, found]
        · rfl
      · exact Table.get?_insert _ _ _ _

variable {key other}

theorem get?_tryAcquire_of_ne (differs : other ≠ key) (count : UInt32) :
    (l.tryAcquire key count).2.buckets.get? other = l.buckets.get? other := by
  rw [get?_tryAcquire, if_neg differs.symm]

theorem get?_sync_of_ne (differs : other ≠ key) (rate capacity : UInt32) (now : Nanos) :
    (l.sync key rate capacity now).2.buckets.get? other = l.buckets.get? other := by
  by_cases zero : rate = 0 ∨ capacity = 0
  · rw [get?_sync_of_zero l key other zero, if_neg differs.symm]
  · rw [get?_sync_of_ne_zero l key other zero, if_neg differs.symm]

end Limiter

end LogPipeline
