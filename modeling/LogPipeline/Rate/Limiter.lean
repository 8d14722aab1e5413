import LogPipeline.Collections.Table
import LogPipeline.Identity
import LogPipeline.Rate.TokenBucket

/-!
# Rate limiter

A token bucket for each key that is limited. A key without a bucket is not limited, and limits of
zero take the bucket away.
-/

namespace LogPipeline

structure Limiter (α : Type) where
  buckets : Table Key (TokenBucket α)

namespace Limiter

variable {α : Type} [Quantity α]

def empty : Limiter α := ⟨.empty⟩

instance : Inhabited (Limiter α) := ⟨empty⟩

def tryAcquire (l : Limiter α) (key : Key) (count : UInt32) : Bool × Limiter α :=
  match l.buckets.get? key with
  | none => (true, l)
  | some bucket =>
    let (ok, bucket) := bucket.tryTake count
    (ok, ⟨l.buckets.insert key bucket⟩)

def remove (l : Limiter α) (key : Key) : Bool × Limiter α :=
  (l.buckets.contains key, ⟨l.buckets.erase key⟩)

def install (l : Limiter α) (key : Key) (rate capacity : UInt32) (now : Nanos) : Limiter α :=
  if rate = 0 ∨ capacity = 0 then (l.remove key).2
  else ⟨l.buckets.insert key (.full rate capacity now)⟩

def sync (l : Limiter α) (key : Key) (rate capacity : UInt32) (now : Nanos) :
    Bool × Limiter α :=
  if rate = 0 ∨ capacity = 0 then l.remove key
  else
    match l.buckets.get? key with
    | none => (true, ⟨l.buckets.insert key (.full rate capacity now)⟩)
    | some bucket =>
      if bucket.hasLimits rate capacity then (false, l)
      else (true, ⟨l.buckets.insert key (bucket.reconfigure rate capacity now)⟩)

def refillAll (l : Limiter α) (now : Nanos) : Limiter α :=
  ⟨l.buckets.map fun b => b.refill now⟩

end Limiter

end LogPipeline
