import LogPipeline.Time.Duration

/-!
# Token buckets

A bucket fills up at a steady rate to its capacity, and is emptied by what is taken from it. The
amounts are numbers of any type with the operations of `Quantity`: the binary64 numbers when it
runs, exact fractions when one reasons about it.
-/

namespace LogPipeline

class Quantity (α : Type) extends Add α, Sub α, Mul α, Div α where
  ofNat : Nat → α
  atMost : α → α → Bool

instance : Quantity Float where
  ofNat := Float.ofNat
  atMost x y := x ≤ y

instance : Quantity Rat where
  ofNat n := (n : Rat)
  atMost x y := x ≤ y

namespace Quantity

variable {α : Type} [Quantity α]

def least (x y : α) : α := if atMost x y then x else y

def greatest (x y : α) : α := if atMost x y then y else x

def same (x y : α) : Bool := atMost x y && atMost y x

def millis (d : Nanos) : α :=
  (ofNat (d / 1000000000) + ofNat (d % 1000000000) / ofNat 1000000000) * ofNat 1000

end Quantity

open Quantity

structure TokenBucket (α : Type) where
  capacity : α
  ratePerSecond : α
  tokens : α
  lastRefill : Nanos

namespace TokenBucket

variable {α : Type} [Quantity α]

def full (rate capacity : UInt32) (now : Nanos) : TokenBucket α :=
  { capacity := ofNat capacity.toNat
    ratePerSecond := ofNat rate.toNat
    tokens := ofNat capacity.toNat
    lastRefill := now }

def tokensPerMilli (b : TokenBucket α) : α :=
  b.ratePerSecond / ofNat 1000

/-- Adds what has come in since the last refill. An instant before the last refill adds nothing,
but later ones count from it. -/
def refill (b : TokenBucket α) (now : Nanos) : TokenBucket α :=
  { b with
    tokens := least (b.tokens + millis (now - b.lastRefill) * b.tokensPerMilli) b.capacity
    lastRefill := now }

def tryTake (b : TokenBucket α) (count : UInt32) : Bool × TokenBucket α :=
  let wanted : α := ofNat count.toNat
  if atMost wanted b.tokens then (true, { b with tokens := b.tokens - wanted }) else (false, b)

/-- Changes the limits. Time up to now counts at the old rate; capacity that comes in addition
comes filled. -/
def reconfigure (b : TokenBucket α) (rate capacity : UInt32) (now : Nanos) : TokenBucket α :=
  let settled := b.refill now
  let capacity : α := ofNat capacity.toNat
  let added := greatest (capacity - settled.capacity) (ofNat 0)
  { settled with
    capacity
    ratePerSecond := ofNat rate.toNat
    tokens := least (settled.tokens + added) capacity }

def hasLimits (b : TokenBucket α) (rate capacity : UInt32) : Bool :=
  same b.ratePerSecond (ofNat rate.toNat) && same b.capacity (ofNat capacity.toNat)

end TokenBucket

end LogPipeline
