import LogPipeline.Time.Duration

namespace LogPipeline

structure RetryPolicy where
  maxRetries : UInt32
  interval : Nanos
  deriving DecidableEq, Repr, Inhabited

namespace RetryPolicy

def powerOfTwo (n : Nat) : Nat :=
  if n < 32 then Nat.pow 2 n else 4294967295

def backoff (p : RetryPolicy) (retry : Nat) : Nanos :=
  p.interval.times (powerOfTwo (retry - 1))

end RetryPolicy

end LogPipeline
