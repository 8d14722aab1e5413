import LogPipeline.Access.Permission
import LogPipeline.Collections.Table
import LogPipeline.Time.Duration

/-!
# Cached decisions

Decisions about permissions are kept for a fixed time. Instants are counted on a clock that never
goes back.
-/

namespace LogPipeline

structure Question where
  app : AppId
  permission : Permission
  clientIp : String
  deriving DecidableEq

structure Decision where
  allowed : Bool
  expiresAt : Nanos
  deriving DecidableEq

structure DecisionCache where
  ttl : Nanos
  decisions : Table Question Decision

namespace DecisionCache

def empty (ttl : Nanos) : DecisionCache := ⟨ttl, .empty⟩

def get? (cache : DecisionCache) (now : Nanos) (q : Question) : Option Bool :=
  match cache.decisions.get? q with
  | some d => if now < d.expiresAt then some d.allowed else none
  | none => none

/-- Keeps a decision for the time to live, which is assumed to be `Nanos.Waitable`: with a longer
one the clock overflows, and the call that asks for a decision ends without an answer. -/
def insert (cache : DecisionCache) (now : Nanos) (q : Question) (allowed : Bool) : DecisionCache :=
  { cache with decisions := cache.decisions.insert q ⟨allowed, now + cache.ttl⟩ }

def evict (cache : DecisionCache) (now : Nanos) : Nat × DecisionCache :=
  let kept := cache.decisions.filter fun d => now < d.expiresAt
  (cache.decisions.size - kept.size, { cache with decisions := kept })

def clear (cache : DecisionCache) : DecisionCache :=
  { cache with decisions := .empty }

def size (cache : DecisionCache) : Nat :=
  cache.decisions.size

end DecisionCache

end LogPipeline
