import LogPipeline.Access.DecisionCache
import LogPipeline.Backend.Change
import LogPipeline.Delivery.Attempt
import LogPipeline.Pipeline.Buffers
import LogPipeline.Rate.Limiter
import LogPipeline.Retention

/-!
# The state of a pipeline

Buffers, rate limits, decisions, the worker pool, and the work that is ready or waits for its
time. Time is virtual: it stands still while work is done, and moves on only when something waits.
-/

namespace LogPipeline

structure Gateway (α : Type) where
  limiter : Limiter α
  cache : DecisionCache
  validityMs : UInt64

def Gateway.new {α : Type} (ttl : Nanos) (validityMs : UInt64) : Gateway α :=
  ⟨.empty, .empty ttl, validityMs⟩

/-- The worker pool. A batch that waits for its next attempt keeps its seat. -/
structure Pool where
  policy : RetryPolicy
  seats : Nat
  seated : List BatchId
  waiting : List BatchId
  shutDown : Bool

namespace Pool

def new (policy : RetryPolicy) (workers : Nat) : Pool :=
  ⟨policy, max workers 1, [], [], false⟩

def inFlight (p : Pool) : Nat :=
  p.waiting.length + p.seated.length

end Pool

inductive JobKind where
  | flushBuffers
  | refillLimiter
  | evictDecisions
  | cleanUp
  deriving DecidableEq, Repr

structure Job where
  kind : JobKind
  /-- Milliseconds from one run to the next, at least one. -/
  period : Nat

inductive Task where
  | flush (key : Key) (logs : List RawLog)
  | serve
  | resume (id : BatchId) (retry : Nat)
  | run (job : Job)
  | change (c : Change)

namespace Task

def isFlush : Task → Bool
  | .flush .. => true
  | _ => false

def isResume : Task → Bool
  | .resume .. => true
  | _ => false

def isJob : Task → Bool
  | .run _ => true
  | _ => false

end Task

/-- A task that becomes ready at an instant, in milliseconds. -/
structure Timer where
  due : Nat
  task : Task

inductive ReadyHandler where
  | announce
  | deliver
  deriving DecidableEq, Repr

structure Pipeline (α : Type) where
  backend : Backend
  gateway : Gateway α
  buffers : Buffers
  pool : Pool
  retention : RetentionPolicy
  handler : ReadyHandler
  announced : List BatchId
  /-- The tasks that are ready, the next one first. -/
  ready : List Task
  /-- The tasks that wait for their time, in the order in which they were set up. -/
  timers : List Timer
  /-- Milliseconds since the beginning. -/
  clock : Nat
  /-- The beginning, in milliseconds of the epoch. -/
  epoch : Int

namespace Pipeline

variable {α : Type}

def idle (backend : Backend) (epoch : Int) : Pipeline α :=
  { backend
    gateway := .new 0 0
    buffers := .empty 1 0
    pool := .new ⟨0, 0⟩ 1
    retention := .defaults
    handler := .deliver
    announced := []
    ready := []
    timers := []
    clock := 0
    epoch }

abbrev Step (α β : Type) := StateM (Pipeline α) β

def now (p : Pipeline α) : Timestamp :=
  .ofMillis (p.epoch + p.clock)

/-- The instant on the clock that never goes back. -/
def instant (p : Pipeline α) : Nanos :=
  .ofMillis p.clock

def onBackend {β : Type} (act : StateM Backend β) : Step α β := fun p =>
  let (answer, backend) := act p.backend
  (answer, { p with backend })

def call {β : Type} (c : Backend.Call β) : Step α (Except Failure β) :=
  onBackend c.run

def setReady (task : Task) : Step α Unit :=
  modify fun p => { p with ready := p.ready ++ [task] }

def setTimer (wait : Nat) (task : Task) : Step α Unit :=
  if wait = 0 then setReady task
  else modify fun p => { p with timers := p.timers ++ [⟨p.clock + wait, task⟩] }

def change (c : Change) : Step α Unit :=
  modify fun p => { p with backend := c.apply p.now p.backend }

def record (f : Telemetry → Telemetry) : Step α Unit :=
  modify fun p => { p with backend := { p.backend with telemetry := f p.backend.telemetry } }

end Pipeline

end LogPipeline
