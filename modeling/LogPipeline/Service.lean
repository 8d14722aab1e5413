import LogPipeline.Admission.Stages
import LogPipeline.Health
import LogPipeline.Pipeline.Config
import LogPipeline.Pipeline.Time

namespace LogPipeline

inductive ServiceState where
  | initialized
  | running
  | stopped
  deriving DecidableEq, Repr, Inhabited

def ServiceState.name : ServiceState → String
  | .initialized => "initialized"
  | .running => "running"
  | .stopped => "stopped"

structure Service (α : Type) where
  config : PipelineConfig
  state : ServiceState
  pipeline : Pipeline α

def PipelineConfig.pipeline {α : Type} (c : PipelineConfig) (processors : Nat) (backend : Backend)
    (epoch : Int) : Pipeline α :=
  { (Pipeline.idle backend epoch : Pipeline α) with
    gateway := .new c.cacheTtl c.validityMs
    buffers := .empty c.bufferThreshold.toNat c.maxAge
    pool := .new c.retryPolicy (c.workersOn processors)
    retention := c.retention }

def JobKind.name : JobKind → String
  | .flushBuffers => "buffer_flush"
  | .refillLimiter => "rate_limit_refill"
  | .evictDecisions => "auth_cache_eviction"
  | .cleanUp => "batch_cleanup"

/-- The jobs of a running service, each with the milliseconds until its first run. The spans until
the first runs are assumed to be `Nanos.Waitable`: the clock overflows where a longer one is added,
and that job never runs. A longer period is a wait without end. -/
def PipelineConfig.jobs (c : PipelineConfig) : List (Nat × Job) :=
  let job (kind : JobKind) (delay period : Nanos) : Nat × Job :=
    (delay.waitMillis, ⟨kind, max period.waitMillis 1⟩)
  let always :=
    [job .flushBuffers c.flushInterval c.flushInterval,
      job .refillLimiter c.refillInterval c.refillInterval,
      job .evictDecisions c.cacheTtl c.cacheTtl]
  if c.cleanupEnabled then always ++ [job .cleanUp c.cleanupDelay c.cleanupInterval] else always

namespace Service

open Pipeline

variable {α : Type}

def build (c : PipelineConfig) (processors : Nat) (backend : Backend) (epoch : Int) :
    Except Failure (Service α) := do
  c.validate
  return ⟨c, .initialized, c.pipeline processors backend epoch⟩

def isRunning (s : Service α) : Bool :=
  s.state = .running

def onPipeline {β : Type} (step : Step α β) : StateM (Service α) β := fun s =>
  let (answer, pipeline) := step s.pipeline
  (answer, { s with pipeline })

def setState (state : ServiceState) : StateM (Service α) Unit :=
  modify fun s => { s with state }

/-! ## Life cycle -/

def start : StateM (Service α) (Except ServiceError Unit) := do
  let s ← get
  match s.state with
  | .running => return .error (.lifecycle .alreadyRunning)
  | .stopped =>
    return .error (.lifecycle (.initFailed "a stopped service cannot be restarted"))
  | .initialized =>
    setState .running
    onPipeline (s.config.jobs.forM fun (delay, job) => setTimer delay (.run job))
    return .ok ()

def endJobs : Step α Unit :=
  modify fun p => { p with
    ready := p.ready.filter fun t => ! t.isJob
    timers := p.timers.filter fun t => ! t.task.isJob }

/-- Makes batches of all buffered logs, ends all jobs, gives the batches that wait for a seat
one attempt each, and cuts short all waits. No time passes. -/
def stop [Quantity α] : StateM (Service α) (Except ServiceError Unit) := do
  if ! (← get).isRunning then return .error (.lifecycle .notRunning)
  setState .stopped
  onPipeline do
    let _ ← flushAll
    endJobs
    settle
    let _ ← flushAll
    shutDown
  return .ok ()

def waitIdle [Quantity α] : StateM (Service α) Unit :=
  onPipeline do
    waitForFlushes
    Pipeline.waitIdle

/-! ## Submissions -/

def receive [Quantity α] (s : Submission) : StateM (Service α) Reception := do
  if (← get).isRunning then onPipeline (Admission.submit s)
  else return .rejected .notRunning

/-! ## Health -/

/-- The number of buffered logs, in thresholds, above which the service is degraded. -/
def degradedFactor : Nat := 10

def health (s : Service α) : Health :=
  match s.state with
  | .initialized => .unhealthy "not started"
  | .stopped => .unhealthy "stopped"
  | .running =>
    let buffered := s.pipeline.buffers.count
    let limit := s.pipeline.buffers.threshold * degradedFactor
    if limit < buffered then
      .degraded ("buffered logs high: " ++ toString buffered ++ " > " ++ toString limit)
    else .healthy

end Service

end LogPipeline
