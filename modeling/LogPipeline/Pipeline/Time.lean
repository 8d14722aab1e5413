import LogPipeline.Pipeline.Work

namespace LogPipeline.Pipeline

open Backend

variable {α : Type} [Quantity α]

def nextDue? (p : Pipeline α) : Option Nat :=
  (p.timers.map (·.due)).min?

def moveTo (instant : Nat) : Step α Unit :=
  modify fun p =>
    let (due, later) := p.timers.partition fun t => t.due ≤ instant
    { p with clock := instant, ready := p.ready ++ due.map (·.task), timers := later }

/-- Lets time pass up to the last timer that is due before an instant. The number bounds the
instants at which something happens. -/
def passBefore (deadline : Nat) : Nat → Step α Unit
  | 0 => return
  | n + 1 => do
    settle
    match (← get).nextDue? with
    | none => return
    | some due =>
      if due < deadline then
        moveTo due
        passBefore deadline n

/-- Lets time pass up to an instant. The tasks that are due then are ready, and not yet done. -/
def passUntil (deadline : Nat) : Step α Unit := do
  passBefore deadline (deadline - (← get).clock + 1)
  moveTo deadline

/-- Waits for so many milliseconds. No wait is no reason to do what is ready. -/
def advance (millis : Nat) : Step α Unit := do
  if millis ≠ 0 then passUntil ((← get).clock + millis)

/-- Delivers a batch while the caller waits, outside the worker pool. The number bounds the
attempts. -/
def processFrom (id : BatchId) (retry : Nat) : Nat → Step α Outcome
  | 0 => return .interrupted
  | attempts + 1 => do
    match ← tryDelivery id retry with
    | .done outcome => return outcome
    | .wait retry span =>
      if (← get).pool.shutDown then return .interrupted
      if span ≠ 0 then passUntil ((← get).clock + span.waitMillis)
      processFrom id retry attempts

def process (id : BatchId) : Step α Outcome := do
  processFrom id 0 (← get).mostAttempts

/-- A bound on the milliseconds until all scheduled batches are done: each can wait, one after
another, for all its retries, and so can those that are still to be made. -/
def idleBound (p : Pipeline α) : Nat :=
  let batches := p.pool.inFlight + p.buffers.keysInUse.length + p.ready.length + 1
  let wait := (p.pool.policy.backoff p.pool.policy.maxRetries.toNat).waitMillis + 1
  batches * p.mostAttempts * wait

def passUntilIdle : Nat → Step α Unit
  | 0 => return
  | n + 1 => do
    if (← get).pool.inFlight = 0 then return
    settle
    if (← get).pool.inFlight = 0 then return
    match (← get).nextDue? with
    | none => return
    | some due =>
      moveTo due
      passUntilIdle n

def waitIdle : Step α Unit := do
  passUntilIdle (← get).idleBound

def interruptWaits : Step α Unit := do
  let p ← get
  let (waits, timers) := p.timers.partition fun t => t.task.isResume
  set { p with timers, pool := { p.pool with shutDown := true } }
  waits.forM fun wait =>
    match wait.task with
    | .resume id _ => leaveSeat id
    | _ => pure ()

/-- Shuts the worker pool down. What waits for a seat still gets one attempt. -/
def shutDown : Step α Unit := do
  interruptWaits
  if 0 < (← get).pool.inFlight then settle

end LogPipeline.Pipeline
