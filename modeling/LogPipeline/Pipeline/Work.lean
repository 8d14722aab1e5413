import LogPipeline.Pipeline.Gateway

namespace LogPipeline.Pipeline

open Backend

variable {α : Type}

/-! ## The worker pool -/

def schedule (id : BatchId) : Step α Unit := do
  let p ← get
  if p.pool.shutDown then return
  set { p with pool := { p.pool with waiting := p.pool.waiting ++ [id] } }
  setReady .serve

def announce (id : BatchId) : Step α Unit := do
  match (← get).handler with
  | .announce => modify fun p => { p with announced := p.announced ++ [id] }
  | .deliver => schedule id

def leaveSeat (id : BatchId) : Step α Unit := do
  modify fun p => { p with pool := { p.pool with seated := p.pool.seated.erase id } }
  if ! (← get).pool.waiting.isEmpty then setReady .serve

def tryDelivery (id : BatchId) (retry : Nat) : Step α Next := do
  let p ← get
  onBackend (tryOnce p.pool.policy p.now id retry)

/-- Makes attempts for a seated batch until it is done or has to wait. The number bounds the
attempts that follow each other without a wait. -/
def deliver (id : BatchId) (retry : Nat) : Nat → Step α Unit
  | 0 => leaveSeat id
  | attempts + 1 => do
    match ← tryDelivery id retry with
    | .done _ => leaveSeat id
    | .wait retry span =>
      if (← get).pool.shutDown then leaveSeat id
      else if span = 0 then deliver id retry attempts
      else setTimer span.waitMillis (.resume id retry)

def mostAttempts (p : Pipeline α) : Nat :=
  p.pool.policy.maxRetries.toNat + 1

def serve : Step α Unit := do
  let p ← get
  match p.pool.waiting with
  | [] => return
  | id :: waiting =>
    if p.pool.seats ≤ p.pool.seated.length then return
    set { p with pool := { p.pool with seated := p.pool.seated ++ [id], waiting } }
    deliver id 0 p.mostAttempts

/-! ## Buffers -/

def showBuffered : Step α Unit := do
  let count := (← get).buffers.count
  record fun t => t.buffered count

/-- Makes a batch of logs, and tells whether it could be saved. If not, the logs are lost. -/
def makeBatch (key : Key) (logs : List RawLog) : Step α Bool := do
  let now := (← get).now
  match ← call (newBatch key logs now) with
  | .error _ => return false
  | .ok batch =>
    match ← call (saveBatch batch) with
    | .error _ => return false
    | .ok () => announce batch.id; return true

/-- Puts a log into the buffer of its key. A buffer that is full or old enough is emptied, and a
batch of its logs is made as soon as there is time. The answer tells whether that happened. -/
def addLog (key : Key) (log : RawLog) : Step α Bool := do
  let p ← get
  let buffers := p.buffers.push key log p.clock
  let buffer := buffers.bufferFor key p.clock
  let isFull := buffers.threshold ≤ buffer.logs.length
  let isOld := buffers.maxAge ≤ Nanos.ofMillis (p.clock - buffer.since)
  set { p with buffers := if isFull || isOld then buffers.take key p.clock else buffers }
  showBuffered
  if isFull || isOld then setReady (.flush key buffer.logs)
  return isFull || isOld

def makeBatches : List (Key × List RawLog) → Step α Nat
  | [] => return 0
  | (key, logs) :: rest => do
    let saved ← makeBatch key logs
    let count ← makeBatches rest
    return if saved then count + 1 else count

def drainBuffers : Step α Nat := do
  let groups := (← get).buffers.groups
  if groups.isEmpty then return 0
  modify fun p => { p with buffers := p.buffers.cleared }
  showBuffered
  makeBatches groups

/-! ## Tasks -/

def runJob [Quantity α] : JobKind → Step α Unit
  | .flushBuffers => discard drainBuffers
  | .refillLimiter => refillLimiter
  | .evictDecisions => discard evictDecisions
  | .cleanUp => do
    let p ← get
    discard (onBackend (cleanUp p.retention p.now))

def runTask [Quantity α] : Task → Step α Unit
  | .flush key logs => discard (makeBatch key logs)
  | .serve => serve
  | .resume id retry => do deliver id retry (← get).mostAttempts
  | .run job => do
    setTimer job.period (.run job)
    runJob job.kind
  | .change c => change c

def runNext [Quantity α] : Step α Unit := do
  let p ← get
  match p.ready with
  | [] => return
  | task :: ready =>
    set { p with ready }
    runTask task

/-- How many tasks a task may lead to, itself included. -/
def taskLoad : Task → Nat
  | .flush .. => 4
  | .resume .. => 2
  | _ => 1

/-- How many tasks there can be until all are done: each buffer can become a batch, and each
waiting batch can take a seat and leave it. -/
def load (p : Pipeline α) : Nat :=
  Number.total (p.ready.map taskLoad) + 2 * p.pool.waiting.length + 4 * p.buffers.keysInUse.length

def runTasks [Quantity α] : Nat → Step α Unit
  | 0 => return
  | n + 1 => do
    if (← get).ready.isEmpty then return
    runNext
    runTasks n

def settle [Quantity α] : Step α Unit := do
  runTasks (← get).load

def waitForFlushes [Quantity α] : Step α Unit := do
  if (← get).ready.any Task.isFlush then settle

def flushAll [Quantity α] : Step α Nat := do
  let count ← drainBuffers
  waitForFlushes
  return count

end LogPipeline.Pipeline
