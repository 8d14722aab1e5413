import LogPipeline.Backend.Fault
import LogPipeline.Backend.Storage
import LogPipeline.Batch.Store
import LogPipeline.Log.Structuring
import LogPipeline.Registry.App
import LogPipeline.Registry.Endpoint
import LogPipeline.Telemetry.Counters

/-!
# Backend

What the pipeline calls: the registries of apps and endpoints, the store of batches, the
preprocessor and the storage, together with what it counts and whom it notifies. A call may fail,
and what it did before it failed stays done.
-/

namespace LogPipeline

structure Backend where
  apps : Catalogue App.id
  endpoints : Catalogue Endpoint.id
  batches : BatchStore
  storage : Storage
  preprocessor : Preprocessor
  /-- With the script, what adapters do that do not keep everything in memory. -/
  faults : FaultPlan
  script : List ScriptedAnswer
  telemetry : Telemetry
  /-- The batches that failed for good, with the message of the failure, the latest last. -/
  notices : List (BatchId × String)
  ids : IdSource
  deriving Inhabited

namespace Backend

def empty (ids : IdSource) (preprocessor : Preprocessor) : Backend :=
  { apps := .empty
    endpoints := .empty
    batches := .empty
    storage := .empty
    preprocessor
    faults := .empty
    script := []
    telemetry := .empty
    notices := []
    ids }

abbrev Call (α : Type) := ExceptT Failure (StateM Backend) α

def Call.on {α : Type} (call : Call α) (b : Backend) : Except Failure α × Backend :=
  call.run b

def goesWrong (p : Port) : Call Bool := do
  let b ← get
  let (wrong, faults) := b.faults.take p
  set { b with faults }
  return wrong

def checkpoint (p : Port) : Call Unit := do
  if ← goesWrong p then throw p.failure

def findAppByKey (accessKey : String) : Call (Option App) := do
  checkpoint .findAppByKey
  return (← get).apps.values.find? fun app => app.accessKey = accessKey

def findApp (id : AppId) : Call (Option App) := do
  checkpoint .findApp
  return (← get).apps.get? id

def findEndpoint (id : EndpointId) : Call (Option Endpoint) := do
  checkpoint .findEndpoint
  return (← get).endpoints.get? id

def saveBatch (batch : Batch) : Call Unit := do
  checkpoint .saveBatch
  let b ← get
  match b.batches.save batch with
  | .error e => throw e
  | .ok batches => set { b with batches }

def findBatch (id : BatchId) : Call (Option Batch) := do
  checkpoint .findBatch
  if ← goesWrong .loseBatch then return none
  return (← get).batches.get? id

def portOf : BatchUpdate → Port
  | .status .. => .updateStatus
  | .attempt .. => .updateAttempt
  | .failed .. => .updateFailed
  | .processTime .. => .updateProcessTime
  | .processed .. => .updateProcessed

def updateBatch (id : BatchId) (u : BatchUpdate) : Call Unit := do
  checkpoint (portOf u)
  let b ← get
  match b.batches.update id u with
  | .error e => throw e
  | .ok batches => set { b with batches }

def deleteBatch (id : BatchId) : Call Bool := do
  checkpoint .deleteBatch
  if ← goesWrong .deleteRace then
    modify fun b => { b with batches := b.batches.erase id }
  let b ← get
  match b.batches.delete id with
  | .error e => throw e
  | .ok (found, batches) => set { b with batches }; return found

def batchesProcessedBefore (status : BatchStatus) (bound : Timestamp) : Call (List Batch) := do
  checkpoint .findProcessedBefore
  return (← get).batches.processedBefore status bound

def batchesLastProcessBefore (status : BatchStatus) (bound : Timestamp) : Call (List Batch) := do
  checkpoint .findLastProcessBefore
  return (← get).batches.lastProcessBefore status bound

def countByStatus (status : BatchStatus) : Call Nat := do
  checkpoint .countByStatus
  return ((← get).batches.withStatus status).length

def preprocessBatch (batch : Batch) (now : Timestamp) : Call (List ProcessedLog) := do
  checkpoint .preprocess
  return (← get).preprocessor.preprocessBatch batch now

def storeDirectly (id : BatchId) (logs : List ProcessedLog) : Call StoreAnswer := do
  let b ← get
  let (answer, storage) := b.storage.store id logs
  set { b with storage }
  match answer with
  | .error e => throw e
  | .ok answer => return answer

def nextScripted : Call ScriptedAnswer := do
  let b ← get
  match b.script with
  | [] => return .asUsual
  | answer :: script => set { b with script }; return answer

def storeBatch (id : BatchId) (logs : List ProcessedLog) : Call StoreAnswer := do
  checkpoint .store
  match ← nextScripted with
  | .asUsual => storeDirectly id logs
  | .refuse => return .refused (some "rejected by script")
  | .refuseSilently => return .refused none
  | .storeWithoutTrace =>
    match ← storeDirectly id logs with
    | .stored _ => return .stored none
    | answer => return answer
  | .storeThenFail =>
    let _ ← storeDirectly id logs
    throw (.gateway "storage" "connection reset")

def isStored (id : BatchId) : Call Bool := do
  checkpoint .isStored
  match (← get).storage.holds id with
  | .error e => throw e
  | .ok held => return held

def newBatch (key : Key) (logs : List RawLog) (now : Timestamp) : Call Batch := do
  let b ← get
  set { b with ids := b.ids.advance }
  return .new b.ids.fresh key logs now

def record (f : Telemetry → Telemetry) : Call Unit :=
  modify fun b => { b with telemetry := f b.telemetry }

end Backend

end LogPipeline
