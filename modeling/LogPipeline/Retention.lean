import LogPipeline.Backend.Basic
import LogPipeline.Time.Duration

/-!
# Retention

Old batches are deleted: processed ones by the time they were processed, failed ones by their last
attempt. Batches that have been in processing for too long are marked as failed. A call that fails
is counted and does not stop the others.
-/

namespace LogPipeline

open Backend

structure RetentionPolicy where
  processedRetention : Nanos
  failedRetention : Nanos
  processingTimeout : Nanos
  deriving DecidableEq, Repr, Inhabited

def RetentionPolicy.defaults : RetentionPolicy :=
  { processedRetention := .ofSeconds (24 * 3600)
    failedRetention := .ofSeconds (72 * 3600)
    processingTimeout := .ofSeconds (30 * 60) }

structure CleanupReport where
  processedDeleted : Nat
  failedDeleted : Nat
  timedOut : Nat
  errors : Nat
  deriving DecidableEq, Repr, Inhabited

def CleanupReport.total (r : CleanupReport) : Nat :=
  r.processedDeleted + r.failedDeleted + r.timedOut

def timeoutMessage : String := "processing timeout"

structure Tally where
  done : Nat
  errors : Nat

def tallyEach (act : BatchId → Call Bool) : List Batch → StateM Backend Tally
  | [] => return ⟨0, 0⟩
  | batch :: rest => do
    let answer ← (act batch.id).run
    let tally ← tallyEach act rest
    match answer with
    | .ok true => return { tally with done := tally.done + 1 }
    | .ok false => return tally
    | .error _ => return { tally with errors := tally.errors + 1 }

def tallyFound (query : Call (List Batch)) (act : BatchId → Call Bool) : StateM Backend Tally := do
  match ← query.run with
  | .ok found => tallyEach act found
  | .error _ => return ⟨0, 1⟩

def timeOut (id : BatchId) : Call Bool := do
  updateBatch id (.status .failed (some timeoutMessage))
  return true

def cleanUp (policy : RetentionPolicy) (now : Timestamp) : StateM Backend CleanupReport := do
  let processed ← tallyFound
    (batchesProcessedBefore .processed (now.before policy.processedRetention)) deleteBatch
  let failed ← tallyFound
    (batchesLastProcessBefore .failed (now.before policy.failedRetention)) deleteBatch
  let stuck ← tallyFound
    (batchesLastProcessBefore .processing (now.before policy.processingTimeout)) timeOut
  modify fun b => { b with telemetry :=
    (b.telemetry.cleaned "deleted" (processed.done + failed.done)).cleaned "timed_out" stuck.done }
  return { processedDeleted := processed.done
           failedDeleted := failed.done
           timedOut := stuck.done
           errors := processed.errors + failed.errors + stuck.errors }

end LogPipeline
