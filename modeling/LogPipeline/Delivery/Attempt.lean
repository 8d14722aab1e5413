import LogPipeline.Backend.Basic
import LogPipeline.Delivery.RetryPolicy

/-!
# Delivery attempts

One attempt to bring a batch to the storage, and what follows from it: the end of the delivery, or
a wait before the next attempt. Each change of the batch is recorded by a call of its own, so an
attempt that fails halfway leaves the last recorded state.
-/

namespace LogPipeline

open Backend

inductive Outcome where
  | processed (trace : Option String) (stored : Nat)
  | nothingToStore
  | alreadyProcessed
  | alreadyStored
  | exhausted
  | notFound
  | failed (error : String)
  | interrupted
  deriving DecidableEq, Repr, Inhabited

namespace Outcome

def isProcessed : Outcome → Bool
  | .processed .. | .nothingToStore | .alreadyProcessed | .alreadyStored => true
  | _ => false

end Outcome

def attemptQuietly (call : Call Unit) : Call Unit :=
  tryCatch call fun _ => pure ()

def settledOutcome? (policy : RetryPolicy) : Option Batch → Option Outcome
  | none => some .notFound
  | some batch =>
    if batch.status = .processed then some .alreadyProcessed
    else if batch.status = .failed ∧ policy.maxRetries ≤ batch.retryCount then some .exhausted
    else none

def storeValid (id : BatchId) (batch : Batch) (valid : List ProcessedLog) (now : Timestamp) :
    Call Outcome := do
  match ← storeBatch id valid with
  | .refused reason => throw (.refused (reason.getD "no error message"))
  | .stored trace =>
    updateBatch id (.processed .processed now now trace true)
    let millis := (Timestamp.millisBetween batch.received now).toNat
    record fun t => t.batchProcessed batch.key (.ofNat valid.length) (.ofNat millis)
    return .processed trace valid.length

def attempt (policy : RetryPolicy) (now : Timestamp) (id : BatchId) (retry : Nat) :
    Call Outcome := do
  let found ← findBatch id
  match settledOutcome? policy found, found with
  | some outcome, _ => return outcome
  | none, none => return .notFound
  | none, some batch =>
    if ← isStored id then
      attemptQuietly (updateBatch id (.processed .processed now now none true))
      return .alreadyStored
    updateBatch id (.attempt .processing (.ofNat retry) now)
    let valid := (← preprocessBatch batch now).filter (·.validated)
    if valid.isEmpty then
      updateBatch id (.processTime .processed now now)
      return .nothingToStore
    storeValid id batch valid now

def giveUp (policy : RetryPolicy) (now : Timestamp) (id : BatchId) (error : Failure) :
    Call Outcome := do
  let message :=
    "batch processing failed after " ++ toString policy.maxRetries ++ " retries: " ++ error.message
  attemptQuietly do
    updateBatch id (.failed policy.maxRetries message now)
    match ← findBatch id with
    | none => return
    | some batch =>
      record fun t => t.batchFailed batch.key
      modify fun b => { b with notices := b.notices ++ [(batch.id, message)] }
  return .failed message

def countRetry (id : BatchId) : Call Unit :=
  attemptQuietly do
    if let some batch ← findBatch id then
      record fun t => t.retried batch.key

inductive Next where
  | done (outcome : Outcome)
  | wait (retry : Nat) (span : Nanos)

def tryOnce (policy : RetryPolicy) (now : Timestamp) (id : BatchId) (retry : Nat)
    (b : Backend) : Next × Backend :=
  match (attempt policy now id retry).on b with
  | (.ok outcome, b) => (.done outcome, b)
  | (.error e, b) =>
    if policy.maxRetries.toNat < retry + 1 then
      match (giveUp policy now id e).on b with
      | (.ok outcome, b) => (.done outcome, b)
      | (.error e, b) => (.done (.failed e.message), b)
    else
      let b := ((countRetry id).on b).2
      (.wait (retry + 1) (policy.backoff (retry + 1)), b)

end LogPipeline
