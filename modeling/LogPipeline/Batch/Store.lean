import LogPipeline.Batch.Basic
import LogPipeline.Collections.Catalogue
import LogPipeline.Failure

/-!
# Batch store

The batches that are kept, and the narrow changes that may be made to one. Each change names the
fields that it writes, asks that the status may move as it wants, and leaves the store as it was
when it is refused. Writes as a whole can be made to fail.
-/

namespace LogPipeline

structure BatchStore where
  kept : Catalogue Batch.id
  failWrites : Bool

inductive BatchUpdate where
  | status (status : BatchStatus) (error : Option String)
  | attempt (status : BatchStatus) (retryCount : UInt32) (time : Timestamp)
  | failed (retryCount : UInt32) (error : String) (time : Timestamp)
  | processTime (status : BatchStatus) (done last : Timestamp)
  | processed (status : BatchStatus) (done last : Timestamp) (trace : Option String)
      (confirmed : Bool)

namespace BatchUpdate

def operation : BatchUpdate → String
  | .status .. => "update_status"
  | .attempt .. => "update_status_and_retry_count"
  | .failed .. => "update_failed_status"
  | .processTime .. => "update_status_and_process_time"
  | .processed .. => "update_processed_status"

def target : BatchUpdate → BatchStatus
  | .status s _ => s
  | .attempt s _ _ => s
  | .failed .. => .failed
  | .processTime s _ _ => s
  | .processed s _ _ _ _ => s

def write : BatchUpdate → Batch → Batch
  | .status _ error, b => { b with error }
  | .attempt _ retryCount time, b => { b with retryCount, lastProcess := some time }
  | .failed retryCount error time, b =>
    { b with retryCount, error := some error, lastProcess := some time }
  | .processTime _ done last, b =>
    { b with processed := some done, lastProcess := some last }
  | .processed _ done last trace confirmed, b =>
    { b with processed := some done, lastProcess := some last, trace, confirmed, error := none }

def apply (u : BatchUpdate) (b : Batch) : Batch :=
  u.write { b with status := u.target }

end BatchUpdate

namespace BatchStore

def empty : BatchStore := ⟨.empty, false⟩

instance : Inhabited BatchStore := ⟨empty⟩

def get? (s : BatchStore) (id : BatchId) : Option Batch :=
  s.kept.get? id

def put (s : BatchStore) (b : Batch) : BatchStore :=
  { s with kept := s.kept.put b }

def erase (s : BatchStore) (id : BatchId) : BatchStore :=
  { s with kept := s.kept.erase id }

def writeFailure (operation : String) : Failure :=
  .repository operation "write failure injected"

def save (s : BatchStore) (b : Batch) : Except Failure BatchStore :=
  if s.failWrites then .error (writeFailure "save") else .ok (s.put b)

def illegalMove (id : BatchId) (current target : BatchStatus) : Failure :=
  .invalidState ("batch " ++ id.text ++ " cannot move from " ++ current.name ++ " to " ++ target.name)

def update (s : BatchStore) (id : BatchId) (u : BatchUpdate) : Except Failure BatchStore :=
  if s.failWrites then .error (writeFailure u.operation)
  else
    match s.get? id with
    | none => .error (.batchNotFound id.text)
    | some b =>
      if b.status.canMoveTo u.target then .ok (s.put (u.apply b))
      else .error (illegalMove id b.status u.target)

def delete (s : BatchStore) (id : BatchId) : Except Failure (Bool × BatchStore) :=
  if s.failWrites then .error (writeFailure "delete")
  else .ok (s.kept.contains id, s.erase id)

def isBefore (time : Option Timestamp) (bound : Timestamp) : Bool :=
  match time with
  | none => false
  | some t => t < bound

def withStatus (s : BatchStore) (status : BatchStatus) : List Batch :=
  s.kept.values.filter fun b => b.status = status

def processedBefore (s : BatchStore) (status : BatchStatus) (bound : Timestamp) : List Batch :=
  (s.withStatus status).filter fun b => isBefore b.processed bound

def lastProcessBefore (s : BatchStore) (status : BatchStatus) (bound : Timestamp) : List Batch :=
  (s.withStatus status).filter fun b => isBefore b.lastProcess bound

def oldestFirst (s : BatchStore) : List Batch :=
  s.kept.values.mergeSort fun a b => ! (b.received < a.received)

end BatchStore

end LogPipeline
