import LogPipeline.Log.Basic
import LogPipeline.Number.Total

namespace LogPipeline

inductive BatchStatus where
  | pending
  | processing
  | processed
  | failed
  deriving DecidableEq, Repr, Inhabited

namespace BatchStatus

def name : BatchStatus → String
  | .pending => "PENDING"
  | .processing => "PROCESSING"
  | .processed => "PROCESSED"
  | .failed => "FAILED"

def all : List BatchStatus := [.pending, .processing, .processed, .failed]

def named : List (String × BatchStatus) := all.map fun s => (s.name, s)

def canMoveTo : BatchStatus → BatchStatus → Bool
  | _, .pending => false
  | .processed, next => next = .processed
  | _, _ => true

def isTerminal (s : BatchStatus) : Bool :=
  s = .processed

end BatchStatus

structure Batch where
  id : BatchId
  app : AppId
  endpoint : EndpointId
  logs : List RawLog
  status : BatchStatus
  error : Option String
  retryCount : UInt32
  received : Timestamp
  processed : Option Timestamp
  lastProcess : Option Timestamp
  trace : Option String
  confirmed : Bool
  deriving DecidableEq, Inhabited

namespace Batch

def new (id : BatchId) (key : Key) (logs : List RawLog) (now : Timestamp) : Batch :=
  { id, logs
    app := key.app
    endpoint := key.endpoint
    status := .pending
    error := none
    retryCount := 0
    received := now
    processed := none
    lastProcess := none
    trace := none
    confirmed := false }

def key (b : Batch) : Key := ⟨b.app, b.endpoint⟩

def payloadSize (b : Batch) : Nat :=
  Number.total (b.logs.map RawLog.size)

def processingMillis (b : Batch) : Option Int :=
  b.processed.map (Timestamp.millisBetween b.received)

end Batch

end LogPipeline
