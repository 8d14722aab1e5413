import LogPipeline.Identity
import LogPipeline.Telemetry.Export

/-!
# Counters

What is counted for each key. Every event also goes to the exported series; rejections are only
exported.
-/

namespace LogPipeline

structure Counters where
  receivedLogs : UInt64
  receivedBatches : UInt64
  successLogs : UInt64
  failures : UInt64
  retries : UInt64
  timeTotal : UInt64
  timeMax : UInt64
  timeMin : Option UInt64
  timeCount : UInt64
  deriving DecidableEq, Repr

namespace Counters

def zero : Counters :=
  { receivedLogs := 0, receivedBatches := 0, successLogs := 0, failures := 0, retries := 0
    timeTotal := 0, timeMax := 0, timeMin := none, timeCount := 0 }

instance : Inhabited Counters := ⟨zero⟩

def addSuccess (c : Counters) (logs millis : UInt64) : Counters :=
  { c with
    successLogs := c.successLogs + logs
    timeTotal := c.timeTotal + millis
    timeMax := max c.timeMax millis
    timeMin := some (c.timeMin.elim millis (min · millis))
    timeCount := c.timeCount + 1 }

def timeMinOrZero (c : Counters) : UInt64 :=
  match c.timeMin with
  | some n => if n = 0xFFFFFFFFFFFFFFFF then 0 else n
  | none => 0

def averageMillis (c : Counters) : Float :=
  if c.timeCount = 0 then 0.0 else c.timeTotal.toFloat / c.timeCount.toFloat

end Counters

structure Telemetry where
  perKey : Table Key Counters
  exported : Export

namespace Telemetry

def empty : Telemetry := ⟨.empty, .empty⟩

instance : Inhabited Telemetry := ⟨empty⟩

def keySeries (metric : Metric) (key : Key) : Series :=
  ⟨metric, [("app_id", key.app.text), ("endpoint_id", key.endpoint.text)]⟩

def counters (t : Telemetry) (key : Key) : Counters :=
  (t.perKey.get? key).getD .zero

def update (t : Telemetry) (key : Key) (f : Counters → Counters) : Telemetry :=
  { t with perKey := t.perKey.insert key (f (t.counters key)) }

def countKey (t : Telemetry) (metric : Metric) (key : Key) (n : UInt64) : Telemetry :=
  { t with exported := t.exported.count (keySeries metric key) n }

def logsReceived (t : Telemetry) (key : Key) (n : UInt64) : Telemetry :=
  (t.update key fun c => { c with receivedLogs := c.receivedLogs + n }).countKey .logsReceived key n

def batchReceived (t : Telemetry) (key : Key) : Telemetry :=
  (t.update key fun c => { c with receivedBatches := c.receivedBatches + 1 }).countKey
    .batchesReceived key 1

def batchProcessed (t : Telemetry) (key : Key) (logs millis : UInt64) : Telemetry :=
  let t := t.update key fun c => c.addSuccess logs millis
  let t := (t.countKey .batchesProcessed key 1).countKey .logsStored key logs
  { t with exported :=
      t.exported.measure (keySeries .processingDuration key) (millis.toFloat / 1000.0) }

def batchFailed (t : Telemetry) (key : Key) : Telemetry :=
  (t.update key fun c => { c with failures := c.failures + 1 }).countKey .batchesFailed key 1

def retried (t : Telemetry) (key : Key) : Telemetry :=
  (t.update key fun c => { c with retries := c.retries + 1 }).countKey .batchRetries key 1

def rejected (t : Telemetry) (reason : String) : Telemetry :=
  { t with exported := t.exported.count ⟨.admissionRejected, [("reason", reason)]⟩ 1 }

def cleaned (t : Telemetry) (result : String) (n : Nat) : Telemetry :=
  if n = 0 then t
  else { t with exported := t.exported.count ⟨.batchesCleaned, [("result", result)]⟩ (.ofNat n) }

def buffered (t : Telemetry) (n : Nat) : Telemetry :=
  { t with exported := t.exported.gauge ⟨.bufferedLogs, []⟩ n }

/-- Forgets the counters of all keys; the exported series stay. -/
def reset (t : Telemetry) : Telemetry :=
  { t with perKey := .empty }

end Telemetry

end LogPipeline
