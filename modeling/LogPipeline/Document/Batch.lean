import LogPipeline.Batch.Basic
import LogPipeline.Document.Log

namespace LogPipeline

open Json

namespace BatchStatus

def toJson (s : BatchStatus) : Json := .str s.name

def ofJson? : Json → Option BatchStatus := choice? named

end BatchStatus

namespace Batch

def fieldNames : List String :=
  ["id", "app_id", "endpoint_id", "logs", "status", "error_message", "retry_count",
    "received_time", "processed_time", "last_process_time", "batch_trace_id", "confirmed"]

def toJson (b : Batch) : Json :=
  .obj
    [("id", b.id.toJson),
      ("app_id", b.app.toJson),
      ("endpoint_id", b.endpoint.toJson),
      ("logs", .arr (b.logs.map RawLog.toJson)),
      ("status", b.status.toJson),
      ("error_message", ofOption .str b.error),
      ("retry_count", ofUInt32 b.retryCount),
      ("received_time", ofTime b.received),
      ("processed_time", ofOption ofTime b.processed),
      ("last_process_time", ofOption ofTime b.lastProcess),
      ("batch_trace_id", ofOption .str b.trace),
      ("confirmed", .bool b.confirmed)]

def ofJson? (j : Json) : Option Batch := do
  let [id, app, endpoint, logs, status, error, retryCount, received, processed, lastProcess, trace,
    confirmed] ← j.fields? fieldNames | none
  return {
    id := ← required BatchId.ofJson? id
    app := ← required AppId.ofJson? app
    endpoint := ← required EndpointId.ofJson? endpoint
    logs := ← required (list? RawLog.ofJson?) logs
    status := ← required BatchStatus.ofJson? status
    error := ← optional text? error
    retryCount := ← required uint32? retryCount
    received := ← required time? received
    processed := ← optional time? processed
    lastProcess := ← optional time? lastProcess
    trace := ← optional text? trace
    confirmed := ← required bool? confirmed }

end Batch

end LogPipeline
