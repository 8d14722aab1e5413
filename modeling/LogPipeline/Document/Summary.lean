import LogPipeline.Access.Authentication
import LogPipeline.Backend.Basic
import LogPipeline.Delivery.Attempt
import LogPipeline.Health
import LogPipeline.Admission.Answer
import LogPipeline.Json.Record
import LogPipeline.Json.Writer
import LogPipeline.Pipeline.Config
import LogPipeline.Rate.Limiter

/-!
# Summaries

Short JSON forms for those who watch a pipeline. Times are milliseconds of the epoch, spans are
decimal texts of nanoseconds, sets are in order, and a long content is only named by its length.
-/

namespace LogPipeline

open Json

namespace Json

def ofNat (n : Nat) : Json := .int n

def ofMillis (t : Timestamp) : Json := .int t.millis

def ofSpan (d : Nanos) : Json := .str (toString d)

def ofStrings (xs : List String) : Json := .arr (xs.map .str)

def ofBits (x : Float) : Json := .str (BatchId.hexText 16 x.toBits.toNat)

def shownBytes : Nat := 200

def ofContent (s : String) : Json :=
  if s.utf8ByteSize ≤ shownBytes then .str s else .obj [("len", ofNat s.utf8ByteSize)]

def ofDict (d : Dict String) : Json :=
  .obj (d.entries.map fun e => (e.1, .str e.2))

end Json

/-! ## Logs and batches -/

def RawLog.summary (log : RawLog) : Json :=
  .obj
    [("content", ofContent log.content), ("format", .str log.format.name),
      ("source", .str log.source), ("ts_ms", ofMillis log.timestamp),
      ("metadata", ofDict log.metadata), ("size", ofNat log.size), ("ip", .str log.clientIp)]

/-- An error without what the reader of JSON says. -/
def withoutComplaint (error : String) : String :=
  if "invalid JSON".toList.isPrefixOf error.toList then "invalid JSON" else error

def ProcessedLog.summary (log : ProcessedLog) : Json :=
  .obj
    [("content", ofContent log.content), ("format", .str log.format.name),
      ("metadata", ofDict log.metadata), ("app", .str log.app.text),
      ("endpoint", .str log.endpoint.text), ("source", .str log.source),
      ("log_time", .arr [.int log.logTime.second, ofNat log.logTime.nano]),
      ("process_ms", ofMillis log.processTime), ("validated", .bool log.validated),
      ("error", ofOption .str (log.validationError.map withoutComplaint)),
      ("fields", .obj (log.fields.entries.map fun f => (f.1, .str f.2.text)))]

namespace Batch

def summary (b : Batch) : Json :=
  .obj
    [("id", .str b.id.text), ("key", .str b.key.text),
      ("logs", .arr (b.logs.map fun log => ofContent log.content)),
      ("status", .str b.status.name), ("terminal", .bool b.status.isTerminal),
      ("error", ofOption .str b.error), ("retry", ofUInt32 b.retryCount),
      ("received_ms", ofMillis b.received), ("processed_ms", ofOption ofMillis b.processed),
      ("last_ms", ofOption ofMillis b.lastProcess), ("trace", ofOption .str b.trace),
      ("confirmed", .bool b.confirmed), ("count", ofNat b.logs.length),
      ("bytes", ofNat b.payloadSize), ("took_ms", ofOption .int b.processingMillis)]

def line (b : Batch) : String :=
  b.id.text ++ " " ++ b.status.name ++ " r" ++ toString b.retryCount ++ " n" ++
    toString b.logs.length

def textsPrecede : List String → List String → Bool
  | [], _ => true
  | _ :: _, [] => false
  | a :: as, b :: bs => if a = b then textsPrecede as bs else a < b

/-- The order of reception; batches of the same instant are in the order of their keys and of the
contents of their logs. -/
def precedes (a b : Batch) : Bool :=
  if a.received ≠ b.received then a.received < b.received
  else if a.app ≠ b.app then a.app.text < b.app.text
  else if a.endpoint ≠ b.endpoint then a.endpoint.text < b.endpoint.text
  else textsPrecede (a.logs.map (·.content)) (b.logs.map (·.content))

end Batch

/-! ## Apps and endpoints -/

def App.summary (app : App) : Json :=
  .obj
    [("id", .str app.id.text), ("access_key", .str app.accessKey),
      ("secret_key", .str app.secretKey), ("status", .str app.status.name),
      ("expiry_ms", ofOption ofMillis app.expiry), ("ips", ofNames app.allowedIps),
      ("endpoints", ofNames app.allowedEndpoints), ("rate", ofUInt32 app.rateLimit),
      ("burst", ofUInt32 app.burstCapacity)]

def Endpoint.summary (e : Endpoint) : List (String × Json) :=
  [("id", .str e.id.text), ("name", .str e.name), ("format", .str e.format.name),
    ("max_payload", ofUInt64 e.maxPayload), ("max_batch", ofUInt64 e.maxBatch),
    ("status", .str e.status.name), ("active", .bool e.isActive),
    ("buffering", .arr [.bool e.bufferingEnabled, ofUInt64 e.bufferingTimeMs,
      ofUInt64 e.bufferingSize])]

def AuthContext.summary (c : AuthContext) : Json :=
  .obj
    [("app", .str c.app.text), ("ip", .str c.clientIp), ("at_ms", ofMillis c.authenticatedAt),
      ("method", .str c.method.label), ("status", .str c.status.name),
      ("expiry_ms", ofOption ofMillis c.expiry), ("endpoints", ofNames c.allowedEndpoints),
      ("ips", ofNames c.allowedIps), ("rate", ofUInt32 c.rateLimit),
      ("burst", ofUInt32 c.burstCapacity)]

/-! ## Answers -/

def Reception.summary (r : Reception) : Json :=
  let (batch, invalid) : Json × Nat := match r with
    | .accepted id invalid => (.str id.text, invalid)
    | _ => (.null, 0)
  .obj
    [("success", .bool r.isSuccess), ("message", .str r.message), ("batch", batch),
      ("buffered", .bool (decide (r = .buffered))), ("invalid", ofNat invalid)]

def Denial.answer : Except Denial Unit → Json
  | .ok () => .obj [("allowed", .bool true), ("reason", .null)]
  | .error d => .obj [("allowed", .bool false), ("reason", .str d.message)]

def AuthContext.answer : Except AuthRefusal AuthContext → Json
  | .ok c =>
    .obj [("ok", .bool true), ("app", .str c.app.text), ("context", c.summary), ("text", .null)]
  | .error r =>
    .obj [("ok", .bool false), ("app", .null), ("code", .str r.code), ("message", .str r.message),
      ("text", .str r.text)]

namespace Outcome

def name : Outcome → String
  | .processed .. => "Processed"
  | .nothingToStore => "NothingToStore"
  | .alreadyProcessed => "AlreadyProcessed"
  | .alreadyStored => "AlreadyStored"
  | .exhausted => "Exhausted"
  | .notFound => "NotFound"
  | .failed _ => "Failed"
  | .interrupted => "Interrupted"

def details : Outcome → List (String × Json)
  | .processed trace stored => [("trace", ofOption .str trace), ("stored", ofNat stored)]
  | .failed error => [("error_text", .str error)]
  | _ => []

def summary (o : Outcome) : Json :=
  .obj ([("outcome", .str o.name), ("processed", .bool o.isProcessed)] ++ o.details)

end Outcome

def StoreAnswer.summary : StoreAnswer → Json
  | .stored trace =>
    .obj [("success", .bool true), ("trace", ofOption .str trace), ("message", .null)]
  | .refused reason =>
    .obj [("success", .bool false), ("trace", .null), ("message", ofOption .str reason)]

/-! ## Errors -/

def Failure.kind : Failure → String
  | .config .. => "Config"
  | .repository .. => "Repository"
  | .gateway .. => "Gateway"
  | .batchNotFound _ => "BatchNotFound"
  | .refused _ => "Storage"
  | .invalidState _ => "InvalidState"
  | .interrupted => "Interrupted"

def ServiceError.kind : ServiceError → String
  | .settings (.fileNotFound _) => "Config.FileNotFound"
  | .settings .unparsable => "Config.ParseFailed"
  | .settings (.invalidValue ..) => "Config.InvalidValue"
  | .lifecycle (.initFailed _) => "Pipeline.InitFailed"
  | .lifecycle .alreadyRunning => "Pipeline.AlreadyRunning"
  | .lifecycle .notRunning => "Pipeline.NotRunning"
  | .storage (.unavailable _) => "Storage.Unavailable"
  | .storage (.rejected _) => "Storage.Rejected"
  | .io _ => "Io"

/-! ## Operation -/

def CleanupReport.summary (r : CleanupReport) : Json :=
  .obj
    [("processed_deleted", ofNat r.processedDeleted), ("failed_deleted", ofNat r.failedDeleted),
      ("timed_out", ofNat r.timedOut), ("errors", ofNat r.errors), ("total", ofNat r.total)]

def RetentionPolicy.summary (r : RetentionPolicy) : Json :=
  .arr [ofSpan r.processedRetention, ofSpan r.failedRetention, ofSpan r.processingTimeout]

def PipelineConfig.summary (c : PipelineConfig) : Json :=
  .obj
    [("max_buffer_time", ofSpan c.maxAge), ("flush_interval", ofSpan c.flushInterval),
      ("refill_interval", ofSpan c.refillInterval), ("auth_cache_ttl", ofSpan c.cacheTtl),
      ("retry", .arr [ofUInt32 c.retryPolicy.maxRetries, ofSpan c.retryPolicy.interval]),
      ("workers", if c.workers = 0 then .null else ofUInt64 c.workers),
      ("cleanup", c.retention.summary), ("cleanup_initial_delay", ofSpan c.cleanupDelay),
      ("cleanup_interval", ofSpan c.cleanupInterval)]

def Counters.summary (c : Counters) : Json :=
  .obj
    [("received_logs", ofUInt64 c.receivedLogs), ("received_batches", ofUInt64 c.receivedBatches),
      ("success_logs", ofUInt64 c.successLogs), ("failures", ofUInt64 c.failures),
      ("retries", ofUInt64 c.retries), ("processing_time_total_ms", ofUInt64 c.timeTotal),
      ("processing_time_max_ms", ofUInt64 c.timeMax),
      ("processing_time_min_ms", ofUInt64 c.timeMinOrZero),
      ("processing_time_count", ofUInt64 c.timeCount)]

def TokenBucket.limits (b : TokenBucket Float) : Json :=
  .arr [ofBits b.ratePerSecond, ofBits b.capacity]

def Limiter.summary (l : Limiter Float) (key : Key) : Json :=
  let bucket := l.buckets.get? key
  .obj
    [("len", ofNat l.buckets.size), ("empty", .bool l.buckets.isEmpty),
      ("tokens", ofOption (fun b => ofBits b.tokens) bucket),
      ("config", ofOption TokenBucket.limits bucket)]

def Export.summary (e : Export) : Json :=
  let sorted (xs : List Float) : List Float := xs.mergeSort fun x y => x.toBits ≤ y.toBits
  .obj
    [("counters", .obj (e.counters.rows.map fun r => (r.1.text, ofUInt64 r.2))),
      ("gauges", .obj (e.gauges.rows.map fun r => (r.1.text, ofNat r.2))),
      ("histograms", .obj (e.histograms.rows.map fun r =>
        (r.1.text, .arr ((sorted r.2).map ofBits))))]

def Metric.catalogue : Json :=
  .obj
    [("names", ofStrings (all.map name)),
      ("described", .obj (all.map fun m => (m.name, ofStrings [m.kind.name, m.description]))),
      ("buckets", .arr (durationBuckets.map ofBits))]

namespace Health

def toJson : Health → Json
  | .healthy => .str "Healthy"
  | .degraded reason => .obj [("Degraded", .str reason)]
  | .unhealthy reason => .obj [("Unhealthy", .str reason)]

def summary (h : Health) : Json :=
  .obj [("status", h.toJson), ("healthy", .bool h.isHealthy), ("unhealthy", .bool h.isUnhealthy)]

end Health

def ComponentHealth.summary (c : ComponentHealth) : Json :=
  .obj [("name", .str c.name), ("status", c.status.toJson)]

end LogPipeline
