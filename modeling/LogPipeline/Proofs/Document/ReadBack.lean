import LogPipeline.Document.Batch
import LogPipeline.Document.Registry
import LogPipeline.Pipeline.Config
import LogPipeline.Proofs.Json.Record
import LogPipeline.Proofs.Time.Lenient

namespace LogPipeline

open Json

/-! ## Parts of documents -/

/-- An instant of a year with four digits. Its fraction reaches beyond a second only at the end of a
minute, where leap seconds are. -/
def Timestamp.IsTold (t : Timestamp) : Prop :=
  t.Regular ∧ 0 ≤ t.year ∧ t.year ≤ 9999

theorem AppId.ofJson?_toJson (id : AppId) : ofJson? id.toJson = some id := rfl

theorem EndpointId.ofJson?_toJson (id : EndpointId) : ofJson? id.toJson = some id := rfl

theorem BatchId.ofJson?_toJson (id : BatchId) : ofJson? id.toJson = some id := rfl

theorem LogFormat.ofJson?_toJson (f : LogFormat) : ofJson? f.toJson = some f := by
  cases f <;> rfl

theorem BatchStatus.ofJson?_toJson (s : BatchStatus) : ofJson? s.toJson = some s := by
  cases s <;> rfl

theorem EndpointStatus.ofJson?_toJson (s : EndpointStatus) : ofJson? s.toJson = some s := by
  cases s <;> rfl

theorem AppStatus.ofJson?_toJson (s : AppStatus) : ofJson? s.toJson = some s := by
  cases s <;> rfl

namespace Json

theorem text?_str (text : String) : text? (.str text) = some text := rfl

theorem bool?_bool (b : Bool) : bool? (.bool b) = some b := rfl

theorem time?_ofTime_eq (t : Timestamp) :
    time? (ofTime t) = Rfc3339.readLenient? (Rfc3339.write "Z" t) := by
  simp only [time?, ofTime, text?, Option.bind_eq_bind, Option.bind_some]

theorem time?_ofTime_iff {t : Timestamp} (four : 0 ≤ t.year ∧ t.year ≤ 9999) :
    time? (ofTime t) = some t ↔ t.Regular := by
  rw [time?_ofTime_eq]
  exact ⟨Rfc3339.regular_of_readLenient?, fun regular => Rfc3339.readLenient?_write regular four⟩

theorem time?_ofTime {t : Timestamp} (told : t.IsTold) : time? (ofTime t) = some t :=
  (time?_ofTime_iff told.2).mpr told.1

theorem optional_time {time : Option Timestamp} (told : ∀ t ∈ time, t.IsTold) :
    optional time? (some (ofOption ofTime time)) = some time :=
  optional_ofOption fun t there => ⟨nofun, time?_ofTime (told t there)⟩

theorem optional_text (text : Option String) :
    optional text? (some (ofOption .str text)) = some text :=
  optional_ofOption fun _ _ => ⟨by rintro ⟨⟩, rfl⟩

theorem showsTexts_ofTexts (d : Dict String) : ShowsTexts d (ofTexts d) :=
  ⟨d.entries, .refl _, rfl⟩

theorem bind_unless {α β : Type} {p : Prop} [Decidable p] {x : Option α} {f : α → Option β} :
    (if p then none else x).bind f = if p then none else x.bind f := by
  split <;> rfl

end Json

/-! ## Logs -/

namespace RawLog

def fields (log : RawLog) : List Field :=
  [.of "content" (.str log.content), .of "source_id" (.str log.source),
    .of "format" log.format.toJson, .of "timestamp" (ofTime log.timestamp),
    ⟨"metadata", ShowsTexts log.metadata⟩]

theorem writes_toJson (log : RawLog) : Writes log.fields [] log.toJson :=
  writes_obj <| .cons ⟨rfl, rfl⟩ <| .cons ⟨rfl, rfl⟩ <| .cons ⟨rfl, rfl⟩ <| .cons ⟨rfl, rfl⟩ <|
    .cons ⟨rfl, showsTexts_ofTexts _⟩ .nil

theorem ofJson?_of_writes {log : RawLog} (told : log.timestamp.IsTold) {left : List String}
    {j : Json} (writes : Writes log.fields left j) :
    ofJson? j = if ∀ name ∈ fieldNames, name ∉ left then some log else none := by
  have distinct : fieldNames.Nodup := by decide
  obtain ⟨look, read, found⟩ := fields?_of_writes writes distinct
  simp only [fields, List.forall_mem_cons, Field.name_of] at found
  obtain ⟨content, source, format, timestamp, metadata, -⟩ := found
  have names : j.fields? fieldNames = some (fieldNames.map look) := read
  rw [ofJson?, names]
  -- There are as many members as the pattern asks for, so the first of them is read.
  change (required text? (look "content") >>= _) = _
  simp only [fieldNames, List.forall_mem_cons, Option.bind_eq_bind,
    Option.bind_some, Option.pure_def, bind_unless, ite_and, ite_not,
    content.required_of (text?_str _), source.required_of (text?_str _),
    format.required_of (LogFormat.ofJson?_toJson _), timestamp.required_of (time?_ofTime told),
    metadata.required fun _ => dict?_of_shows]
  simp only [List.not_mem_nil, false_imp_iff, implies_true, if_true]

end RawLog

/-! ## Batches -/

inductive ShowsLogs : List RawLog → List (List String) → List Json → Prop
  | nil : ShowsLogs [] [] []
  | cons {log : RawLog} {left : List String} {item : Json} {logs : List RawLog}
      {lefts : List (List String)} {items : List Json} (here : Writes log.fields left item)
      (further : ShowsLogs logs lefts items) :
      ShowsLogs (log :: logs) (left :: lefts) (item :: items)

theorem showsLogs_toJson (logs : List RawLog) :
    ShowsLogs logs (logs.map fun _ => []) (logs.map RawLog.toJson) := by
  induction logs with
  | nil => exact .nil
  | cons log rest ih => exact .cons log.writes_toJson ih

theorem mapM_of_showsLogs {logs : List RawLog} {lefts : List (List String)} {items : List Json}
    (told : ∀ log ∈ logs, log.timestamp.IsTold) (shows : ShowsLogs logs lefts items) :
    items.mapM RawLog.ofJson? =
      if ∀ left ∈ lefts, ∀ name ∈ RawLog.fieldNames, name ∉ left then some logs else none := by
  induction shows with
  | nil => simp
  | @cons log left item logs lefts items here _ ih =>
      have first := RawLog.ofJson?_of_writes (told log List.mem_cons_self) here
      have others := ih fun log there => told log (List.mem_cons_of_mem _ there)
      rw [List.mapM_cons, first, others]
      simp only [List.forall_mem_cons, ite_and]
      split
      · split <;> rfl
      · rfl

theorem list?_of_showsLogs {logs : List RawLog} {lefts : List (List String)}
    (told : ∀ log ∈ logs, log.timestamp.IsTold) {j : Json}
    (shows : ∃ items, ShowsLogs logs lefts items ∧ j = .arr items) :
    list? RawLog.ofJson? j =
      if ∀ left ∈ lefts, ∀ name ∈ RawLog.fieldNames, name ∉ left then some logs else none := by
  obtain ⟨items, shows, rfl⟩ := shows
  exact mapM_of_showsLogs told shows

namespace Batch

def fields (b : Batch) (inLogs : List (List String)) : List Field :=
  [.of "id" b.id.toJson, .of "app_id" b.app.toJson, .of "endpoint_id" b.endpoint.toJson,
    ⟨"logs", fun j => ∃ items, ShowsLogs b.logs inLogs items ∧ j = .arr items⟩,
    .of "status" b.status.toJson, .of "error_message" (ofOption .str b.error),
    .of "retry_count" (ofUInt32 b.retryCount), .of "received_time" (ofTime b.received),
    .of "processed_time" (ofOption ofTime b.processed),
    .of "last_process_time" (ofOption ofTime b.lastProcess),
    .of "batch_trace_id" (ofOption .str b.trace), .of "confirmed" (.bool b.confirmed)]

def requiredNames : List String :=
  ["id", "app_id", "endpoint_id", "logs", "status", "retry_count", "received_time", "confirmed"]

def without (b : Batch) (left : List String) : Batch :=
  { b with
    error := if "error_message" ∈ left then none else b.error
    processed := if "processed_time" ∈ left then none else b.processed
    lastProcess := if "last_process_time" ∈ left then none else b.lastProcess
    trace := if "batch_trace_id" ∈ left then none else b.trace }

theorem without_eq_iff {b : Batch} {left : List String} :
    b.without left = b ↔
      ("error_message" ∈ left → b.error = none) ∧ ("processed_time" ∈ left → b.processed = none) ∧
        ("last_process_time" ∈ left → b.lastProcess = none) ∧
        ("batch_trace_id" ∈ left → b.trace = none) := by
  cases b
  simp [without, eq_comm]

structure IsTold (b : Batch) : Prop where
  logs : ∀ log ∈ b.logs, log.timestamp.IsTold
  received : b.received.IsTold
  processed : ∀ t ∈ b.processed, t.IsTold
  lastProcess : ∀ t ∈ b.lastProcess, t.IsTold

theorem writes_toJson (b : Batch) : Writes (b.fields (b.logs.map fun _ => [])) [] b.toJson :=
  writes_obj <| .cons ⟨rfl, rfl⟩ <| .cons ⟨rfl, rfl⟩ <| .cons ⟨rfl, rfl⟩ <|
    .cons ⟨rfl, _, showsLogs_toJson b.logs, rfl⟩ <| .cons ⟨rfl, rfl⟩ <| .cons ⟨rfl, rfl⟩ <|
    .cons ⟨rfl, rfl⟩ <| .cons ⟨rfl, rfl⟩ <| .cons ⟨rfl, rfl⟩ <| .cons ⟨rfl, rfl⟩ <|
    .cons ⟨rfl, rfl⟩ <| .cons ⟨rfl, rfl⟩ .nil

theorem ofJson?_of_writes {b : Batch} (told : b.IsTold) {left : List String}
    {inLogs : List (List String)} {j : Json} (writes : Writes (b.fields inLogs) left j) :
    ofJson? j =
      if (∀ name ∈ requiredNames, name ∉ left) ∧
          ∀ left ∈ inLogs, ∀ name ∈ RawLog.fieldNames, name ∉ left
        then some (b.without left) else none := by
  have distinct : fieldNames.Nodup := by decide
  obtain ⟨look, read, found⟩ := fields?_of_writes writes distinct
  simp only [fields, List.forall_mem_cons, Field.name_of] at found
  obtain ⟨id, app, endpoint, logs, status, error, retries, received, processed, lastProcess, trace,
    confirmed, -⟩ := found
  have names : j.fields? fieldNames = some (fieldNames.map look) := read
  have items := logs.required fun _ => list?_of_showsLogs told.logs
  -- Whether the logs are whole is not looked at before the other members are read.
  generalize made : (if ∀ left ∈ inLogs, ∀ name ∈ RawLog.fieldNames, name ∉ left
    then some b.logs else none) = logs? at items
  rw [ofJson?, names]
  change (required BatchId.ofJson? (look "id") >>= _) = _
  simp only [Option.bind_eq_bind,
    Option.bind_some, Option.pure_def, bind_unless,
    id.required_of (BatchId.ofJson?_toJson _),
    app.required_of (AppId.ofJson?_toJson _),
    endpoint.required_of (EndpointId.ofJson?_toJson _), items,
    status.required_of (BatchStatus.ofJson?_toJson _), error.optional_of (optional_text _),
    retries.required_of (uint32?_ofUInt32 _), received.required_of (time?_ofTime told.received),
    processed.optional_of (optional_time told.processed),
    lastProcess.optional_of (optional_time told.lastProcess),
    trace.optional_of (optional_text _), confirmed.required_of (bool?_bool _)]
  by_cases complete : ∀ left ∈ inLogs, ∀ name ∈ RawLog.fieldNames, name ∉ left
  · rw [if_pos complete] at made
    simp only [← made, and_iff_left complete, requiredNames, List.forall_mem_cons, ite_and, ite_not,
      List.not_mem_nil, false_imp_iff, implies_true, if_true, Option.bind_some]
    rfl
  · rw [if_neg complete] at made
    simp only [← made, Option.bind_none, ite_self]
    exact (if_neg fun both => complete both.2).symm

end Batch

/-! ## Endpoints and apps -/

namespace Endpoint

def fields (e : Endpoint) : List Field :=
  [.of "endpoint_id" e.id.toJson, .of "name" (.str e.name), .of "format" e.format.toJson,
    .of "max_payload_size" (ofUInt64 e.maxPayload), .of "max_batch_count" (ofUInt64 e.maxBatch),
    .of "status" e.status.toJson, .of "buffering_enabled" (.bool e.bufferingEnabled),
    .of "buffering_time_ms" (ofUInt64 e.bufferingTimeMs),
    .of "buffering_size" (ofUInt64 e.bufferingSize),
    ⟨"allowed_app_ids", ShowsNames e.allowedApps⟩]

theorem writes_toJson (e : Endpoint) : Writes e.fields [] e.toJson :=
  writes_obj <| .cons ⟨rfl, rfl⟩ <| .cons ⟨rfl, rfl⟩ <| .cons ⟨rfl, rfl⟩ <| .cons ⟨rfl, rfl⟩ <|
    .cons ⟨rfl, rfl⟩ <| .cons ⟨rfl, rfl⟩ <| .cons ⟨rfl, rfl⟩ <| .cons ⟨rfl, rfl⟩ <|
    .cons ⟨rfl, rfl⟩ <| .cons ⟨rfl, showsNames_ofNames _⟩ .nil

theorem ofJson?_of_writes {e : Endpoint} {left : List String} {j : Json}
    (writes : Writes e.fields left j) :
    ofJson? j = if ∀ name ∈ fieldNames, name ∉ left then some e else none := by
  have distinct : fieldNames.Nodup := by decide
  obtain ⟨look, read, found⟩ := fields?_of_writes writes distinct
  simp only [fields, List.forall_mem_cons, Field.name_of] at found
  obtain ⟨id, name, format, payload, count, status, buffering, time, size, apps, -⟩ := found
  have names : j.fields? fieldNames = some (fieldNames.map look) := read
  rw [ofJson?, names]
  change (required EndpointId.ofJson? (look "endpoint_id") >>= _) = _
  simp only [fieldNames, List.forall_mem_cons, Option.bind_eq_bind,
    Option.bind_some, Option.pure_def, bind_unless, ite_and, ite_not,
    id.required_of (EndpointId.ofJson?_toJson _), name.required_of (text?_str _),
    format.required_of (LogFormat.ofJson?_toJson _), payload.required_of (uint64?_ofUInt64 _),
    count.required_of (uint64?_ofUInt64 _), status.required_of (EndpointStatus.ofJson?_toJson _),
    buffering.required_of (bool?_bool _), time.required_of (uint64?_ofUInt64 _),
    size.required_of (uint64?_ofUInt64 _), apps.required fun _ => names?_of_shows]
  simp only [List.not_mem_nil, false_imp_iff, implies_true, if_true]

end Endpoint

namespace App

def fields (app : App) : List Field :=
  [.of "app_id" app.id.toJson, .of "access_key" (.str app.accessKey),
    .of "secret_key" (.str app.secretKey), .of "status" app.status.toJson,
    .of "expiry_time" (ofOption ofTime app.expiry), ⟨"ip_whitelist", ShowsNames app.allowedIps⟩,
    ⟨"allowed_endpoints", ShowsNames app.allowedEndpoints⟩,
    .of "rate_limit" (ofUInt32 app.rateLimit), .of "burst_capacity" (ofUInt32 app.burstCapacity)]

def requiredNames : List String :=
  ["app_id", "access_key", "secret_key", "status", "ip_whitelist", "allowed_endpoints",
    "rate_limit", "burst_capacity"]

def without (app : App) (left : List String) : App :=
  { app with expiry := if "expiry_time" ∈ left then none else app.expiry }

theorem without_eq_iff {app : App} {left : List String} :
    app.without left = app ↔ ("expiry_time" ∈ left → app.expiry = none) := by
  cases app
  simp [without, eq_comm]

theorem writes_toJson (app : App) : Writes app.fields [] app.toJson :=
  writes_obj <| .cons ⟨rfl, rfl⟩ <| .cons ⟨rfl, rfl⟩ <| .cons ⟨rfl, rfl⟩ <| .cons ⟨rfl, rfl⟩ <|
    .cons ⟨rfl, rfl⟩ <| .cons ⟨rfl, showsNames_ofNames _⟩ <| .cons ⟨rfl, showsNames_ofNames _⟩ <|
    .cons ⟨rfl, rfl⟩ <| .cons ⟨rfl, rfl⟩ .nil

theorem ofJson?_of_writes {app : App} (told : ∀ t ∈ app.expiry, t.IsTold) {left : List String}
    {j : Json} (writes : Writes app.fields left j) :
    ofJson? j =
      if ∀ name ∈ requiredNames, name ∉ left then some (app.without left) else none := by
  have distinct : fieldNames.Nodup := by decide
  obtain ⟨look, read, found⟩ := fields?_of_writes writes distinct
  simp only [fields, List.forall_mem_cons, Field.name_of] at found
  obtain ⟨id, access, secret, status, expiry, ips, endpoints, rate, burst, -⟩ := found
  have names : j.fields? fieldNames = some (fieldNames.map look) := read
  rw [ofJson?, names]
  change (required AppId.ofJson? (look "app_id") >>= _) = _
  simp only [requiredNames, List.forall_mem_cons,
    Option.bind_eq_bind, Option.bind_some, Option.pure_def, bind_unless, ite_and,
    ite_not,
    id.required_of (AppId.ofJson?_toJson _), access.required_of (text?_str _),
    secret.required_of (text?_str _), status.required_of (AppStatus.ofJson?_toJson _),
    expiry.optional_of (optional_time told), ips.required fun _ => names?_of_shows,
    endpoints.required fun _ => names?_of_shows, rate.required_of (uint32?_ofUInt32 _),
    burst.required_of (uint32?_ofUInt32 _)]
  simp only [List.not_mem_nil, false_imp_iff, implies_true, if_true]
  rfl

end App

/-! ## Configurations -/

namespace PipelineConfig

def fields (c : PipelineConfig) : List Field :=
  [.of "buffer_threshold" (ofUInt64 c.bufferThreshold),
    .of "max_buffer_time_ms" (ofUInt64 c.maxAgeMs),
    .of "flush_interval_ms" (ofUInt64 c.flushIntervalMs),
    .of "max_retry_count" (ofUInt32 c.maxRetries),
    .of "retry_interval_ms" (ofUInt64 c.retryIntervalMs),
    .of "worker_threads" (ofUInt64 c.workers),
    .of "timestamp_validity_ms" (ofUInt64 c.validityMs),
    .of "auth_cache_ttl_secs" (ofUInt64 c.cacheTtlSecs),
    .of "refill_interval_ms" (ofUInt64 c.refillIntervalMs),
    .of "cleanup_enabled" (.bool c.cleanupEnabled),
    .of "processed_retention_hours" (ofUInt64 c.processedRetentionHours),
    .of "failed_retention_hours" (ofUInt64 c.failedRetentionHours),
    .of "processing_timeout_minutes" (ofUInt64 c.processingTimeoutMinutes),
    .of "cleanup_initial_delay_minutes" (ofUInt64 c.cleanupDelayMinutes),
    .of "cleanup_interval_minutes" (ofUInt64 c.cleanupIntervalMinutes)]

theorem writes_toJson (c : PipelineConfig) : Writes c.fields [] c.toJson :=
  writes_obj <| .cons ⟨rfl, rfl⟩ <| .cons ⟨rfl, rfl⟩ <| .cons ⟨rfl, rfl⟩ <| .cons ⟨rfl, rfl⟩ <|
    .cons ⟨rfl, rfl⟩ <| .cons ⟨rfl, rfl⟩ <| .cons ⟨rfl, rfl⟩ <| .cons ⟨rfl, rfl⟩ <|
    .cons ⟨rfl, rfl⟩ <| .cons ⟨rfl, rfl⟩ <| .cons ⟨rfl, rfl⟩ <| .cons ⟨rfl, rfl⟩ <|
    .cons ⟨rfl, rfl⟩ <| .cons ⟨rfl, rfl⟩ <| .cons ⟨rfl, rfl⟩ .nil

theorem ofJson?_of_writes {c : PipelineConfig} {left : List String} {j : Json}
    (writes : Writes c.fields left j) :
    ofJson? j = if ∀ name ∈ fieldNames, name ∉ left then some c else none := by
  have distinct : fieldNames.Nodup := by decide
  obtain ⟨look, read, found⟩ := fields?_of_writes writes distinct
  simp only [fields, List.forall_mem_cons, Field.name_of] at found
  obtain ⟨threshold, age, flush, retries, wait, workers, validity, ttl, refill, cleanup, processed,
    failed, timeout, delay, interval, -⟩ := found
  have names : j.fields? fieldNames = some (fieldNames.map look) := read
  rw [ofJson?, names]
  change (required uint64? (look "buffer_threshold") >>= _) = _
  simp only [fieldNames, List.forall_mem_cons, Option.bind_eq_bind, Option.bind_some,
    Option.pure_def, bind_unless, ite_and, ite_not, threshold.required_of (uint64?_ofUInt64 _),
    age.required_of (uint64?_ofUInt64 _), flush.required_of (uint64?_ofUInt64 _),
    retries.required_of (uint32?_ofUInt32 _), wait.required_of (uint64?_ofUInt64 _),
    workers.required_of (uint64?_ofUInt64 _), validity.required_of (uint64?_ofUInt64 _),
    ttl.required_of (uint64?_ofUInt64 _), refill.required_of (uint64?_ofUInt64 _),
    cleanup.required_of (bool?_bool _), processed.required_of (uint64?_ofUInt64 _),
    failed.required_of (uint64?_ofUInt64 _), timeout.required_of (uint64?_ofUInt64 _),
    delay.required_of (uint64?_ofUInt64 _), interval.required_of (uint64?_ofUInt64 _)]
  simp only [List.not_mem_nil, false_imp_iff, implies_true, if_true]

end PipelineConfig

/-! ## All documents -/

/-- What is written is read back. So it is in any order of the members, beside members of other
names, and without members that would be null; if another one is left out it is null when it may be,
and nothing is read when it may not. An instant is read back if it is one that clocks show. -/
theorem documents_read_back :
    (∀ t : Timestamp, 0 ≤ t.year ∧ t.year ≤ 9999 → (time? (ofTime t) = some t ↔ t.Regular)) ∧
    (∀ log : RawLog, log.timestamp.IsTold →
      Writes log.fields [] log.toJson ∧ RawLog.ofJson? log.toJson = some log ∧
      ∀ left j, Writes log.fields left j → RawLog.ofJson? j =
        if ∀ name ∈ RawLog.fieldNames, name ∉ left then some log else none) ∧
    (∀ b : Batch, b.IsTold →
      Writes (b.fields (b.logs.map fun _ => [])) [] b.toJson ∧ Batch.ofJson? b.toJson = some b ∧
      (∀ left inLogs j, Writes (b.fields inLogs) left j → Batch.ofJson? j =
        if (∀ name ∈ Batch.requiredNames, name ∉ left) ∧
            ∀ left ∈ inLogs, ∀ name ∈ RawLog.fieldNames, name ∉ left
          then some (b.without left) else none) ∧
      ∀ left, b.without left = b ↔
        ("error_message" ∈ left → b.error = none) ∧ ("processed_time" ∈ left → b.processed = none) ∧
          ("last_process_time" ∈ left → b.lastProcess = none) ∧
          ("batch_trace_id" ∈ left → b.trace = none)) ∧
    (∀ e : Endpoint,
      Writes e.fields [] e.toJson ∧ Endpoint.ofJson? e.toJson = some e ∧
      ∀ left j, Writes e.fields left j → Endpoint.ofJson? j =
        if ∀ name ∈ Endpoint.fieldNames, name ∉ left then some e else none) ∧
    (∀ app : App, (∀ t ∈ app.expiry, t.IsTold) →
      Writes app.fields [] app.toJson ∧ App.ofJson? app.toJson = some app ∧
      (∀ left j, Writes app.fields left j → App.ofJson? j =
        if ∀ name ∈ App.requiredNames, name ∉ left then some (app.without left) else none) ∧
      ∀ left, app.without left = app ↔ ("expiry_time" ∈ left → app.expiry = none)) ∧
    ∀ c : PipelineConfig,
      Writes c.fields [] c.toJson ∧ PipelineConfig.ofJson? c.toJson = some c ∧
      ∀ left j, Writes c.fields left j → PipelineConfig.ofJson? j =
        if ∀ name ∈ PipelineConfig.fieldNames, name ∉ left then some c else none := by
  have none_left (names : List String) : ∀ name ∈ names, name ∉ ([] : List String) :=
    fun _ _ => List.not_mem_nil
  refine ⟨fun t => time?_ofTime_iff, fun log told => ?_, fun b told => ?_, fun e => ?_,
    fun app told => ?_, fun c => ?_⟩
  · refine ⟨log.writes_toJson, ?_, fun left j => RawLog.ofJson?_of_writes told⟩
    rw [RawLog.ofJson?_of_writes told log.writes_toJson, if_pos (none_left _)]
  · refine ⟨b.writes_toJson, ?_, fun left inLogs j => Batch.ofJson?_of_writes told,
      fun left => Batch.without_eq_iff⟩
    have whole : ∀ left ∈ b.logs.map fun _ => [], ∀ name ∈ RawLog.fieldNames, name ∉ left := by
      intro left listed
      obtain ⟨_, _, rfl⟩ := List.mem_map.mp listed
      exact none_left _
    rw [Batch.ofJson?_of_writes told b.writes_toJson, if_pos ⟨none_left _, whole⟩]
    rfl
  · refine ⟨e.writes_toJson, ?_, fun left j => Endpoint.ofJson?_of_writes⟩
    rw [Endpoint.ofJson?_of_writes e.writes_toJson, if_pos (none_left _)]
  · refine ⟨app.writes_toJson, ?_, fun left j => App.ofJson?_of_writes told,
      fun left => App.without_eq_iff⟩
    rw [App.ofJson?_of_writes told app.writes_toJson, if_pos (none_left _)]
    rfl
  · refine ⟨c.writes_toJson, ?_, fun left j => PipelineConfig.ofJson?_of_writes⟩
    rw [PipelineConfig.ofJson?_of_writes c.writes_toJson, if_pos (none_left _)]

/-- A log in a leap second, and a batch of it. Their members are in the reverse order, behind a
member that is none of theirs; the batch leaves out what would be null. -/
theorem documents_read_back_reversed :
    let leap : Timestamp := ⟨59, 1500000000⟩
    let log : RawLog := ⟨"up", "web", .text, leap, .ofList [("host", "h1"), ("zone", "z1")]⟩
    let b := Batch.new ⟨"b1"⟩ ⟨⟨"a1"⟩, ⟨"e1"⟩⟩ [log] (.ofSeconds 60)
    let ofLog : List (String × Json) := [("content", .str "up"), ("source_id", .str "web"),
      ("format", .str "TEXT"), ("timestamp", .str "1970-01-01T00:00:60.500Z"),
      ("metadata", .obj [("zone", .str "z1"), ("host", .str "h1")])]
    let inLog : Json := .obj (("level", .int 3) :: ofLog.reverse)
    let ofBatch : List (String × Json) := [("id", .str "b1"), ("app_id", .str "a1"),
      ("endpoint_id", .str "e1"), ("logs", .arr [inLog]), ("status", .str "PENDING"),
      ("retry_count", .int 0), ("received_time", .str "1970-01-01T00:01:00Z"),
      ("confirmed", .bool false)]
    let inBatch : Json := .obj (("host", .null) :: ofBatch.reverse)
    time? (ofTime leap) = some leap ∧ RawLog.ofJson? inLog = some log ∧
      Batch.ofJson? inBatch = some b := by
  intro leap log b ofLog inLog ofBatch inBatch
  have shuffled (m : String × Json) (members : List (String × Json)) :
      (m :: members.reverse).Perm (members ++ [m]) :=
    ((List.reverse_perm members).cons m).trans (List.perm_append_singleton m members).symm
  have told : leap.IsTold := ⟨⟨by decide, by decide, by decide⟩, by decide, by decide⟩
  have logWritten : Writes log.fields [] inLog := by
    refine .members ofLog [("level", .int 3)] ?_ (by decide) (shuffled _ _)
    have timestamp : .str "1970-01-01T00:00:60.500Z" = ofTime leap :=
      congrArg Json.str (by decide +kernel)
    have metadata : ShowsTexts log.metadata (.obj [("zone", .str "z1"), ("host", .str "h1")]) :=
      ⟨[("zone", "z1"), ("host", "h1")], .swap _ _ _, rfl⟩
    exact .cons ⟨rfl, rfl⟩ <| .cons ⟨rfl, rfl⟩ <| .cons ⟨rfl, rfl⟩ <| .cons ⟨rfl, timestamp⟩ <|
      .cons ⟨rfl, metadata⟩ .nil
  have batchWritten : Writes (b.fields [[]])
      ["error_message", "processed_time", "last_process_time", "batch_trace_id"] inBatch := by
    refine .members ofBatch [("host", .null)] ?_ (by decide) (shuffled _ _)
    have received : .str "1970-01-01T00:01:00Z" = ofTime (.ofSeconds 60) :=
      congrArg Json.str (by decide +kernel)
    exact .cons ⟨rfl, rfl⟩ <| .cons ⟨rfl, rfl⟩ <| .cons ⟨rfl, rfl⟩ <|
      .cons ⟨rfl, _, .cons logWritten .nil, rfl⟩ <| .cons ⟨rfl, rfl⟩ <| .cons ⟨rfl, rfl⟩ <|
      .cons ⟨rfl, received⟩ <| .cons ⟨rfl, rfl⟩ .nil
  obtain ⟨times, logs, batches, -⟩ := documents_read_back
  refine ⟨(times leap told.2).mpr told.1, ?_, ?_⟩
  · exact ((logs log told).2.2 _ _ logWritten).trans (if_pos (by decide))
  · have instants : b.IsTold :=
      { logs := List.forall_mem_singleton.mpr told
        received := ⟨⟨by decide, by decide, by decide⟩, by decide, by decide⟩
        processed := nofun
        lastProcess := nofun }
    exact ((batches b instants).2.2.1 _ _ _ batchWritten).trans (if_pos (by decide))

/-- What may be null need not be null to be left out: an app whose access ends is read as one whose
access does not. -/
theorem app_read_without_its_end :
    let app := App.new ⟨"a1"⟩ "ak" "sk"
    let members : List (String × Json) := [("app_id", .str "a1"), ("access_key", .str "ak"),
      ("secret_key", .str "sk"), ("status", .str "ACTIVE"), ("ip_whitelist", .arr []),
      ("allowed_endpoints", .arr []), ("rate_limit", .int 100), ("burst_capacity", .int 200)]
    Timestamp.IsTold (.ofSeconds 60) ∧
      Writes { app with expiry := some (.ofSeconds 60) }.fields ["expiry_time"] (.obj members) ∧
      App.ofJson? (.obj members) = some app := by
  intro app members
  have told : Timestamp.IsTold (.ofSeconds 60) :=
    ⟨⟨by decide, by decide, by decide⟩, by decide, by decide⟩
  have written : Writes { app with expiry := some (.ofSeconds 60) }.fields ["expiry_time"]
      (.obj members) := by
    refine .members members [] ?_ (List.forall_mem_nil _) (.of_eq (List.append_nil _).symm)
    exact .cons ⟨rfl, rfl⟩ <| .cons ⟨rfl, rfl⟩ <| .cons ⟨rfl, rfl⟩ <| .cons ⟨rfl, rfl⟩ <|
      .cons ⟨rfl, showsNames_ofNames _⟩ <| .cons ⟨rfl, showsNames_ofNames _⟩ <|
      .cons ⟨rfl, rfl⟩ <| .cons ⟨rfl, rfl⟩ .nil
  refine ⟨told, written, ?_⟩
  exact (App.ofJson?_of_writes (by rintro t ⟨⟩; exact told) written).trans (if_pos (by decide))

end LogPipeline
