import LogPipeline.Delivery.RetryPolicy
import LogPipeline.Json.Record
import LogPipeline.Retention
import LogPipeline.Settings.Basic

namespace LogPipeline

structure PipelineConfig where
  bufferThreshold : UInt64
  maxAgeMs : UInt64
  flushIntervalMs : UInt64
  maxRetries : UInt32
  retryIntervalMs : UInt64
  /-- The number of workers; zero stands for one per processor. -/
  workers : UInt64
  validityMs : UInt64
  cacheTtlSecs : UInt64
  refillIntervalMs : UInt64
  cleanupEnabled : Bool
  processedRetentionHours : UInt64
  failedRetentionHours : UInt64
  processingTimeoutMinutes : UInt64
  cleanupDelayMinutes : UInt64
  cleanupIntervalMinutes : UInt64
  deriving DecidableEq, Repr, Inhabited

namespace PipelineConfig

def ofSettings (s : Settings) : PipelineConfig :=
  { bufferThreshold := s.buffer.threshold
    maxAgeMs := s.buffer.maxAgeMs
    flushIntervalMs := s.buffer.flushIntervalMs
    maxRetries := s.processing.maxRetries
    retryIntervalMs := s.processing.retryIntervalMs
    workers := s.processing.workers
    validityMs := s.auth.validityMs
    cacheTtlSecs := s.auth.cacheTtlSecs
    refillIntervalMs := s.rateLimit.refillIntervalMs
    cleanupEnabled := s.cleanup.enabled
    processedRetentionHours := s.cleanup.processedRetentionHours
    failedRetentionHours := s.cleanup.failedRetentionHours
    processingTimeoutMinutes := s.cleanup.processingTimeoutMinutes
    cleanupDelayMinutes := s.cleanup.initialDelayMinutes
    cleanupIntervalMinutes := s.cleanup.intervalMinutes }

def defaults : PipelineConfig := ofSettings .defaults

/-! ## Limits -/

def mostThreshold : UInt64 := 100000

def mostRetries : UInt32 := 10

def mostWorkers : UInt64 := 1024

def positive (c : PipelineConfig) : List (String × UInt64) :=
  [("max_buffer_time_ms", c.maxAgeMs),
    ("flush_interval_ms", c.flushIntervalMs),
    ("retry_interval_ms", c.retryIntervalMs),
    ("timestamp_validity_ms", c.validityMs),
    ("auth_cache_ttl_secs", c.cacheTtlSecs),
    ("refill_interval_ms", c.refillIntervalMs)]

def positiveForCleanup (c : PipelineConfig) : List (String × UInt64) :=
  [("processed_retention_hours", c.processedRetentionHours),
    ("failed_retention_hours", c.failedRetentionHours),
    ("processing_timeout_minutes", c.processingTimeoutMinutes),
    ("cleanup_interval_minutes", c.cleanupIntervalMinutes)]

def validate (c : PipelineConfig) : Except Failure Unit := do
  if c.bufferThreshold = 0 ∨ mostThreshold < c.bufferThreshold then
    throw (.config "buffer_threshold" "must be 1-100000")
  if mostRetries < c.maxRetries then throw (.config "max_retry_count" "must be 0-10")
  if mostWorkers < c.workers then throw (.config "worker_threads" "must be 0-1024")
  c.positive.forM fun (field, value) => do
    if value = 0 then throw (.config field "must be greater than 0")
  if c.cleanupEnabled then
    c.positiveForCleanup.forM fun (field, value) => do
      if value = 0 then throw (.config field "must be greater than 0 when cleanup is enabled")

/-! ## Spans of time -/

def maxAge (c : PipelineConfig) : Nanos := .ofMillis c.maxAgeMs.toNat

def flushInterval (c : PipelineConfig) : Nanos := .ofMillis c.flushIntervalMs.toNat

def refillInterval (c : PipelineConfig) : Nanos := .ofMillis c.refillIntervalMs.toNat

def cacheTtl (c : PipelineConfig) : Nanos := .ofSeconds c.cacheTtlSecs.toNat

def retryPolicy (c : PipelineConfig) : RetryPolicy :=
  ⟨c.maxRetries, .ofMillis c.retryIntervalMs.toNat⟩

def retention (c : PipelineConfig) : RetentionPolicy :=
  { processedRetention := .ofSeconds (c.processedRetentionHours * 3600).toNat
    failedRetention := .ofSeconds (c.failedRetentionHours * 3600).toNat
    processingTimeout := .ofSeconds (c.processingTimeoutMinutes * 60).toNat }

def cleanupDelay (c : PipelineConfig) : Nanos :=
  .ofSeconds (c.cleanupDelayMinutes * 60).toNat

def cleanupInterval (c : PipelineConfig) : Nanos :=
  .ofSeconds (c.cleanupIntervalMinutes * 60).toNat

def workersOn (processors : Nat) (c : PipelineConfig) : Nat :=
  if c.workers = 0 then processors else c.workers.toNat

/-! ## Changes -/

/-- Whole milliseconds of a span in 64 bits, without what lies above them. -/
def wholeMillis (span : Nanos) : UInt64 := .ofNat span.millis

def withMaxAge (c : PipelineConfig) (span : Nanos) : PipelineConfig :=
  { c with maxAgeMs := wholeMillis span }

def withFlushInterval (c : PipelineConfig) (span : Nanos) : PipelineConfig :=
  { c with flushIntervalMs := wholeMillis span }

def withRetryInterval (c : PipelineConfig) (span : Nanos) : PipelineConfig :=
  { c with retryIntervalMs := wholeMillis span }

def withRefillInterval (c : PipelineConfig) (span : Nanos) : PipelineConfig :=
  { c with refillIntervalMs := wholeMillis span }

def withCacheTtl (c : PipelineConfig) (span : Nanos) : PipelineConfig :=
  { c with cacheTtlSecs := .ofNat (span / 1000000000) }

/-! ## JSON -/

def fieldNames : List String :=
  ["buffer_threshold", "max_buffer_time_ms", "flush_interval_ms", "max_retry_count",
    "retry_interval_ms", "worker_threads", "timestamp_validity_ms", "auth_cache_ttl_secs",
    "refill_interval_ms", "cleanup_enabled", "processed_retention_hours",
    "failed_retention_hours", "processing_timeout_minutes", "cleanup_initial_delay_minutes",
    "cleanup_interval_minutes"]

open Json in
def toJson (c : PipelineConfig) : Json :=
  .obj
    [("buffer_threshold", ofUInt64 c.bufferThreshold),
      ("max_buffer_time_ms", ofUInt64 c.maxAgeMs),
      ("flush_interval_ms", ofUInt64 c.flushIntervalMs),
      ("max_retry_count", ofUInt32 c.maxRetries),
      ("retry_interval_ms", ofUInt64 c.retryIntervalMs),
      ("worker_threads", ofUInt64 c.workers),
      ("timestamp_validity_ms", ofUInt64 c.validityMs),
      ("auth_cache_ttl_secs", ofUInt64 c.cacheTtlSecs),
      ("refill_interval_ms", ofUInt64 c.refillIntervalMs),
      ("cleanup_enabled", .bool c.cleanupEnabled),
      ("processed_retention_hours", ofUInt64 c.processedRetentionHours),
      ("failed_retention_hours", ofUInt64 c.failedRetentionHours),
      ("processing_timeout_minutes", ofUInt64 c.processingTimeoutMinutes),
      ("cleanup_initial_delay_minutes", ofUInt64 c.cleanupDelayMinutes),
      ("cleanup_interval_minutes", ofUInt64 c.cleanupIntervalMinutes)]

open Json in
def ofJson? (j : Json) : Option PipelineConfig := do
  let [threshold, maxAge, flush, retries, retryInterval, workers, validity, ttl, refill, cleanup,
    processedHours, failedHours, timeout, delay, interval] ← j.fields? fieldNames | none
  return {
    bufferThreshold := ← required uint64? threshold
    maxAgeMs := ← required uint64? maxAge
    flushIntervalMs := ← required uint64? flush
    maxRetries := ← required uint32? retries
    retryIntervalMs := ← required uint64? retryInterval
    workers := ← required uint64? workers
    validityMs := ← required uint64? validity
    cacheTtlSecs := ← required uint64? ttl
    refillIntervalMs := ← required uint64? refill
    cleanupEnabled := ← required bool? cleanup
    processedRetentionHours := ← required uint64? processedHours
    failedRetentionHours := ← required uint64? failedHours
    processingTimeoutMinutes := ← required uint64? timeout
    cleanupDelayMinutes := ← required uint64? delay
    cleanupIntervalMinutes := ← required uint64? interval }

def ofOverrides? (overrides : List (String × Json)) : Option PipelineConfig :=
  match defaults.toJson with
  | .obj members => ofJson? (.obj (members.map fun m => (m.1, (overrides.lookup m.1).getD m.2)))
  | _ => none

end PipelineConfig

end LogPipeline
