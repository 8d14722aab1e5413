namespace LogPipeline

structure GeneralSettings where
  logLevel : String
  logFormat : String
  deriving DecidableEq, Repr, Inhabited

structure MetricsSettings where
  enabled : Bool
  listenAddr : String
  port : UInt16
  endpoint : String
  deriving DecidableEq, Repr, Inhabited

structure BufferSettings where
  threshold : UInt64
  maxAgeMs : UInt64
  flushIntervalMs : UInt64
  deriving DecidableEq, Repr, Inhabited

structure ProcessingSettings where
  maxRetries : UInt32
  retryIntervalMs : UInt64
  /-- The number of workers; zero stands for one per processor. -/
  workers : UInt64
  deriving DecidableEq, Repr, Inhabited

structure AuthSettings where
  validityMs : UInt64
  cacheTtlSecs : UInt64
  deriving DecidableEq, Repr, Inhabited

structure RateLimitSettings where
  refillIntervalMs : UInt64
  deriving DecidableEq, Repr, Inhabited

structure CleanupSettings where
  enabled : Bool
  processedRetentionHours : UInt64
  failedRetentionHours : UInt64
  processingTimeoutMinutes : UInt64
  initialDelayMinutes : UInt64
  intervalMinutes : UInt64
  deriving DecidableEq, Repr, Inhabited

structure Settings where
  general : GeneralSettings
  metrics : MetricsSettings
  buffer : BufferSettings
  processing : ProcessingSettings
  auth : AuthSettings
  rateLimit : RateLimitSettings
  cleanup : CleanupSettings
  deriving DecidableEq, Repr, Inhabited

def Settings.defaults : Settings :=
  { general := { logLevel := "info", logFormat := "json" }
    metrics :=
      { enabled := true, listenAddr := "127.0.0.1", port := 9100, endpoint := "/metrics" }
    buffer := { threshold := 100, maxAgeMs := 5000, flushIntervalMs := 1000 }
    processing := { maxRetries := 3, retryIntervalMs := 1000, workers := 0 }
    auth := { validityMs := 300000, cacheTtlSecs := 60 }
    rateLimit := { refillIntervalMs := 100 }
    cleanup :=
      { enabled := true
        processedRetentionHours := 24
        failedRetentionHours := 72
        processingTimeoutMinutes := 30
        initialDelayMinutes := 5
        intervalMinutes := 60 } }

inductive SettingKind where
  | text
  | flag
  | word16
  | word32
  | word64
  deriving DecidableEq, Repr

abbrev SettingKind.Value : SettingKind → Type
  | .text => String
  | .flag => Bool
  | .word16 => UInt16
  | .word32 => UInt32
  | .word64 => UInt64

structure Setting where
  group : String
  name : String
  kind : SettingKind
  get : Settings → kind.Value
  set : kind.Value → Settings → Settings
  overridable : Bool

namespace Setting

def generalSettings : List Setting :=
  [⟨"general", "log_level", .text, (·.general.logLevel),
      fun v s => { s with general.logLevel := v }, true⟩,
    ⟨"general", "log_format", .text, (·.general.logFormat),
      fun v s => { s with general.logFormat := v }, true⟩]

def metricsSettings : List Setting :=
  [⟨"metrics", "enabled", .flag, (·.metrics.enabled),
      fun v s => { s with metrics.enabled := v }, true⟩,
    ⟨"metrics", "listen_addr", .text, (·.metrics.listenAddr),
      fun v s => { s with metrics.listenAddr := v }, true⟩,
    ⟨"metrics", "port", .word16, (·.metrics.port),
      fun v s => { s with metrics.port := v }, true⟩,
    ⟨"metrics", "endpoint", .text, (·.metrics.endpoint),
      fun v s => { s with metrics.endpoint := v }, false⟩]

def bufferSettings : List Setting :=
  [⟨"buffer", "threshold", .word64, (·.buffer.threshold),
      fun v s => { s with buffer.threshold := v }, true⟩,
    ⟨"buffer", "max_buffer_time_ms", .word64, (·.buffer.maxAgeMs),
      fun v s => { s with buffer.maxAgeMs := v }, true⟩,
    ⟨"buffer", "flush_interval_ms", .word64, (·.buffer.flushIntervalMs),
      fun v s => { s with buffer.flushIntervalMs := v }, true⟩]

def processingSettings : List Setting :=
  [⟨"processing", "max_retry_count", .word32, (·.processing.maxRetries),
      fun v s => { s with processing.maxRetries := v }, true⟩,
    ⟨"processing", "retry_interval_ms", .word64, (·.processing.retryIntervalMs),
      fun v s => { s with processing.retryIntervalMs := v }, true⟩,
    ⟨"processing", "worker_threads", .word64, (·.processing.workers),
      fun v s => { s with processing.workers := v }, true⟩]

def authSettings : List Setting :=
  [⟨"auth", "timestamp_validity_ms", .word64, (·.auth.validityMs),
      fun v s => { s with auth.validityMs := v }, true⟩,
    ⟨"auth", "cache_ttl_secs", .word64, (·.auth.cacheTtlSecs),
      fun v s => { s with auth.cacheTtlSecs := v }, true⟩]

def rateLimitSettings : List Setting :=
  [⟨"rate_limit", "refill_interval_ms", .word64, (·.rateLimit.refillIntervalMs),
      fun v s => { s with rateLimit.refillIntervalMs := v }, true⟩]

def cleanupSettings : List Setting :=
  [⟨"cleanup", "enabled", .flag, (·.cleanup.enabled),
      fun v s => { s with cleanup.enabled := v }, true⟩,
    ⟨"cleanup", "processed_retention_hours", .word64, (·.cleanup.processedRetentionHours),
      fun v s => { s with cleanup.processedRetentionHours := v }, true⟩,
    ⟨"cleanup", "failed_retention_hours", .word64, (·.cleanup.failedRetentionHours),
      fun v s => { s with cleanup.failedRetentionHours := v }, true⟩,
    ⟨"cleanup", "processing_timeout_minutes", .word64, (·.cleanup.processingTimeoutMinutes),
      fun v s => { s with cleanup.processingTimeoutMinutes := v }, true⟩,
    ⟨"cleanup", "initial_delay_minutes", .word64, (·.cleanup.initialDelayMinutes),
      fun v s => { s with cleanup.initialDelayMinutes := v }, false⟩,
    ⟨"cleanup", "interval_minutes", .word64, (·.cleanup.intervalMinutes),
      fun v s => { s with cleanup.intervalMinutes := v }, true⟩]

def groups : List (String × List Setting) :=
  [("general", generalSettings), ("metrics", metricsSettings), ("buffer", bufferSettings),
    ("processing", processingSettings), ("auth", authSettings),
    ("rate_limit", rateLimitSettings), ("cleanup", cleanupSettings)]

def all : List Setting :=
  groups.flatMap (·.2)

def path (x : Setting) : String :=
  x.group ++ "." ++ x.name

def variableName (x : Setting) : String :=
  "INTAKE_" ++ x.group.toUpper ++ "_" ++ x.name.toUpper

end Setting

end LogPipeline
