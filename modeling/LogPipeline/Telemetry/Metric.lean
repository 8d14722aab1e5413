namespace LogPipeline

inductive MetricKind where
  | counter
  | gauge
  | histogram
  deriving DecidableEq, Repr

def MetricKind.name : MetricKind → String
  | .counter => "counter"
  | .gauge => "gauge"
  | .histogram => "histogram"

inductive Metric where
  | logsReceived
  | batchesReceived
  | admissionRejected
  | bufferedLogs
  | batchesProcessed
  | logsStored
  | batchesFailed
  | batchRetries
  | processingDuration
  | batchesCleaned
  | uptime
  deriving DecidableEq, Repr

namespace Metric

def all : List Metric :=
  [.logsReceived, .batchesReceived, .admissionRejected, .bufferedLogs, .batchesProcessed,
    .logsStored, .batchesFailed, .batchRetries, .processingDuration, .batchesCleaned, .uptime]

def name : Metric → String
  | .logsReceived => "intake_logs_received_total"
  | .batchesReceived => "intake_batches_received_total"
  | .admissionRejected => "intake_admission_rejected_total"
  | .bufferedLogs => "intake_buffered_logs"
  | .batchesProcessed => "intake_batches_processed_total"
  | .logsStored => "intake_logs_stored_total"
  | .batchesFailed => "intake_batches_failed_total"
  | .batchRetries => "intake_batch_retries_total"
  | .processingDuration => "intake_batch_processing_duration_seconds"
  | .batchesCleaned => "intake_batches_cleaned_total"
  | .uptime => "intake_daemon_uptime_seconds"

def kind : Metric → MetricKind
  | .bufferedLogs | .uptime => .gauge
  | .processingDuration => .histogram
  | _ => .counter

def description : Metric → String
  | .logsReceived => "Total number of logs admitted per app and endpoint"
  | .batchesReceived => "Total number of batches created from batch submissions"
  | .admissionRejected => "Requests rejected by admission control, by reason"
  | .bufferedLogs => "Logs waiting in single-log buffers"
  | .batchesProcessed => "Batches that reached the PROCESSED state"
  | .logsStored => "Logs handed to storage successfully"
  | .batchesFailed => "Batches marked FAILED after exhausting retries"
  | .batchRetries => "Batch processing retry attempts"
  | .processingDuration => "Latency from batch reception to PROCESSED in seconds"
  | .batchesCleaned => "Batches deleted or timed out by the cleanup job"
  | .uptime => "Seconds since the daemon started"

end Metric

/-- The upper bounds, in seconds, of the classes of the processing duration. -/
def durationBuckets : List Float :=
  [0.005, 0.01, 0.05, 0.1, 0.25, 0.5, 1.0, 2.5, 5.0, 10.0, 30.0, 60.0]

end LogPipeline
