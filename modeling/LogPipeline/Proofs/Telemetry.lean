import LogPipeline.Proofs.Collections
import LogPipeline.Telemetry.Counters

namespace LogPipeline.Telemetry

theorem counters_update (t : Telemetry) (key : Key) (f : Counters → Counters) (other : Key) :
    (t.update key f).counters other =
      if key = other then f (t.counters key) else t.counters other := by
  unfold counters
  rw [update, Table.get?_insert]
  by_cases same : key = other
  · simp only [same, if_true, Option.getD_some]
    rfl
  · simp only [same, if_false]

theorem counters_countKey (t : Telemetry) (metric : Metric) (key : Key) (n : UInt64)
    (other : Key) : (t.countKey metric key n).counters other = t.counters other := rfl

theorem counters_retried (t : Telemetry) (key other : Key) :
    (t.retried key).counters other =
      if key = other then { t.counters key with retries := (t.counters key).retries + 1 }
      else t.counters other := by
  rw [retried, counters_countKey, counters_update]

theorem counters_batchFailed (t : Telemetry) (key other : Key) :
    (t.batchFailed key).counters other =
      if key = other then { t.counters key with failures := (t.counters key).failures + 1 }
      else t.counters other := by
  rw [batchFailed, counters_countKey, counters_update]

theorem counters_batchProcessed (t : Telemetry) (key : Key) (logs millis : UInt64) (other : Key) :
    (t.batchProcessed key logs millis).counters other =
      if key = other then (t.counters key).addSuccess logs millis else t.counters other := by
  change ((t.update key fun c => c.addSuccess logs millis).counters other) = _
  rw [counters_update]

theorem counters_logsReceived (t : Telemetry) (key : Key) (n : UInt64) (other : Key) :
    (t.logsReceived key n).counters other =
      if key = other then { t.counters key with receivedLogs := (t.counters key).receivedLogs + n }
      else t.counters other := by
  rw [logsReceived, counters_countKey, counters_update]

theorem counters_batchReceived (t : Telemetry) (key other : Key) :
    (t.batchReceived key).counters other =
      if key = other then
        { t.counters key with receivedBatches := (t.counters key).receivedBatches + 1 }
      else t.counters other := by
  rw [batchReceived, counters_countKey, counters_update]

theorem counters_of_perKey {t u : Telemetry} (same : t.perKey = u.perKey) (key : Key) :
    t.counters key = u.counters key := by
  rw [counters, counters, same]

theorem perKey_logsReceived {t u : Telemetry} (same : t.perKey = u.perKey) (key : Key)
    (n : UInt64) : (t.logsReceived key n).perKey = (u.logsReceived key n).perKey := by
  simp only [logsReceived, countKey, update, counters, same]

theorem perKey_cleaned (t : Telemetry) (result : String) (n : Nat) :
    (t.cleaned result n).perKey = t.perKey := by
  unfold cleaned
  split <;> rfl

end LogPipeline.Telemetry
