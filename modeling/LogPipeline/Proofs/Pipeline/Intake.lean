import LogPipeline.Proofs.Admission
import LogPipeline.Proofs.Pipeline.Ledger

namespace LogPipeline

open Backend

namespace Pipeline

variable {α : Type} {preprocessor : Preprocessor} {entries : List Entry} {hand : List Group}
  {p q : Pipeline α}

theorem OnlyGateway.balanced (only : OnlyGateway p q)
    (balanced : Balanced preprocessor entries hand p) : Balanced preprocessor entries hand q := by
  obtain ⟨gateway, telemetry, rfl⟩ := only
  exact balanced.of_same rfl rfl rfl rfl rfl (balanced.reliable.of_same rfl rfl rfl rfl rfl)
    fun _ _ accounted => accounted.of_same rfl rfl rfl

theorem OnlyGateway.served (only : OnlyGateway p q) (served : Served p) : Served q := by
  obtain ⟨_, _, rfl⟩ := only
  exact served

theorem OnlyGateway.steady (only : OnlyGateway p q) (steady : Steady preprocessor entries p) :
    Steady preprocessor entries q :=
  ⟨only.balanced steady.balanced, only.served steady.served⟩

/-! ## Single logs -/

def withBuffers (buffers : Buffers) (p : Pipeline α) : Pipeline α :=
  (showBuffered { p with buffers }).2

theorem buffers_withBuffers (buffers : Buffers) (p : Pipeline α) :
    (p.withBuffers buffers).buffers = buffers := rfl

def bufferedSince (key : Key) (p : Pipeline α) : Nat :=
  if (p.buffers.logsOf key).isEmpty then p.clock
  else (p.buffers.bufferFor key p.clock).since

def ripens (key : Key) (p : Pipeline α) : Bool :=
  decide (p.buffers.threshold ≤ (p.buffers.logsOf key).length + 1) ||
    decide (p.buffers.maxAge ≤ Nanos.ofMillis (p.clock - p.bufferedSince key))

theorem addLog_apply (key : Key) (log : RawLog) (p : Pipeline α) :
    addLog key log p =
      if p.ripens key then
        (true, (setReady (.flush key (p.buffers.logsOf key ++ [log]))
          (p.withBuffers ((p.buffers.push key log p.clock).take key p.clock))).2)
      else (false, p.withBuffers (p.buffers.push key log p.clock)) := by
  let buffers := p.buffers.push key log p.clock
  have logs : (buffers.bufferFor key p.clock).logs = p.buffers.logsOf key ++ [log] := by
    rw [Buffers.logs_bufferFor, Buffers.logsOf_push, if_pos rfl]
  have since : (buffers.bufferFor key p.clock).since = p.bufferedSince key := by
    rw [Buffers.bufferFor_push, bufferedSince, ← Buffers.logs_bufferFor _ _ p.clock]
    rfl
  have ready : (decide (buffers.threshold ≤ (p.buffers.logsOf key ++ [log]).length) ||
      decide (buffers.maxAge ≤ Nanos.ofMillis (p.clock - p.bufferedSince key))) =
        p.ripens key := by
    rw [List.length_append]
    rfl
  simp only [addLog, get_bind_apply, set_bind_apply, logs, since, ready, buffers]
  cases p.ripens key <;> rfl

theorem addLog_cases (key : Key) (log : RawLog) (p : Pipeline α) :
    (addLog key log p).2 = p.withBuffers (p.buffers.push key log p.clock) ∨
      (addLog key log p).2 = (setReady (.flush key (p.buffers.logsOf key ++ [log]))
        (p.withBuffers ((p.buffers.push key log p.clock).take key p.clock))).2 := by
  rw [addLog_apply]
  cases p.ripens key with
  | true => exact .inr rfl
  | false => exact .inl rfl

theorem singles_log (entries : List Entry) (key : Key) (log : RawLog) (other : Key) :
    singles (entries ++ [.log key log]) other =
      singles entries other ++ if key = other then [log] else [] := by
  rw [singles_append]
  congr 1
  by_cases same : key = other <;> simp [singles, same]

theorem submitted_log (entries : List Entry) (key : Key) (log : RawLog) :
    submitted (entries ++ [.log key log]) = submitted entries :=
  (submitted_append _ _).trans (List.append_nil _)

theorem Steady.addLog (steady : Steady preprocessor entries p) (key : Key) (log : RawLog) :
    Steady preprocessor (entries ++ [.log key log]) (addLog key log p).2 := by
  obtain ⟨seated, seats, running, deliver, routine, jobs⟩ := steady.balanced.calm
  obtain ⟨taken, flushed, logs, groups, batches⟩ := steady.balanced.ledger
  have reliable : ∀ buffers, Reliable preprocessor (p.withBuffers buffers).backend :=
    fun _ => steady.balanced.reliable.of_same rfl rfl rfl rfl rfl
  have batches : ∀ buffers, Accounted preprocessor
      (submitted (entries ++ [.log key log]) ++ flushed) p.pool.waiting
      (p.withBuffers buffers).backend := fun _ => by
    rw [submitted_log]
    exact batches.of_same rfl rfl rfl
  -- The log is the last one of its key, in the buffer or in the group that leaves it.
  obtain joined | left := addLog_cases key log p
  · rw [joined]
    refine ⟨⟨⟨seated, seats, running, deliver, routine, jobs⟩, reliable _, taken, flushed, ?_,
      groups, batches _⟩, steady.served⟩
    intro other
    rw [singles_log, logs, buffers_withBuffers, Buffers.logsOf_push]
    by_cases same : key = other
    · rw [if_pos same, if_pos same, same, List.append_assoc]
    · rw [if_neg same, if_neg same, List.append_nil]
  · rw [left, setReady_apply]
    refine ⟨⟨⟨seated, seats, running, deliver, forall_mem_append_singleton routine trivial, jobs⟩,
      reliable _, taken ++ [(key, p.buffers.logsOf key ++ [log])], flushed, ?_, ?_,
      batches _⟩, fun waits => List.mem_append_left _ (steady.served waits)⟩
    · intro other
      rw [singles_log, logs, buffers_withBuffers, Buffers.logsOf_take_push, List.filter_append,
        List.flatMap_append]
      by_cases same : key = other
      · simp [same]
      · simp [same]
    · refine (groups.append_right [(key, p.buffers.logsOf key ++ [log])]).trans ?_
      rw [List.perm_iff_count]
      intro group
      simp only [withBuffers, showBuffered_apply, record_apply, List.filterMap_append,
        List.count_append, List.filterMap_cons, List.filterMap_nil, Task.group?]
      omega

theorem Steady.addLogs (steady : Steady preprocessor entries p) (key : Key) (logs : List RawLog) :
    Steady preprocessor (entries ++ logs.map (.log key))
      (logs.forM (fun log => discard (Pipeline.addLog key log)) p).2 := by
  induction logs generalizing entries p with
  | nil =>
      rw [List.map_nil, List.append_nil]
      exact steady
  | cons log rest ih =>
      have later := ih (steady.addLog key log)
      rw [List.append_assoc] at later
      exact later

end Pipeline

namespace Admission

open Pipeline

variable {α : Type} {preprocessor : Preprocessor} {entries : List Entry} {p : Pipeline α}

/-! ## Submissions -/

theorem steady_intoBuffer (steady : Steady preprocessor entries p) (s : Submission) (found : Found) :
    ∃ q, intoBuffer s found p = (.halt .buffered, q) ∧
      Steady preprocessor (entries ++ found.valid.map (.log s.key)) q := by
  have added := steady.addLogs s.key found.valid
  exact ⟨_, rfl, added.balanced.record fun t => t.logsReceived s.key (.ofNat found.valid.length),
    added.served⟩

theorem steady_intoBatch (steady : Steady preprocessor entries p) (s : Submission) (found : Found) :
    ∃ id q, intoBatch s found p = (.halt (.accepted id found.invalid), q) ∧
      Steady preprocessor (entries ++ [.batch ⟨id, s.key, found.valid⟩]) q := by
  have made := steady.balanced.withSubmitted s.key found.valid
  have calm := steady.balanced.calm
  have taken : intoBatch s found p = (.halt (.accepted p.backend.ids.fresh found.invalid),
      (record (fun t => (t.batchReceived s.key).logsReceived s.key (.ofNat found.valid.length))
        (p.withBatch s.key found.valid)).2) := by
    simp only [intoBatch, get_bind_apply]
    rw [bind_apply, call_apply, on_newBatch]
    dsimp only
    rw [bind_apply, call_apply, on_saveBatch_new steady.balanced.reliable]
    dsimp only
    rw [bind_apply, record_apply, bind_apply, announce_calm]
    · rfl
    · exact ⟨calm.seated, calm.seats, calm.running, calm.handler, calm.ready, calm.timers⟩
  exact ⟨_, _, taken, made.record _, served_withBatch s.key found.valid p⟩

def logTaken (key : Key) (log : RawLog) : Reception → List Entry
  | .buffered => [.log key log]
  | _ => []

def fitting (b : Backend) (key : Key) (logs : List RawLog) : List RawLog :=
  match b.endpoints.get? key.endpoint with
  | none => []
  | some endpoint => logs.filter (fits endpoint)

def batchTaken (key : Key) (logs : List RawLog) : Reception → List Entry
  | .accepted id _ => [.batch ⟨id, key, logs⟩]
  | _ => []

variable [Quantity α]

theorem steady_submit_log (steady : Steady preprocessor entries p) (key : Key) (log : RawLog) :
    Steady preprocessor
      (entries ++ logTaken key log (submit ⟨key, [log], .single⟩ p).1)
      (submit ⟨key, [log], .single⟩ p).2 := by
  obtain ⟨q, only, ⟨reason, rejected⟩ | ⟨endpoint, found, known, valid, some, taken⟩⟩ :=
    submit_cases steady.balanced.reliable.toPlain ⟨key, [log], .single⟩
  · rw [rejected]
    exact (List.append_nil entries).symm ▸ only.steady steady
  · obtain ⟨after, halts, kept⟩ :=
      steady_intoBuffer (only.steady steady) ⟨key, [log], .single⟩ found
    have alone : found.valid = [log] := by
      rw [valid] at some ⊢
      cases fit : fits endpoint log with
      | true => simp [fit]
      | false => simp [fit] at some
    rw [taken _ _ halts]
    rw [alone] at kept
    exact kept

theorem steady_submit_batch (steady : Steady preprocessor entries p) (key : Key)
    (logs : List RawLog) :
    Steady preprocessor
      (entries ++ batchTaken key (fitting p.backend key logs) (submit ⟨key, logs, .batch⟩ p).1)
      (submit ⟨key, logs, .batch⟩ p).2 := by
  obtain ⟨q, only, ⟨reason, rejected⟩ | ⟨endpoint, found, known, valid, some, taken⟩⟩ :=
    submit_cases steady.balanced.reliable.toPlain ⟨key, logs, .batch⟩
  · rw [rejected]
    exact (List.append_nil entries).symm ▸ only.steady steady
  · obtain ⟨id, after, halts, kept⟩ :=
      steady_intoBatch (only.steady steady) ⟨key, logs, .batch⟩ found
    have fit : fitting p.backend key logs = found.valid := by
      rw [fitting, known, valid]
    rw [taken _ _ halts, fit]
    exact kept

end Admission

end LogPipeline
