import LogPipeline.Backend.Basic

namespace LogPipeline

namespace Storage

variable {s : Storage}

theorem holds_of_available (available : s.unavailable = false) (id : BatchId) :
    s.holds id = .ok (s.held.contains id) := by
  simp only [holds, available, Bool.false_eq_true, if_false]

theorem store_of_refusing (available : s.unavailable = false) (refusing : 0 < s.refuseNext)
    (id : BatchId) (logs : List ProcessedLog) :
    s.store id logs = (.ok (.refused (some "rejected by storage")),
      { s with calls := s.calls + 1, refuseNext := s.refuseNext - 1 }) := by
  simp only [store, available, Bool.false_eq_true, if_false, refusing, if_true]

theorem store_of_accepting (available : s.unavailable = false) (accepting : s.refuseNext = 0)
    (id : BatchId) (logs : List ProcessedLog) :
    s.store id logs = (.ok (.stored (some (traceOf id))),
      { s with calls := s.calls + 1, held := s.held.insert id logs }) := by
  simp only [store, available, accepting, Bool.false_eq_true, if_false, Nat.lt_irrefl]

end Storage

namespace Backend

variable {α β : Type}

theorem state_bind {σ : Type} (x : StateM σ α) (f : α → StateM σ β) (s : σ) :
    (x >>= f) s = f (x s).1 (x s).2 := rfl

namespace Call

theorem on_pure (a : α) (b : Backend) : (pure a : Call α).on b = (.ok a, b) := rfl

theorem on_get (b : Backend) : (get : Call Backend).on b = (.ok b, b) := rfl

theorem on_set (after b : Backend) : (set after : Call Unit).on b = (.ok (), after) := rfl

theorem on_bind (x : Call α) (f : α → Call β) (b : Backend) :
    (x >>= f).on b =
      match x.on b with
      | (.ok a, b) => (f a).on b
      | (.error e, b) => (.error e, b) := by
  change (ExceptT.bind x f).run b = _
  simp only [on, ExceptT.bind, ExceptT.run, ExceptT.mk, bind, StateT.bind]
  rcases answer : (StateT.run x b : Except Failure α × Backend) with ⟨r, after⟩
  have answer : x b = (r, after) := answer
  simp only [answer]
  cases r <;> rfl

theorem on_tryCatch (x : Call α) (handle : Failure → Call α) (b : Backend) :
    (tryCatch x handle : Call α).on b =
      match x.on b with
      | (.ok a, b) => (.ok a, b)
      | (.error e, b) => (handle e).on b := by
  change (ExceptT.tryCatch x handle).run b = _
  simp only [on, ExceptT.tryCatch, ExceptT.run, ExceptT.mk, bind, StateT.bind]
  rcases answer : (StateT.run x b : Except Failure α × Backend) with ⟨r, after⟩
  have answer : x b = (r, after) := answer
  simp only [answer]
  cases r <;> rfl

end Call

/-- No fault is planned and no answer is scripted. -/
structure Plain (b : Backend) : Prop where
  faults : b.faults = .empty
  script : b.script = []

variable {b : Backend}

theorem on_goesWrong (plain : b.Plain) (p : Port) : (goesWrong p).on b = (.ok false, b) := by
  have spared : b.faults.take p = (false, b.faults) := by rw [plain.faults]; rfl
  simp only [goesWrong, Call.on_bind, Call.on_get, Call.on_set, Call.on_pure, spared]

theorem on_checkpoint (plain : b.Plain) (p : Port) : (checkpoint p).on b = (.ok (), b) := by
  simp only [checkpoint, Call.on_bind, on_goesWrong plain]
  rfl

/-! ## Registries -/

theorem on_findApp (plain : b.Plain) (id : AppId) :
    (findApp id).on b = (.ok (b.apps.get? id), b) := by
  simp only [findApp, Call.on_bind, on_checkpoint plain, Call.on_get, Call.on_pure]

theorem on_findEndpoint (plain : b.Plain) (id : EndpointId) :
    (findEndpoint id).on b = (.ok (b.endpoints.get? id), b) := by
  simp only [findEndpoint, Call.on_bind, on_checkpoint plain, Call.on_get, Call.on_pure]

/-! ## Batches -/

theorem on_newBatch (key : Key) (logs : List RawLog) (now : Timestamp) (b : Backend) :
    (newBatch key logs now).on b =
      (.ok (.new b.ids.fresh key logs now), { b with ids := b.ids.advance }) := rfl

theorem on_findBatch (plain : b.Plain) (id : BatchId) :
    (findBatch id).on b = (.ok (b.batches.get? id), b) := by
  simp only [findBatch, Call.on_bind, on_checkpoint plain, on_goesWrong plain]
  rfl

theorem on_saveBatch (plain : b.Plain) (batch : Batch) :
    (saveBatch batch).on b =
      match b.batches.save batch with
      | .error e => (.error e, b)
      | .ok batches => (.ok (), { b with batches }) := by
  simp only [saveBatch, Call.on_bind, on_checkpoint plain, Call.on_get]
  cases b.batches.save batch <;> rfl

theorem on_updateBatch (plain : b.Plain) (id : BatchId) (u : BatchUpdate) :
    (updateBatch id u).on b =
      match b.batches.update id u with
      | .error e => (.error e, b)
      | .ok batches => (.ok (), { b with batches }) := by
  simp only [updateBatch, Call.on_bind, on_checkpoint plain, Call.on_get]
  cases b.batches.update id u <;> rfl

theorem on_deleteBatch (plain : b.Plain) (id : BatchId) :
    (deleteBatch id).on b =
      match b.batches.delete id with
      | .error e => (.error e, b)
      | .ok (found, batches) => (.ok found, { b with batches }) := by
  simp only [deleteBatch, Call.on_bind, on_checkpoint plain, on_goesWrong plain,
    Bool.false_eq_true, if_false, Call.on_get]
  cases b.batches.delete id <;> rfl

def OnlyBatches (b after : Backend) : Prop :=
  ∃ batches, after = { b with batches }

theorem onlyBatches_saveBatch (plain : b.Plain) (batch : Batch) :
    OnlyBatches b ((saveBatch batch).on b).2 := by
  rw [on_saveBatch plain]
  cases b.batches.save batch with
  | error e => exact ⟨b.batches, rfl⟩
  | ok batches => exact ⟨batches, rfl⟩

theorem onlyBatches_updateBatch (plain : b.Plain) (id : BatchId) (u : BatchUpdate) :
    OnlyBatches b ((updateBatch id u).on b).2 := by
  rw [on_updateBatch plain]
  cases b.batches.update id u with
  | error e => exact ⟨b.batches, rfl⟩
  | ok batches => exact ⟨batches, rfl⟩

theorem onlyBatches_deleteBatch (plain : b.Plain) (id : BatchId) :
    OnlyBatches b ((deleteBatch id).on b).2 := by
  rw [on_deleteBatch plain]
  cases b.batches.delete id with
  | error e => exact ⟨b.batches, rfl⟩
  | ok answer => exact ⟨answer.2, rfl⟩

theorem on_batchesProcessedBefore (plain : b.Plain) (status : BatchStatus) (bound : Timestamp) :
    (batchesProcessedBefore status bound).on b =
      (.ok (b.batches.processedBefore status bound), b) := by
  simp only [batchesProcessedBefore, Call.on_bind, on_checkpoint plain, Call.on_get, Call.on_pure]

theorem on_batchesLastProcessBefore (plain : b.Plain) (status : BatchStatus) (bound : Timestamp) :
    (batchesLastProcessBefore status bound).on b =
      (.ok (b.batches.lastProcessBefore status bound), b) := by
  simp only [batchesLastProcessBefore, Call.on_bind, on_checkpoint plain, Call.on_get,
    Call.on_pure]

/-! ## Preprocessor and storage -/

theorem on_preprocessBatch (plain : b.Plain) (batch : Batch) (now : Timestamp) :
    (preprocessBatch batch now).on b = (.ok (b.preprocessor.preprocessBatch batch now), b) := by
  simp only [preprocessBatch, Call.on_bind, on_checkpoint plain, Call.on_get, Call.on_pure]

theorem on_isStored (plain : b.Plain) (id : BatchId) :
    (isStored id).on b = (b.storage.holds id, b) := by
  simp only [isStored, Call.on_bind, on_checkpoint plain, Call.on_get]
  cases b.storage.holds id <;> rfl

theorem on_storeBatch (plain : b.Plain) (id : BatchId) (logs : List ProcessedLog) :
    (storeBatch id logs).on b =
      ((b.storage.store id logs).1, { b with storage := (b.storage.store id logs).2 }) := by
  have usual : nextScripted.on b = (.ok .asUsual, b) := by
    simp only [nextScripted, Call.on_bind, Call.on_get, plain.script, Call.on_pure]
  simp only [storeBatch, storeDirectly, Call.on_bind, on_checkpoint plain, usual, Call.on_get,
    Call.on_set]
  cases (b.storage.store id logs).1 <;> rfl

theorem on_record (f : Telemetry → Telemetry) (b : Backend) :
    (record f).on b = (.ok (), { b with telemetry := f b.telemetry }) := rfl

end Backend

end LogPipeline
