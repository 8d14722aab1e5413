import LogPipeline.Proofs.Batch.Store
import LogPipeline.Proofs.Backend.Calls
import LogPipeline.Proofs.Telemetry
import LogPipeline.Retention

namespace LogPipeline

open Backend

variable {holds : Backend → Prop}

theorem tallyEach_cons (act : BatchId → Call Bool) (batch : Batch) (rest : List Batch)
    (b : Backend) :
    (tallyEach act (batch :: rest) b).2 = (tallyEach act rest ((act batch.id).on b).2).2 := by
  rw [tallyEach, state_bind, state_bind]
  change _ = (tallyEach act rest ((act batch.id).run b).2).2
  rcases (act batch.id).run b with ⟨answer, after⟩
  cases answer with
  | error e => rfl
  | ok counted => cases counted <;> rfl

theorem tallyEach_keeps {act : BatchId → Call Bool} {found : List Batch}
    (each : ∀ batch ∈ found, ∀ b, holds b → holds ((act batch.id).on b).2) {b : Backend}
    (start : holds b) : holds (tallyEach act found b).2 := by
  induction found generalizing b with
  | nil => exact start
  | cons batch rest ih =>
      rw [tallyEach_cons]
      have later : ∀ other ∈ rest, ∀ b, holds b → holds ((act other.id).on b).2 :=
        fun other member => each other (List.mem_cons_of_mem _ member)
      exact ih later (each batch List.mem_cons_self b start)

theorem tallyFound_of_found {query : Call (List Batch)} {found : List Batch} {b : Backend}
    (answer : query.on b = (.ok found, b)) (act : BatchId → Call Bool) :
    tallyFound query act b = tallyEach act found b := by
  rw [tallyFound, state_bind]
  change query.run b = (.ok found, b) at answer
  rw [answer]

def sweep (policy : RetentionPolicy) (now : Timestamp) (b : Backend) : Backend :=
  let b := (tallyFound
    (batchesProcessedBefore .processed (now.before policy.processedRetention)) deleteBatch b).2
  let b := (tallyFound
    (batchesLastProcessBefore .failed (now.before policy.failedRetention)) deleteBatch b).2
  (tallyFound
    (batchesLastProcessBefore .processing (now.before policy.processingTimeout)) timeOut b).2

theorem cleanUp_apply (policy : RetentionPolicy) (now : Timestamp) (b : Backend) :
    ∃ telemetry, telemetry.perKey = (sweep policy now b).telemetry.perKey ∧
      (cleanUp policy now b).2 = { sweep policy now b with telemetry } := by
  simp only [cleanUp, sweep]
  rw [state_bind]
  generalize tallyFound _ _ b = processed
  rw [state_bind]
  generalize tallyFound _ _ processed.2 = failed
  rw [state_bind]
  refine ⟨_, ?_, rfl⟩
  rw [Telemetry.perKey_cleaned, Telemetry.perKey_cleaned]

structure KeptByCleanup (holds : Backend → Prop) : Prop where
  plain : ∀ b, holds b → b.Plain
  deleteProcessed : ∀ b, holds b → ∀ bound, ∀ batch ∈ b.batches.processedBefore .processed bound,
    ∀ b, holds b → holds ((deleteBatch batch.id).on b).2
  deleteFailed : ∀ b, holds b → ∀ bound, ∀ batch ∈ b.batches.lastProcessBefore .failed bound,
    ∀ b, holds b → holds ((deleteBatch batch.id).on b).2
  timeOut : ∀ b, holds b → ∀ bound, ∀ batch ∈ b.batches.lastProcessBefore .processing bound,
    ∀ b, holds b → holds ((timeOut batch.id).on b).2
  count : ∀ b, holds b → ∀ telemetry, telemetry.perKey = b.telemetry.perKey →
    holds { b with telemetry }

theorem KeptByCleanup.cleanUp (kept : KeptByCleanup holds) {b : Backend} (start : holds b)
    (policy : RetentionPolicy) (now : Timestamp) : holds (cleanUp policy now b).2 := by
  obtain ⟨telemetry, counted, passed⟩ := cleanUp_apply policy now b
  rw [passed]
  refine kept.count _ ?_ _ counted
  simp only [sweep]
  rw [tallyFound_of_found (on_batchesProcessedBefore (kept.plain b start) _ _)]
  have processed := tallyEach_keeps (kept.deleteProcessed b start
    (now.before policy.processedRetention)) start
  generalize (tallyEach deleteBatch _ b).2 = b at processed ⊢
  rw [tallyFound_of_found (on_batchesLastProcessBefore (kept.plain b processed) _ _)]
  have failed := tallyEach_keeps (kept.deleteFailed b processed
    (now.before policy.failedRetention)) processed
  generalize (tallyEach deleteBatch _ b).2 = b at failed ⊢
  rw [tallyFound_of_found (on_batchesLastProcessBefore (kept.plain b failed) _ _)]
  exact tallyEach_keeps (kept.timeOut b failed _) failed

theorem onlyBatches_timeOut {b : Backend} (plain : b.Plain) (id : BatchId) :
    OnlyBatches b ((timeOut id).on b).2 := by
  have marked := onlyBatches_updateBatch plain id (.status .failed (some timeoutMessage))
  simp only [timeOut, Call.on_bind]
  generalize (updateBatch id (.status .failed (some timeoutMessage))).on b = answered at marked ⊢
  obtain ⟨answer, after⟩ := answered
  cases answer <;> exact marked

theorem cleanUp_writes {b : Backend} (plain : b.Plain) (policy : RetentionPolicy)
    (now : Timestamp) :
    ∃ batches telemetry, telemetry.perKey = b.telemetry.perKey ∧
      (cleanUp policy now b).2 = { b with batches, telemetry } := by
  have stays : ∀ (act : BatchId → Call Bool) (id : BatchId),
      (∀ b : Backend, b.Plain → OnlyBatches b ((act id).on b).2) → ∀ c : Backend,
        (∃ batches telemetry, telemetry.perKey = b.telemetry.perKey ∧
          c = { b with batches, telemetry }) →
        ∃ batches telemetry, telemetry.perKey = b.telemetry.perKey ∧
          ((act id).on c).2 = { b with batches, telemetry } := by
    rintro act id writes c ⟨batches, telemetry, same, rfl⟩
    obtain ⟨later, written⟩ := writes { b with batches, telemetry } ⟨plain.faults, plain.script⟩
    exact ⟨later, telemetry, same, written⟩
  have kept : KeptByCleanup fun c => ∃ batches telemetry,
      telemetry.perKey = b.telemetry.perKey ∧ c = { b with batches, telemetry } :=
    { plain := by
        rintro c ⟨batches, telemetry, -, rfl⟩
        exact ⟨plain.faults, plain.script⟩
      deleteProcessed := fun _ _ _ batch _ =>
        stays deleteBatch batch.id fun b plain => onlyBatches_deleteBatch plain batch.id
      deleteFailed := fun _ _ _ batch _ =>
        stays deleteBatch batch.id fun b plain => onlyBatches_deleteBatch plain batch.id
      timeOut := fun _ _ _ batch _ =>
        stays LogPipeline.timeOut batch.id fun b plain => onlyBatches_timeOut plain batch.id
      count := by
        rintro c ⟨batches, telemetry, same, rfl⟩ later counted
        exact ⟨batches, later, counted.trans same, rfl⟩ }
  exact kept.cleanUp ⟨b.batches, b.telemetry, rfl, rfl⟩ policy now

/-! ## What is left of a batch -/

def Batch.timedOut (batch : Batch) : Batch :=
  { batch with status := .failed, error := some timeoutMessage }

def RetentionPolicy.leaves (policy : RetentionPolicy) (now : Timestamp) (batch : Batch) :
    Option Batch :=
  match batch.status with
  | .pending => some batch
  | .processing =>
    if BatchStore.isBefore batch.lastProcess (now.before policy.processingTimeout) then
      some batch.timedOut
    else some batch
  | .processed =>
    if BatchStore.isBefore batch.processed (now.before policy.processedRetention) then none
    else some batch
  | .failed =>
    if BatchStore.isBefore batch.lastProcess (now.before policy.failedRetention) then none
    else some batch

section

variable {b : Backend}

structure Backend.Writable (b : Backend) : Prop extends b.Plain where
  writes : b.batches.failWrites = false

theorem Backend.Writable.withBatches (writable : b.Writable) {batches : BatchStore}
    (same : batches.failWrites = b.batches.failWrites) : { b with batches }.Writable :=
  ⟨⟨writable.faults, writable.script⟩, same.trans writable.writes⟩

structure ActsBy (act : BatchId → Call Bool) (f : Option Batch → Option Batch) : Prop where
  writable : ∀ (b : Backend) (id : BatchId), b.Writable → ((act id).on b).2.Writable
  shows : ∀ (b : Backend) (id : BatchId), b.Writable → ∀ other,
    ((act id).on b).2.batches.get? other =
      if id = other then f (b.batches.get? other) else b.batches.get? other

theorem get?_tallyEach {act : BatchId → Call Bool} {f : Option Batch → Option Batch}
    (acts : ActsBy act f) (twice : ∀ found, f (f found) = f found) (writable : b.Writable)
    (found : List Batch) (id : BatchId) :
    (tallyEach act found b).2.Writable ∧
      (tallyEach act found b).2.batches.get? id =
        if id ∈ found.map Batch.id then f (b.batches.get? id) else b.batches.get? id := by
  induction found generalizing b with
  | nil => exact ⟨writable, rfl⟩
  | cons batch rest ih =>
      obtain ⟨last, later⟩ := ih (acts.writable b batch.id writable)
      rw [tallyEach_cons]
      refine ⟨last, later.trans ?_⟩
      rw [acts.shows b batch.id writable id]
      by_cases here : batch.id = id
      · simp [here, twice]
      · simp [here, Ne.symm here]

theorem actsBy_deleteBatch : ActsBy deleteBatch fun _ => none := by
  have deleted : ∀ (b : Backend) (gone : BatchId), b.Writable →
      ((deleteBatch gone).on b).2 = { b with batches := b.batches.erase gone } := by
    intro b gone writable
    rw [on_deleteBatch writable.toPlain, BatchStore.delete, writable.writes]
    rfl
  refine ⟨fun b gone writable => ?_, fun b gone writable id => ?_⟩
  · rw [deleted b gone writable]
    exact writable.withBatches rfl
  · rw [deleted b gone writable]
    exact BatchStore.get?_erase b.batches gone id

def Batch.giveUp (batch : Batch) : Batch :=
  if batch.status = .processed then batch else batch.timedOut

theorem Batch.giveUp_giveUp (batch : Batch) : batch.giveUp.giveUp = batch.giveUp := by
  by_cases processed : batch.status = .processed
  · simp [giveUp, processed]
  · simp [giveUp, processed, timedOut]

theorem timeOut_shows (writable : b.Writable) (late : BatchId) :
    ((timeOut late).on b).2.Writable ∧ ∀ id,
      ((timeOut late).on b).2.batches.get? id =
        if late = id then (b.batches.get? id).map Batch.giveUp else b.batches.get? id := by
  have refused : ∀ e, b.batches.update late (.status .failed (some timeoutMessage)) = .error e →
      ((timeOut late).on b).2 = b := by
    intro e answer
    simp only [timeOut, Call.on_bind, on_updateBatch writable.toPlain, answer]
  cases found : b.batches.get? late with
  | none =>
      have unknown : b.batches.update late (.status .failed (some timeoutMessage)) =
          .error (.batchNotFound late.text) := by
        simp [BatchStore.update, writable.writes, found]
      rw [refused _ unknown]
      refine ⟨writable, fun id => ?_⟩
      split
      · next same => rw [← same, found, Option.map_none]
      · rfl
  | some batch =>
      by_cases processed : batch.status = .processed
      · have illegal : b.batches.update late (.status .failed (some timeoutMessage)) =
            .error (BatchStore.illegalMove late batch.status .failed) := by
          simp [BatchStore.update, writable.writes, found, processed, BatchStatus.canMoveTo,
            BatchUpdate.target]
        rw [refused _ illegal]
        refine ⟨writable, fun id => ?_⟩
        split
        · next same => rw [← same, found, Option.map_some, Batch.giveUp, if_pos processed]
        · rfl
      · have marked : b.batches.update late (.status .failed (some timeoutMessage)) =
            .ok (b.batches.put batch.timedOut) :=
          BatchStore.update_of_open writable.writes found processed (by simp [BatchUpdate.target])
        have written : ((timeOut late).on b).2 =
            { b with batches := b.batches.put batch.timedOut } := by
          simp only [timeOut, Call.on_bind, on_updateBatch writable.toPlain, marked]
          rfl
        rw [written]
        refine ⟨writable.withBatches rfl, fun id => ?_⟩
        have named : batch.timedOut.id = late := (BatchStore.id_of_get? found :)
        change (b.batches.put batch.timedOut).get? id = _
        rw [BatchStore.get?_put, named]
        split
        · next same => rw [← same, found, Option.map_some, Batch.giveUp, if_neg processed]
        · rfl

theorem actsBy_timeOut : ActsBy timeOut (Option.map Batch.giveUp) :=
  ⟨fun _ late writable => (timeOut_shows writable late).1,
    fun _ late writable => (timeOut_shows writable late).2⟩

def Batch.isPast (status : BatchStatus) (time : Batch → Option Timestamp) (bound : Timestamp)
    (batch : Batch) : Bool :=
  batch.status = status && BatchStore.isBefore (time batch) bound

namespace BatchStore

def past (s : BatchStore) (status : BatchStatus) (time : Batch → Option Timestamp)
    (bound : Timestamp) : List Batch :=
  (s.withStatus status).filter fun batch => isBefore (time batch) bound

variable {s : BatchStore} {status : BatchStatus} {time : Batch → Option Timestamp}
  {bound : Timestamp} {id : BatchId} {batch : Batch}

theorem mem_past_iff : batch ∈ s.past status time bound ↔
    s.get? batch.id = some batch ∧ batch.isPast status time bound = true := by
  rw [past, List.mem_filter, mem_withStatus_iff, Batch.isPast, Bool.and_eq_true,
    decide_eq_true_iff, and_assoc]

theorem mem_ids_past_iff : id ∈ (s.past status time bound).map Batch.id ↔
    (s.get? id).any (Batch.isPast status time bound) = true := by
  rw [List.mem_map, Option.any_eq_true]
  constructor
  · rintro ⟨batch, member, rfl⟩
    obtain ⟨found, old⟩ := mem_past_iff.mp member
    exact ⟨batch, found, old⟩
  · rintro ⟨batch, found, old⟩
    obtain rfl := id_of_get? found
    exact ⟨batch, mem_past_iff.mpr ⟨found, old⟩, rfl⟩

end BatchStore

theorem get?_tallyFound {query : Call (List Batch)} {status : BatchStatus}
    {time : Batch → Option Timestamp} {bound : Timestamp}
    (answer : query.on b = (.ok (b.batches.past status time bound), b))
    {act : BatchId → Call Bool} {f : Option Batch → Option Batch} (acts : ActsBy act f)
    (twice : ∀ found, f (f found) = f found) (writable : b.Writable) :
    (tallyFound query act b).2.Writable ∧ ∀ id,
      (tallyFound query act b).2.batches.get? id =
        if (b.batches.get? id).any (Batch.isPast status time bound) then f (b.batches.get? id)
        else b.batches.get? id := by
  rw [tallyFound_of_found answer]
  refine ⟨(get?_tallyEach acts twice writable _ default).1, fun id => ?_⟩
  rw [(get?_tallyEach acts twice writable _ id).2]
  simp only [BatchStore.mem_ids_past_iff]

theorem cleanUp_of_writable (writable : b.Writable) (policy : RetentionPolicy) (now : Timestamp) :
    (cleanUp policy now b).2.Writable ∧ ∀ id,
      (cleanUp policy now b).2.batches.get? id =
        (b.batches.get? id).bind (policy.leaves now) := by
  obtain ⟨telemetry, -, passed⟩ := cleanUp_apply policy now b
  obtain ⟨first, processed⟩ := get?_tallyFound
    (on_batchesProcessedBefore writable.toPlain .processed (now.before policy.processedRetention))
    actsBy_deleteBatch (fun _ => rfl) writable
  rw [passed]
  simp only [sweep]
  generalize (tallyFound (batchesProcessedBefore _ _) deleteBatch b).2 = c at first processed ⊢
  obtain ⟨second, failed⟩ := get?_tallyFound
    (on_batchesLastProcessBefore first.toPlain .failed (now.before policy.failedRetention))
    actsBy_deleteBatch (fun _ => rfl) first
  generalize (tallyFound (batchesLastProcessBefore _ _) deleteBatch c).2 = d at second failed ⊢
  obtain ⟨third, stuck⟩ := get?_tallyFound
    (on_batchesLastProcessBefore second.toPlain .processing (now.before policy.processingTimeout))
    actsBy_timeOut (fun found => by simp [Function.comp_def, Batch.giveUp_giveUp]) second
  refine ⟨⟨⟨third.faults, third.script⟩, third.writes⟩, fun id => (stuck id).trans ?_⟩
  rw [failed id, processed id]
  cases b.batches.get? id with
  | none => rfl
  | some batch =>
      -- A step that does not ask for the status of the batch leaves it to the next one.
      cases status : batch.status with
      | pending => simp [RetentionPolicy.leaves, Batch.isPast, status]
      | processing => simp [RetentionPolicy.leaves, Batch.isPast, status, Batch.giveUp]
      | processed =>
          cases early : BatchStore.isBefore batch.processed (now.before policy.processedRetention)
          · simp [RetentionPolicy.leaves, Batch.isPast, status, early]
          · simp [RetentionPolicy.leaves, Batch.isPast, status, early]
      | failed =>
          cases early : BatchStore.isBefore batch.lastProcess (now.before policy.failedRetention)
          · simp [RetentionPolicy.leaves, Batch.isPast, status, early]
          · simp [RetentionPolicy.leaves, Batch.isPast, status, early]

theorem cleanUp_of_failing (plain : b.Plain) (failing : b.batches.failWrites = true)
    (policy : RetentionPolicy) (now : Timestamp) :
    (cleanUp policy now b).2.batches = b.batches := by
  have deletes : ∀ (id : BatchId) (c : Backend), c.Plain ∧ c.batches = b.batches →
      ((deleteBatch id).on c).2.Plain ∧ ((deleteBatch id).on c).2.batches = b.batches := by
    rintro id c ⟨still, same⟩
    rw [on_deleteBatch still, BatchStore.delete, same, failing]
    exact ⟨still, same⟩
  have kept : KeptByCleanup fun c : Backend => c.Plain ∧ c.batches = b.batches :=
    { plain := fun _ holds => holds.1
      deleteProcessed := fun _ _ _ batch _ => deletes batch.id
      deleteFailed := fun _ _ _ batch _ => deletes batch.id
      timeOut := by
        rintro _ _ _ batch _ c ⟨still, same⟩
        simp only [LogPipeline.timeOut, Call.on_bind, on_updateBatch still, same,
          BatchStore.update_of_failing _ failing]
        exact ⟨still, trivial⟩
      count := fun _ holds _ _ => ⟨⟨holds.1.faults, holds.1.script⟩, holds.2⟩ }
  exact (kept.cleanUp ⟨plain, rfl⟩ policy now).2

theorem failWrites_cleanUp (plain : b.Plain) (policy : RetentionPolicy) (now : Timestamp) :
    (cleanUp policy now b).2.batches.failWrites = b.batches.failWrites := by
  cases failing : b.batches.failWrites with
  | true => rw [cleanUp_of_failing plain failing, failing]
  | false => exact (cleanUp_of_writable ⟨plain, failing⟩ policy now).1.writes

theorem get?_cleanUp (plain : b.Plain) (policy : RetentionPolicy) (now : Timestamp)
    (id : BatchId) :
    (cleanUp policy now b).2.batches.get? id = (b.batches.get? id).bind fun batch =>
      if b.batches.failWrites then some batch else policy.leaves now batch := by
  cases failing : b.batches.failWrites with
  | true => simp [cleanUp_of_failing plain failing]
  | false => simp [(cleanUp_of_writable ⟨plain, failing⟩ policy now).2 id]

end

end LogPipeline
