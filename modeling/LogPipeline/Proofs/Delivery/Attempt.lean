import LogPipeline.Proofs.Batch.Store
import LogPipeline.Proofs.Delivery.Observed

/-!
# What an attempt does

All ways in which an attempt can go when no fault is planned, with what it asks for in each and
what it leaves behind. A batch that has been processed, or has failed for good, ends the attempt
before it asks for anything; any other batch is marked before its logs are handed over.
-/

namespace LogPipeline

open Backend

@[simp] theorem target_startChange (retry : Nat) (now : Timestamp) :
    (startChange retry now).target = .processing := rfl

@[simp] theorem target_emptyChange (now : Timestamp) : (emptyChange now).target = .processed := rfl

@[simp] theorem target_storedChange (trace : Option String) (now : Timestamp) :
    (storedChange trace now).target = .processed := rfl

def validLogs (p : Preprocessor) (batch : Batch) (now : Timestamp) : List ProcessedLog :=
  (p.preprocessBatch batch now).filter (·.validated)

def Backend.keep (b : Backend) (batch : Batch) : Backend :=
  { b with batches := b.batches.put batch }

structure Undecided (policy : RetryPolicy) (b : Backend) (id : BatchId) (batch : Batch) :
    Prop where
  found : b.batches.get? id = some batch
  unsettled : settledOutcome? policy (some batch) = none

structure Due (policy : RetryPolicy) (b : Backend) (id : BatchId) (batch : Batch) : Prop extends
    Undecided policy b id batch where
  available : b.storage.unavailable = false
  absent : b.storage.held.contains id = false

theorem settledOutcome?_of_processed {policy : RetryPolicy} {batch : Batch}
    (processed : batch.status = .processed) :
    settledOutcome? policy (some batch) = some .alreadyProcessed := by
  simp [settledOutcome?, processed]

theorem settledOutcome?_of_exhausted {policy : RetryPolicy} {batch : Batch}
    (failed : batch.status = .failed) (spent : policy.maxRetries ≤ batch.retryCount) :
    settledOutcome? policy (some batch) = some .exhausted := by
  simp [settledOutcome?, failed, spent]

theorem settledOutcome?_cases {policy : RetryPolicy} {found : Option Batch} {outcome : Outcome}
    (settled : settledOutcome? policy found = some outcome) :
    outcome = .alreadyProcessed ∨ outcome = .exhausted ∨ outcome = .notFound := by
  unfold settledOutcome? at settled
  split at settled
  · exact .inr (.inr (Option.some.inj settled).symm)
  · split at settled
    · exact .inl (Option.some.inj settled).symm
    · split at settled
      · exact .inr (.inl (Option.some.inj settled).symm)
      · cases settled

theorem Undecided.unprocessed {policy : RetryPolicy} {b : Backend} {id : BatchId} {batch : Batch}
    (undecided : Undecided policy b id batch) : batch.status ≠ .processed := by
  intro processed
  have settled := undecided.unsettled
  rw [settledOutcome?_of_processed processed] at settled
  cases settled

/-- How an attempt can go: what it asks for, how it ends, and the backend after it. -/
inductive Attempted (policy : RetryPolicy) (now : Timestamp) (id : BatchId) (retry : Nat)
    (b : Backend) : List Request → Except Failure Outcome → Backend → Prop where
  | settled {outcome : Outcome}
      (known : settledOutcome? policy (b.batches.get? id) = some outcome) :
      Attempted policy now id retry b [] (.ok outcome) b
  | outage {batch : Batch} (undecided : Undecided policy b id batch)
      (unavailable : b.storage.unavailable = true) :
      Attempted policy now id retry b [] (.error Storage.outage) b
  | heldUnrecorded {batch : Batch} {e : Failure} (undecided : Undecided policy b id batch)
      (held : b.storage.held.contains id = true) (failing : b.batches.failWrites = true) :
      Attempted policy now id retry b [.write id (storedChange none now) (.error e)]
        (.ok .alreadyStored) b
  | held {batch : Batch} (undecided : Undecided policy b id batch)
      (held : b.storage.held.contains id = true) (writable : b.batches.failWrites = false) :
      Attempted policy now id retry b [.write id (storedChange none now) (.ok ())]
        (.ok .alreadyStored) (b.keep ((storedChange none now).apply batch))
  | unmarked {batch : Batch} {e : Failure} (due : Due policy b id batch)
      (failing : b.batches.failWrites = true) :
      Attempted policy now id retry b [.write id (startChange retry now) (.error e)] (.error e) b
  | empty {batch marked : Batch} (due : Due policy b id batch)
      (writable : b.batches.failWrites = false) (mark : marked = (startChange retry now).apply batch)
      (nothing : validLogs b.preprocessor batch now = []) :
      Attempted policy now id retry b
        [.write id (startChange retry now) (.ok ()), .write id (emptyChange now) (.ok ())]
        (.ok .nothingToStore) ((b.keep marked).keep ((emptyChange now).apply marked))
  | refused {batch marked : Batch} {logs : List ProcessedLog} (due : Due policy b id batch)
      (writable : b.batches.failWrites = false) (mark : marked = (startChange retry now).apply batch)
      (valid : logs = validLogs b.preprocessor batch now) (refusing : 0 < b.storage.refuseNext) :
      Attempted policy now id retry b
        [.write id (startChange retry now) (.ok ()),
          .store id logs (b.keep marked) (.ok (.refused (some "rejected by storage")))]
        (.error (.refused "rejected by storage"))
        { b.keep marked with storage := (b.storage.store id logs).2 }
  | stored {batch marked : Batch} {logs : List ProcessedLog} (trace : Option String)
      (elapsed : UInt64) (due : Due policy b id batch)
      (writable : b.batches.failWrites = false) (mark : marked = (startChange retry now).apply batch)
      (valid : logs = validLogs b.preprocessor batch now) (nonempty : logs ≠ [])
      (accepting : b.storage.refuseNext = 0) :
      Attempted policy now id retry b
        [.write id (startChange retry now) (.ok ()),
          .store id logs (b.keep marked) (.ok (.stored trace)),
          .write id (storedChange trace now) (.ok ())]
        (.ok (.processed trace logs.length))
        { (b.keep marked).keep ((storedChange trace now).apply marked) with
          storage := (b.storage.store id logs).2
          telemetry := b.telemetry.batchProcessed batch.key (.ofNat logs.length) elapsed }

/-! ## The observed attempt goes in one of these ways -/

section

variable {b : Backend} {policy : RetryPolicy} {now : Timestamp} {id : BatchId} {retry : Nat}
  {batch : Batch}

theorem Backend.Plain.keep (plain : b.Plain) (batch : Batch) : (b.keep batch).Plain :=
  ⟨plain.faults, plain.script⟩

theorem observed_update_failing (plain : b.Plain) (failing : b.batches.failWrites = true)
    (id : BatchId) (u : BatchUpdate) (seen : List Request) :
    ∃ e, Observed.updateBatch id u (b, seen) = (.error e, (b, seen ++ [.write id u (.error e)])) := by
  refine ⟨BatchStore.writeFailure u.operation, ?_⟩
  rw [Observed.updateBatch_apply, on_updateBatch plain, BatchStore.update_of_failing u failing]

theorem observed_update_open (plain : b.Plain) (writable : b.batches.failWrites = false)
    (found : b.batches.get? id = some batch) (unprocessed : batch.status ≠ .processed)
    {u : BatchUpdate} (ahead : u.target ≠ .pending) (seen : List Request) :
    Observed.updateBatch id u (b, seen) =
      (.ok (), (b.keep (u.apply batch), seen ++ [.write id u (.ok ())])) := by
  rw [Observed.updateBatch_apply, on_updateBatch plain,
    BatchStore.update_of_open writable found unprocessed ahead]
  rfl

theorem observed_handOver (plain : b.Plain) (due : Due policy b id batch)
    (writable : b.batches.failWrites = false) {marked : Batch}
    (mark : marked = (startChange retry now).apply batch) (seen : List Request) :
    ∃ requests result after,
      Observed.handOver id batch now (b.keep marked, seen) =
        (result, (after, seen ++ requests)) ∧
      Attempted policy now id retry b (.write id (startChange retry now) (.ok ()) :: requests)
        result after := by
  have plain' := plain.keep marked
  have found' : (b.keep marked).batches.get? id = some marked := by
    rw [mark]; exact BatchStore.get?_put_apply due.found _
  have unprocessed' : marked.status ≠ .processed := by
    simp [mark]
  have available' : (b.keep marked).storage.unavailable = false := due.available
  obtain ⟨logs, valid⟩ : ∃ logs, logs = validLogs b.preprocessor batch now := ⟨_, rfl⟩
  have filtered : ((b.keep marked).preprocessor.preprocessBatch batch now).filter (·.validated) =
      logs := valid.symm
  simp only [Observed.handOver, Observed.bind_apply, Observed.unseen_apply,
    on_preprocessBatch plain', filtered]
  by_cases nothing : logs = []
  · simp only [nothing, List.isEmpty_nil, if_true, Observed.bind_apply]
    rw [observed_update_open plain' writable found' unprocessed' (by simp)]
    exact ⟨_, _, _, rfl, .empty due writable mark (valid ▸ nothing)⟩
  · have nonempty : logs.isEmpty = false := by simpa using nothing
    simp only [nonempty, Bool.false_eq_true, if_false, Observed.storeValid, Observed.bind_apply,
      Observed.storeBatch_apply, on_storeBatch plain']
    by_cases refusing : 0 < b.storage.refuseNext
    · have answer : ((b.keep marked).storage.store id logs).1 =
          .ok (.refused (some "rejected by storage")) := by
        rw [Storage.store_of_refusing available' refusing]
      simp only [answer]
      exact ⟨_, _, _, rfl, .refused due writable mark valid refusing⟩
    · have accepting : b.storage.refuseNext = 0 := by omega
      have answer : ((b.keep marked).storage.store id logs).1 =
          .ok (.stored (some (Storage.traceOf id))) := by
        rw [Storage.store_of_accepting available' accepting]
      simp only [answer, Observed.bind_apply]
      rw [observed_update_open (b := { b.keep marked with
        storage := ((b.keep marked).storage.store id logs).2 }) ⟨plain.faults, plain.script⟩ writable
        found' unprocessed' (by simp)]
      simp only [Observed.unseen_apply, on_record, Observed.pure_apply, List.append_assoc]
      exact ⟨_, _, _, rfl, .stored _ _ due writable mark valid nothing accepting⟩

theorem observed_attempt (plain : b.Plain) (policy : RetryPolicy) (now : Timestamp) (id : BatchId)
    (retry : Nat) (seen : List Request) :
    ∃ requests result after,
      Observed.attempt policy now id retry (b, seen) = (result, (after, seen ++ requests)) ∧
        Attempted policy now id retry b requests result after := by
  simp only [Observed.attempt, Observed.bind_apply, Observed.unseen_apply, on_findBatch plain]
  cases known : settledOutcome? policy (b.batches.get? id) with
  | some outcome => exact ⟨[], _, _, by simp [Observed.pure_apply], .settled known⟩
  | none =>
      cases found : b.batches.get? id with
      | none => simp [found, settledOutcome?] at known
      | some batch =>
          have undecided : Undecided policy b id batch := ⟨found, found ▸ known⟩
          simp only [Observed.bind_apply, Observed.unseen_apply, on_isStored plain]
          cases available : b.storage.unavailable with
          | true =>
              have out : b.storage.holds id = .error Storage.outage := by
                simp [Storage.holds, available]
              simp only [out]
              exact ⟨[], _, _, by simp, .outage undecided available⟩
          | false =>
              rw [Storage.holds_of_available available]
              cases held : b.storage.held.contains id with
              | true =>
                  simp only [if_true, Observed.bind_apply, Observed.attemptQuietly,
                    Observed.tryCatch_apply]
                  cases failing : b.batches.failWrites with
                  | true =>
                      obtain ⟨e, unrecorded⟩ := observed_update_failing plain failing id
                        (storedChange none now) seen
                      rw [unrecorded]
                      exact ⟨_, _, _, rfl, .heldUnrecorded undecided held failing⟩
                  | false =>
                      have recorded := observed_update_open plain failing found
                        undecided.unprocessed (u := storedChange none now) (by simp) seen
                      rw [recorded]
                      exact ⟨_, _, _, rfl, .held undecided held failing⟩
              | false =>
                  have due : Due policy b id batch := ⟨undecided, available, held⟩
                  simp only [Bool.false_eq_true, if_false, Observed.bind_apply]
                  cases failing : b.batches.failWrites with
                  | true =>
                      obtain ⟨e, unmarked⟩ := observed_update_failing plain failing id
                        (startChange retry now) seen
                      rw [unmarked]
                      exact ⟨_, _, _, rfl, .unmarked due failing⟩
                  | false =>
                      have marked := observed_update_open plain failing found
                        undecided.unprocessed (u := startChange retry now) (by simp) seen
                      rw [marked]
                      obtain ⟨requests, result, after, went, attempted⟩ :=
                        observed_handOver plain due failing rfl
                          (seen ++ [.write id (startChange retry now) (.ok ())])
                      exact ⟨_, _, _, by simpa using went, attempted⟩

/-! ## What stays after an attempt -/

section

variable {requests : List Request} {result : Except Failure Outcome} {after : Backend}

theorem Attempted.plain_after (attempted : Attempted policy now id retry b requests result after)
    (plain : b.Plain) : after.Plain := by
  cases attempted <;> exact ⟨plain.faults, plain.script⟩

theorem Attempted.found_after_error {e : Failure}
    (attempted : Attempted policy now id retry b requests (.error e) after) :
    ∃ batch kept, b.batches.get? id = some batch ∧ after.batches.get? id = some kept ∧
      kept.key = batch.key ∧ kept.status ≠ .processed := by
  cases attempted with
  | outage undecided => exact ⟨_, _, undecided.found, undecided.found, rfl, undecided.unprocessed⟩
  | unmarked due => exact ⟨_, _, due.found, due.found, rfl, due.unprocessed⟩
  | refused due _ mark =>
      subst mark
      refine ⟨_, _, due.found, BatchStore.get?_put_apply due.found (startChange retry now), ?_, ?_⟩
      · simp
      · simp

end

/-! ## What follows an attempt -/

theorem failureChange_ahead (policy : RetryPolicy) (message : String) (now : Timestamp) :
    (BatchUpdate.failed policy.maxRetries message now).target ≠ .pending := by
  simp [BatchUpdate.target]

theorem observed_giveUp_failing (plain : b.Plain) (failing : b.batches.failWrites = true)
    (error : Failure) (seen : List Request) :
    ∃ e, Observed.giveUp policy now id error (b, seen) =
      (.ok (.failed (failureMessage policy error)),
        (b, seen ++
          [.write id (.failed policy.maxRetries (failureMessage policy error) now) (.error e)])) := by
  obtain ⟨e, unrecorded⟩ := observed_update_failing plain failing id
    (.failed policy.maxRetries (failureMessage policy error) now) seen
  refine ⟨e, ?_⟩
  simp only [Observed.giveUp, Observed.attemptQuietly, Observed.bind_apply,
    Observed.tryCatch_apply, unrecorded, Observed.pure_apply]

theorem observed_giveUp_open (plain : b.Plain) (writable : b.batches.failWrites = false)
    (found : b.batches.get? id = some batch) (unprocessed : batch.status ≠ .processed)
    (error : Failure) (seen : List Request) :
    Observed.giveUp policy now id error (b, seen) =
      (.ok (.failed (failureMessage policy error)),
        ({ b.keep ((BatchUpdate.failed policy.maxRetries (failureMessage policy error) now).apply
              batch) with
            telemetry := b.telemetry.batchFailed batch.key
            notices := b.notices ++ [(id, failureMessage policy error)] },
          seen ++
            [.write id (.failed policy.maxRetries (failureMessage policy error) now) (.ok ())])) := by
  have recorded := observed_update_open plain writable found unprocessed
    (failureChange_ahead policy (failureMessage policy error) now) seen
  have named := BatchStore.id_of_get? found
  simp only [Observed.giveUp, Observed.attemptQuietly, Observed.bind_apply,
    Observed.tryCatch_apply, recorded, Observed.unseen_apply, on_findBatch (plain.keep _)]
  have kept := BatchStore.get?_put_apply found
    (.failed policy.maxRetries (failureMessage policy error) now)
  simp only [Backend.keep, kept]
  rw [← named]
  rfl

theorem on_countRetry (plain : b.Plain) (found : b.batches.get? id = some batch) :
    ((countRetry id).on b).2 = { b with telemetry := b.telemetry.retried batch.key } := by
  simp only [countRetry, attemptQuietly, Call.on_tryCatch, Call.on_bind, on_findBatch plain, found]
  rfl

inductive Concluded (policy : RetryPolicy) (now : Timestamp) (id : BatchId) (retry : Nat)
    (b : Backend) : Observed.Tried → Prop where
  | ended {requests : List Request} {outcome : Outcome} {after : Backend}
      (attempted : Attempted policy now id retry b requests (.ok outcome) after) :
      Concluded policy now id retry b ⟨.ok outcome, .done outcome, requests, after⟩
  | retried {requests : List Request} {error : Failure} {after : Backend} {batch : Batch}
      (attempted : Attempted policy now id retry b requests (.error error) after)
      (more : retry < policy.maxRetries.toNat) (found : after.batches.get? id = some batch) :
      Concluded policy now id retry b
        ⟨.error error, .wait (retry + 1) (policy.backoff (retry + 1)), requests,
          { after with telemetry := after.telemetry.retried batch.key }⟩
  | unrecorded {requests : List Request} {error e : Failure} {after : Backend}
      (attempted : Attempted policy now id retry b requests (.error error) after)
      (last : policy.maxRetries.toNat ≤ retry) (failing : after.batches.failWrites = true) :
      Concluded policy now id retry b
        ⟨.error error, .done (.failed (failureMessage policy error)),
          requests ++
            [.write id (.failed policy.maxRetries (failureMessage policy error) now) (.error e)],
          after⟩
  | failed {requests : List Request} {error : Failure} {after : Backend} {batch : Batch}
      (attempted : Attempted policy now id retry b requests (.error error) after)
      (last : policy.maxRetries.toNat ≤ retry) (writable : after.batches.failWrites = false)
      (found : after.batches.get? id = some batch) :
      Concluded policy now id retry b
        ⟨.error error, .done (.failed (failureMessage policy error)),
          requests ++
            [.write id (.failed policy.maxRetries (failureMessage policy error) now) (.ok ())],
          { after.keep ((BatchUpdate.failed policy.maxRetries (failureMessage policy error)
              now).apply batch) with
            telemetry := after.telemetry.batchFailed batch.key
            notices := after.notices ++ [(id, failureMessage policy error)] }⟩

theorem concluded_tryOnce (plain : b.Plain) (policy : RetryPolicy) (now : Timestamp) (id : BatchId)
    (retry : Nat) :
    Concluded policy now id retry b (Observed.tryOnce policy now id retry b) := by
  obtain ⟨requests, result, after, went, attempted⟩ := observed_attempt plain policy now id retry []
  simp only [Observed.tryOnce, went, List.nil_append]
  cases result with
  | ok outcome => exact .ended attempted
  | error e =>
      have plain' := attempted.plain_after plain
      obtain ⟨_, batch, -, found, -, unprocessed⟩ := attempted.found_after_error
      by_cases last : policy.maxRetries.toNat < retry + 1
      · simp only [last, if_true]
        cases failing : after.batches.failWrites with
        | true =>
            obtain ⟨_, given⟩ := observed_giveUp_failing plain' failing e requests
            rw [given]
            exact .unrecorded attempted (by omega) failing
        | false =>
            rw [observed_giveUp_open plain' failing found unprocessed]
            exact .failed attempted (by omega) failing found
      · simp only [last, if_false, on_countRetry plain' found]
        exact .retried attempted (by omega) found

variable {tried : Observed.Tried}

theorem Concluded.plain_after (concluded : Concluded policy now id retry b tried)
    (plain : b.Plain) : tried.after.Plain := by
  cases concluded with
  | ended attempted => exact attempted.plain_after plain
  | retried attempted =>
      exact ⟨(attempted.plain_after plain).faults, (attempted.plain_after plain).script⟩
  | unrecorded attempted => exact attempted.plain_after plain
  | failed attempted =>
      exact ⟨(attempted.plain_after plain).faults, (attempted.plain_after plain).script⟩

end

end LogPipeline
