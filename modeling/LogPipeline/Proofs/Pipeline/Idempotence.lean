import LogPipeline.Proofs.Pipeline.Process

namespace LogPipeline

open Backend

variable {policy : RetryPolicy} {now : Timestamp} {id : BatchId} {retry : Nat} {b : Backend}

def Settled (policy : RetryPolicy) (b : Backend) (id : BatchId) : Prop :=
  ∃ outcome, settledOutcome? policy (b.batches.get? id) = some outcome

theorem settled_of_processed {batch : Batch} (found : b.batches.get? id = some batch)
    (processed : batch.status = .processed) : Settled policy b id :=
  ⟨.alreadyProcessed, by rw [found, settledOutcome?_of_processed processed]⟩

theorem settled_of_exhausted {batch : Batch} (found : b.batches.get? id = some batch)
    (failed : batch.status = .failed) (spent : policy.maxRetries ≤ batch.retryCount) :
    Settled policy b id :=
  ⟨.exhausted, by rw [found, settledOutcome?_of_exhausted failed spent]⟩

theorem Attempted.settled_after {requests : List Request} {outcome : Outcome} {after : Backend}
    (attempted : Attempted policy now id retry b requests (.ok outcome) after)
    (recorded : ∀ request ∈ requests, request.isFailedWrite = false) : Settled policy after id := by
  cases attempted with
  | settled known => exact ⟨outcome, known⟩
  | heldUnrecorded => cases recorded _ List.mem_cons_self
  | held undecided =>
      exact settled_of_processed (BatchStore.get?_put_apply undecided.found _) (by simp)
  | empty due _ mark =>
      have marked : (b.keep _).batches.get? id = some _ :=
        mark ▸ BatchStore.get?_put_apply due.found _
      exact settled_of_processed (BatchStore.get?_put_apply marked _) (by simp)
  | stored trace _ due _ mark =>
      have marked : (b.keep _).batches.get? id = some _ :=
        mark ▸ BatchStore.get?_put_apply due.found _
      exact settled_of_processed (BatchStore.get?_put_apply marked (storedChange trace now)) (by simp)

theorem Concluded.settled_after {result : Observed.Tried} {outcome : Outcome}
    (concluded : Concluded policy now id retry b result) (done : result.next = .done outcome)
    (recorded : ∀ request ∈ result.requests, request.isFailedWrite = false) :
    Settled policy result.after id := by
  cases concluded with
  | ended attempted => exact attempted.settled_after recorded
  | retried => cases done
  | unrecorded => cases recorded _ (List.mem_append_right _ List.mem_cons_self)
  | failed attempted last writable found =>
      refine settled_of_exhausted (BatchStore.get?_put_apply found _) ?_ ?_
      · simp [BatchUpdate.target]
      · exact UInt32.le_refl _

namespace Pipeline

variable {α : Type} [Quantity α] {p : Pipeline α}

theorem Delivers.settled_after {rest : Processing α} (delivers : Delivers id retry p rest)
    (tasks : p.PlainTasks) (ended : rest.outcome ≠ .interrupted)
    (recorded : ∀ trial ∈ rest.trials, ∀ request ∈ trial.requests, request.isFailedWrite = false) :
    Settled p.pool.policy rest.after.backend id := by
  induction delivers with
  | ended concluded done =>
      exact concluded.settled_after done (recorded _ List.mem_cons_self)
  | cut => exact absurd rfl ended
  | @again retry p result rest concluded more running later ih =>
      obtain ⟨_, next⟩ := evolved_waited (p := p.tried result) ⟨tasks.ready, tasks.timers⟩
        (p.pool.policy.backoff (retry + 1))
      have settled := ih next.tasks ended fun trial member =>
        recorded trial (List.mem_cons_of_mem _ member)
      rwa [next.policy] at settled

theorem tryOnce_of_settled (plain : b.Plain) {outcome : Outcome}
    (known : settledOutcome? policy (b.batches.get? id) = some outcome) :
    LogPipeline.tryOnce policy now id retry b = (.done outcome, b) := by
  have answer : (attempt policy now id retry).on b = (.ok outcome, b) := by
    simp only [attempt, Call.on_bind, on_findBatch plain, known]
    rfl
  rw [LogPipeline.tryOnce, answer]

theorem process_of_settled (plain : p.backend.Plain)
    (settled : Settled p.pool.policy p.backend id) :
    ∃ outcome, (outcome = .alreadyProcessed ∨ outcome = .exhausted ∨ outcome = .notFound) ∧
      process id p = (outcome, p) := by
  obtain ⟨outcome, known⟩ := settled
  refine ⟨outcome, settledOutcome?_cases known, ?_⟩
  change processFrom id 0 (p.pool.policy.maxRetries.toNat + 1) p = (outcome, p)
  rw [processFrom_succ, tryOnce_of_settled plain known]

/-- A batch that was delivered, and is left alone after that, is not delivered again, whatever has
become of the storage and the store of batches. The delivery has to end of its own accord and to
record all that it wants to record. -/
theorem process_twice {q : Pipeline α} (plain : p.backend.Plain) (tasks : p.PlainTasks)
    (ended : (process id p).1 ≠ .interrupted)
    (recorded : ∀ trial ∈ (observe id p).trials, ∀ request ∈ trial.requests,
      request.isFailedWrite = false)
    (plain' : q.backend.Plain) (policy : q.pool.policy = p.pool.policy)
    (untouched : q.backend.batches.get? id = (process id p).2.backend.batches.get? id) :
    ∃ outcome, (outcome = .alreadyProcessed ∨ outcome = .exhausted ∨ outcome = .notFound) ∧
      process id q = (outcome, q) := by
  rw [process_shows] at ended untouched
  have settled := (delivers_observe plain tasks id).settled_after tasks ended recorded
  refine process_of_settled plain' ?_
  rw [Settled, policy, untouched]
  exact settled

/-- A batch that was stored is not delivered again while the storage is away and the store of
batches cannot write. -/
theorem process_twice_in_outage :
    let first : Pipeline Rat := .idle (.knowing soleBatch) 0
    let again := (change (.unavailable true) (change (.failWrites true)
      (process soleBatch.id first).2).2).2
    (process soleBatch.id first).1 = .processed (some "trace-batch") 1 ∧
      ∃ outcome, (outcome = .alreadyProcessed ∨ outcome = .exhausted ∨ outcome = .notFound) ∧
        process soleBatch.id again = (outcome, again) := by
  have stored : (process soleBatch.id (.idle (.knowing soleBatch) 0 : Pipeline Rat)).1 =
      .processed (some "trace-batch") 1 := by decide
  refine ⟨stored, process_twice (p := .idle (.knowing soleBatch) 0) ⟨rfl, rfl⟩
    ⟨nofun, nofun⟩ ?_ ?_ ⟨rfl, rfl⟩ rfl rfl⟩
  · rw [stored]
    nofun
  · decide

end Pipeline

end LogPipeline
