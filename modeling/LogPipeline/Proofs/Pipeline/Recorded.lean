import LogPipeline.Proofs.Pipeline.Process

namespace LogPipeline

open Backend

def Backend.RecordsProcessed (b : Backend) (id : BatchId) : Prop :=
  ∃ batch, b.batches.get? id = some batch ∧ batch.status = .processed

variable {policy : RetryPolicy} {now : Timestamp} {id : BatchId} {retry : Nat} {b : Backend}

theorem recordsProcessed_keep {batch : Batch} (found : b.batches.get? id = some batch)
    {u : BatchUpdate} (ends : u.target = .processed) :
    (b.keep (u.apply batch)).RecordsProcessed id :=
  ⟨_, BatchStore.get?_put_apply found u, (BatchUpdate.status_apply u batch).trans ends⟩

theorem recordsProcessed_of_settled
    (known : settledOutcome? policy (b.batches.get? id) = some .alreadyProcessed) :
    b.RecordsProcessed id := by
  cases found : b.batches.get? id with
  | none =>
      rw [found] at known
      cases known
  | some batch =>
      refine ⟨batch, found, ?_⟩
      rw [found, settledOutcome?] at known
      split at known
      · assumption
      · split at known <;> cases known

/-- The one success that may go unrecorded. -/
def Unrecorded (outcome : Outcome) (after : Backend) : Prop :=
  outcome = .alreadyStored ∧ after.batches.failWrites = true

theorem Attempted.recordsProcessed_iff {requests : List Request} {outcome : Outcome}
    {after : Backend} (attempted : Attempted policy now id retry b requests (.ok outcome) after)
    (success : outcome.isProcessed = true) :
    after.RecordsProcessed id ↔ ¬ Unrecorded outcome after := by
  cases attempted with
  | settled known =>
      rcases settledOutcome?_cases known with rfl | rfl | rfl
      · exact iff_of_true (recordsProcessed_of_settled known) nofun
      · cases success
      · cases success
  | heldUnrecorded undecided held failing =>
      refine iff_of_false ?_ (not_not_intro ⟨rfl, failing⟩)
      rintro ⟨batch, found, processed⟩
      cases found.symm.trans undecided.found
      exact undecided.unprocessed processed
  | held undecided held writable =>
      refine iff_of_true (recordsProcessed_keep undecided.found rfl) ?_
      rintro ⟨_, failing⟩
      cases writable.symm.trans failing
  | empty due _ mark =>
      have marked : (b.keep _).batches.get? id = some _ :=
        mark ▸ BatchStore.get?_put_apply due.found _
      exact iff_of_true (recordsProcessed_keep marked rfl) nofun
  | stored trace elapsed due _ mark =>
      have marked : (b.keep _).batches.get? id = some _ :=
        mark ▸ BatchStore.get?_put_apply due.found _
      exact iff_of_true (recordsProcessed_keep marked (u := storedChange trace now) rfl) nofun

theorem Concluded.recordsProcessed_iff {result : Observed.Tried} {outcome : Outcome}
    (concluded : Concluded policy now id retry b result) (done : result.next = .done outcome)
    (success : outcome.isProcessed = true) :
    result.after.RecordsProcessed id ↔ ¬ Unrecorded outcome result.after := by
  cases concluded with
  | ended attempted =>
      cases done
      exact attempted.recordsProcessed_iff success
  | retried => cases done
  | unrecorded =>
      cases done
      cases success
  | failed =>
      cases done
      cases success

namespace Pipeline

variable {α : Type} [Quantity α] {p : Pipeline α}

theorem Delivers.recordsProcessed_iff {rest : Processing α} (delivers : Delivers id retry p rest)
    (success : rest.outcome.isProcessed = true) :
    rest.after.backend.RecordsProcessed id ↔ ¬ Unrecorded rest.outcome rest.after.backend := by
  -- The last attempt ends the delivery, and no time passes after it.
  induction delivers with
  | ended concluded done => exact concluded.recordsProcessed_iff done success
  | cut => cases success
  | again _ _ _ _ ih => exact ih success

/-- A delivery with a good outcome leaves the batch recorded as processed, unless the storage had
it already and the store of batches cannot write. -/
theorem process_recorded (plain : p.backend.Plain) (tasks : p.PlainTasks)
    (success : (process id p).1.isProcessed = true) :
    (process id p).2.backend.RecordsProcessed id ↔
      ¬ Unrecorded (process id p).1 (process id p).2.backend := by
  rw [process_shows] at success ⊢
  exact (delivers_observe plain tasks id).recordsProcessed_iff success

def heldPending (failWrites : Bool) : Pipeline Rat :=
  let known := Backend.knowing soleBatch
  .idle { known with
    batches := { known.batches with failWrites }
    storage := known.storage.markStored soleBatch.id } 0

theorem plainTasks_heldPending (failWrites : Bool) : (heldPending failWrites).PlainTasks := by
  constructor <;> exact List.forall_mem_nil _

theorem process_recorded_held :
    (process soleBatch.id (heldPending false)).1 = .alreadyStored ∧
      (process soleBatch.id (heldPending false)).2.backend.RecordsProcessed soleBatch.id := by
  have outcome : (process soleBatch.id (heldPending false)).1 = .alreadyStored := by decide
  have writable : (process soleBatch.id
      (heldPending false)).2.backend.batches.failWrites = false := by decide
  refine ⟨outcome, (process_recorded ⟨rfl, rfl⟩ (plainTasks_heldPending false) ?_).mpr ?_⟩
  · rw [outcome]
    rfl
  · rintro ⟨_, failing⟩
    cases writable.symm.trans failing

theorem success_unrecorded :
    ¬ ∀ (p : Pipeline Rat) (id : BatchId), p.backend.Plain → p.PlainTasks →
      (process id p).1.isProcessed = true → (process id p).2.backend.RecordsProcessed id := by
  intro recorded
  obtain ⟨batch, found, processed⟩ := recorded (heldPending true) soleBatch.id ⟨rfl, rfl⟩
    (plainTasks_heldPending true) (by decide)
  have pending : ((process soleBatch.id (heldPending true)).2.backend.batches.get?
      soleBatch.id).map (·.status) = some .pending := by decide
  rw [found] at pending
  cases processed.symm.trans (Option.some.inj pending)

end Pipeline

end LogPipeline
