import LogPipeline.Proofs.Pipeline.Process

namespace LogPipeline

open Backend

def Completes (id : BatchId) (requests : List Request) : Prop :=
  ∃ change : BatchUpdate, change.target = .processed ∧ .write id change (.ok ()) ∈ requests

structure Completed (outcome : Outcome) (now : Timestamp) (batch record : Batch) : Prop where
  status : record.status = .processed
  ended : record.processed = some now
  attempted : record.lastProcess = some now
  error : record.error = if outcome = .nothingToStore then batch.error else none

variable {policy : RetryPolicy} {now : Timestamp} {id : BatchId} {retry : Nat} {b : Backend}

def CompletedBy (id : BatchId) (now : Timestamp) (outcome : Outcome) (before after : Backend) :
    Prop :=
  ∃ batch record, before.batches.get? id = some batch ∧ batch.status ≠ .processed ∧
    after.batches.get? id = some record ∧ Completed outcome now batch record

theorem Attempted.completed {requests : List Request} {result : Except Failure Outcome}
    {after : Backend} (attempted : Attempted policy now id retry b requests result after)
    (completes : Completes id requests) :
    ∃ outcome, result = .ok outcome ∧ CompletedBy id now outcome b after := by
  obtain ⟨change, ends, written⟩ := completes
  cases attempted with
  | settled => cases written
  | outage => cases written
  | heldUnrecorded => simp at written
  | held undecided =>
      exact ⟨_, rfl, _, _, undecided.found, undecided.unprocessed,
        BatchStore.get?_put_apply undecided.found _, rfl, rfl, rfl, rfl⟩
  | unmarked => simp at written
  | empty due writable mark =>
      have marked : (b.keep _).batches.get? id = some _ :=
        mark ▸ BatchStore.get?_put_apply due.found _
      refine ⟨_, rfl, _, _, due.found, due.unprocessed, BatchStore.get?_put_apply marked _, ?_⟩
      subst mark
      exact ⟨rfl, rfl, rfl, rfl⟩
  | refused =>
      simp only [List.mem_cons, Request.write.injEq, true_and, and_true, reduceCtorEq,
        List.not_mem_nil, or_false] at written
      subst written
      cases ends
  | stored trace elapsed due writable mark =>
      have marked : (b.keep _).batches.get? id = some _ :=
        mark ▸ BatchStore.get?_put_apply due.found _
      refine ⟨_, rfl, _, _, due.found, due.unprocessed, BatchStore.get?_put_apply marked _, ?_⟩
      subst mark
      exact ⟨rfl, rfl, rfl, rfl⟩

theorem Concluded.completed {result : Observed.Tried}
    (concluded : Concluded policy now id retry b result)
    (completes : Completes id result.requests) :
    ∃ outcome, result.next = .done outcome ∧ CompletedBy id now outcome b result.after := by
  -- What follows a failed attempt marks the batch as failed at most.
  have unfailed : ∀ {requests error after message answer},
      Attempted policy now id retry b requests (.error error) after →
      ¬ Completes id
        (requests ++ [.write id (.failed policy.maxRetries message now) answer]) := by
    rintro requests error after message answer attempted ⟨change, ends, written⟩
    rcases List.mem_append.mp written with earlier | last
    · obtain ⟨_, success, -⟩ := attempted.completed ⟨change, ends, earlier⟩
      cases success
    · simp only [List.mem_singleton, Request.write.injEq, true_and] at last
      rw [last.1] at ends
      cases ends
  cases concluded with
  | ended attempted =>
      obtain ⟨_, success, completed⟩ := attempted.completed completes
      cases success
      exact ⟨_, rfl, completed⟩
  | retried attempted =>
      obtain ⟨_, success, -⟩ := attempted.completed completes
      cases success
  | unrecorded attempted => exact absurd completes (unfailed attempted)
  | failed attempted => exact absurd completes (unfailed attempted)

theorem Concluded.following {result : Observed.Tried}
    (concluded : Concluded policy now id retry b result) {more : Nat} {span : Nanos}
    (next : result.next = .wait more span) : more = retry + 1 := by
  cases concluded with
  | retried =>
      cases next
      rfl
  | ended => cases next
  | unrecorded => cases next
  | failed => cases next

namespace Pipeline

variable {α : Type} [Quantity α] {p : Pipeline α}

theorem completed_observeFrom (plain : p.backend.Plain) (tasks : p.PlainTasks) (id : BatchId)
    (retry attempts : Nat) {trial : Trial} (made : trial ∈ (observeFrom id retry attempts p).trials)
    (completes : Completes id trial.requests) :
    let rest := observeFrom id retry attempts p
    ∃ last retries, (retries = retry → last = p) ∧ retry + rest.trials.length = retries + 1 ∧
      trial.clock = rest.after.clock ∧
      tryDelivery id retries last = (.done rest.outcome, rest.after) ∧
      CompletedBy id rest.after.now rest.outcome last.backend rest.after.backend := by
  induction attempts generalizing p retry with
  | zero => cases made
  | succ attempts ih =>
      have concluded := concluded_tryOnce plain p.pool.policy p.now id retry
      have went := evolved_tryOnce tasks id retry
      have tries : tryDelivery id retry p = _ := tryDelivery_apply id retry p
      rw [Observed.tryOnce_shows] at tries
      rw [observeFrom] at made ⊢
      generalize Observed.tryOnce p.pool.policy p.now id retry p.backend = result
        at concluded went tries made ⊢
      cases next : result.next with
      | done outcome =>
          simp only [next, List.mem_singleton] at made tries
          subst made
          obtain ⟨_, ended, completed⟩ := concluded.completed completes
          cases next.symm.trans ended
          exact ⟨p, retry, fun _ => rfl, rfl, rfl, tries, completed⟩
      | wait more span =>
          have unfinished : trial ≠ p.trial result := by
            rintro rfl
            obtain ⟨_, ended, -⟩ := concluded.completed completes
            cases next.symm.trans ended
          have following := concluded.following next
          simp only [next] at made ⊢
          by_cases closed : p.pool.shutDown = true
          · rw [if_pos closed] at made
            exact absurd (List.mem_singleton.mp made) unfinished
          · rw [if_neg closed] at made ⊢
            have later := (List.mem_cons.mp made).resolve_left unfinished
            obtain ⟨_, waited⟩ := evolved_waited went.tasks span
            have onward : Evolved p _ ((p.tried result).waited span) := went.trans waited
            obtain ⟨last, retries, -, count, shown⟩ :=
              ih (onward.plain plain) onward.tasks more later
            have nonempty := List.length_pos_of_mem later
            refine ⟨last, retries, fun same => ?_, ?_, shown⟩
            · omega
            · rw [List.length_cons]
              omega

/-- A delivery that completes a batch does so with its last attempt. The record shows the instant of
that attempt, and no error if the storage has the logs. If there was nothing to store, the error
that the attempt found recorded stays. -/
theorem process_completes (plain : p.backend.Plain) (tasks : p.PlainTasks) {trial : Trial}
    (made : trial ∈ (observe id p).trials) (completes : Completes id trial.requests) :
    ∃ last retries batch record, (retries = 0 → last = p) ∧
      (observe id p).trials.length = retries + 1 ∧ trial.clock = (process id p).2.clock ∧
      tryDelivery id retries last = (.done (process id p).1, (process id p).2) ∧
      last.backend.batches.get? id = some batch ∧ batch.status ≠ .processed ∧
      (process id p).2.backend.batches.get? id = some record ∧
      Completed (process id p).1 (process id p).2.now batch record := by
  rw [process_shows]
  obtain ⟨last, retries, first, count, instant, ended, batch, record, shown⟩ :=
    completed_observeFrom plain tasks id 0 p.mostAttempts made completes
  exact ⟨last, retries, batch, record, first, (Nat.zero_add _).symm.trans count, instant, ended,
    shown⟩

def stuckEmpty : Pipeline Rat :=
  { idle (Backend.knowing { soleBatch with
      logs := [.new "" .text ⟨0, 0⟩]
      status := .failed
      error := some timeoutMessage }) 0 with
    pool := .new ⟨1, 0⟩ 1 }

theorem plainTasks_stuckEmpty : stuckEmpty.PlainTasks := by
  constructor <;> exact List.forall_mem_nil _

theorem trials_stuckEmpty : (observe soleBatch.id stuckEmpty).trials =
    [⟨0, .ok .nothingToStore,
      [.write soleBatch.id (startChange 0 ⟨0, 0⟩) (.ok ()),
        .write soleBatch.id (emptyChange ⟨0, 0⟩) (.ok ())]⟩] := by
  rfl

theorem completes_stuckEmpty : ∃ trial ∈ (observe soleBatch.id stuckEmpty).trials,
    Completes soleBatch.id trial.requests := by
  rw [trials_stuckEmpty]
  exact ⟨_, List.mem_singleton_self _, emptyChange ⟨0, 0⟩, rfl, by simp⟩

theorem process_completes_stuckEmpty : ∃ record,
    (process soleBatch.id stuckEmpty).2.backend.batches.get? soleBatch.id = some record ∧
      record.status = .processed ∧ record.processed = some ⟨0, 0⟩ ∧
      record.lastProcess = some ⟨0, 0⟩ ∧ record.error = some "processing timeout" := by
  obtain ⟨trial, made, completes⟩ := completes_stuckEmpty
  obtain ⟨last, retries, batch, record, first, count, -, -, found, -, left, completed⟩ :=
    process_completes ⟨rfl, rfl⟩ plainTasks_stuckEmpty made completes
  rw [trials_stuckEmpty] at count
  obtain rfl := first (Nat.succ.inj count).symm
  cases found
  exact ⟨record, left, completed.status, completed.ended, completed.attempted, completed.error⟩

theorem completed_with_error :
    ¬ ∀ (p : Pipeline Rat) (id : BatchId), p.backend.Plain → p.PlainTasks →
      (∃ trial ∈ (observe id p).trials, Completes id trial.requests) →
      ∃ record, (process id p).2.backend.batches.get? id = some record ∧ record.error = none ∧
        record.processed = some (process id p).2.now ∧
        record.lastProcess = some (process id p).2.now := by
  intro cleared
  obtain ⟨record, left, errorless, -⟩ := cleared stuckEmpty soleBatch.id ⟨rfl, rfl⟩
    plainTasks_stuckEmpty completes_stuckEmpty
  have error : ((process soleBatch.id stuckEmpty).2.backend.batches.get? soleBatch.id).map
      Batch.error = some (some "processing timeout") := by decide
  rw [left, Option.map_some, errorless] at error
  cases error

end Pipeline

end LogPipeline
