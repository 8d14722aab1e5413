import LogPipeline.Proofs.Delivery.Requests
import LogPipeline.Proofs.Delivery.RetryPolicy
import LogPipeline.Proofs.Pipeline.Outages
import LogPipeline.Proofs.Telemetry

namespace LogPipeline

open Backend

variable {policy : RetryPolicy} {now : Timestamp} {id : BatchId} {retry : Nat} {b : Backend}

section

variable {requests : List Request} {result : Except Failure Outcome} {after : Backend}

theorem Attempted.counters_eq (attempted : Attempted policy now id retry b requests result after)
    (key : Key) :
    (after.telemetry.counters key).retries = (b.telemetry.counters key).retries ∧
      (after.telemetry.counters key).failures = (b.telemetry.counters key).failures := by
  cases attempted with
  | @stored batch marked logs trace elapsed =>
      dsimp only
      rw [Telemetry.counters_batchProcessed]
      by_cases same : batch.key = key
      · rw [if_pos same, same]
        exact ⟨rfl, rfl⟩
      · rw [if_neg same]
        exact ⟨rfl, rfl⟩
  | _ => exact ⟨rfl, rfl⟩

theorem Attempted.notices_eq (attempted : Attempted policy now id retry b requests result after) :
    after.notices = b.notices := by
  cases attempted <;> rfl

theorem Attempted.calls_le (attempted : Attempted policy now id retry b requests result after) :
    after.storage.calls ≤ b.storage.calls + 1 := by
  rw [attempted.calls_eq]
  cases attempted <;> simp [List.countP_cons, Request.isStore]

theorem Attempted.ends {outcome : Outcome}
    (attempted : Attempted policy now id retry b requests (.ok outcome) after) :
    outcome ≠ .interrupted ∧ ∀ message, outcome ≠ .failed message := by
  cases attempted with
  | settled known => rcases settledOutcome?_cases known with rfl | rfl | rfl <;> simp
  | _ => simp

end

variable {tried : Observed.Tried} {outcome : Outcome}

theorem Concluded.calls_le (concluded : Concluded policy now id retry b tried) :
    tried.after.storage.calls ≤ b.storage.calls + 1 := by
  cases concluded with
  | ended attempted => exact attempted.calls_le
  | retried attempted => exact attempted.calls_le
  | unrecorded attempted => exact attempted.calls_le
  | failed attempted => exact attempted.calls_le

theorem Concluded.retries_eq (concluded : Concluded policy now id retry b tried)
    (done : tried.next = .done outcome) (key : Key) :
    (tried.after.telemetry.counters key).retries = (b.telemetry.counters key).retries := by
  cases concluded with
  | ended attempted => exact (attempted.counters_eq key).1
  | retried => cases done
  | unrecorded attempted => exact (attempted.counters_eq key).1
  | @failed _ _ _ batch attempted =>
      rw [← (attempted.counters_eq key).1]
      dsimp only
      rw [Telemetry.counters_batchFailed]
      by_cases same : batch.key = key
      · rw [if_pos same, same]
      · rw [if_neg same]

theorem Concluded.finished (concluded : Concluded policy now id retry b tried)
    (done : tried.next = .done outcome) :
    (tried.result = .ok outcome ∧ ∀ message, outcome ≠ .failed message) ∨
      (∃ error, tried.result = .error error ∧
        outcome = .failed (failureMessage policy error) ∧ policy.maxRetries.toNat ≤ retry) := by
  cases concluded with
  | ended attempted =>
      cases done
      exact .inl ⟨rfl, attempted.ends.2⟩
  | retried => cases done
  | unrecorded attempted last =>
      cases done
      exact .inr ⟨_, rfl, rfl, last⟩
  | failed attempted last =>
      cases done
      exact .inr ⟨_, rfl, rfl, last⟩

namespace Pipeline

variable {α : Type} {key : Key}

def Records (b : Backend) (id : BatchId) (key : Key) : Prop :=
  ∃ batch, b.batches.get? id = some batch ∧ batch.key = key

/-- Attempts that failed, each with the wait that follows it, from one pipeline to another. -/
structure Persisted (id : BatchId) (key : Key) (retry : Nat) (p : Pipeline α)
    (failed : List Trial) (q : Pipeline α) : Prop where
  tasks : q.OnlyOutages
  plain : q.backend.Plain
  pool : q.pool = p.pool
  recorded : Records q.backend id key
  within : retry ≤ p.pool.policy.maxRetries.toNat →
    retry + failed.length ≤ p.pool.policy.maxRetries.toNat
  clock : q.clock = p.clock + p.pool.policy.waits retry failed.length
  clocks : ∀ k (h : k < failed.length),
    failed[k].clock = p.clock + p.pool.policy.waits retry k
  failures : ∀ trial ∈ failed, trial.IsFailure
  calls : q.backend.storage.calls ≤ p.backend.storage.calls + failed.length
  retries : (q.backend.telemetry.counters key).retries =
    (p.backend.telemetry.counters key).retries + .ofNat failed.length
  failuresSame : (q.backend.telemetry.counters key).failures =
    (p.backend.telemetry.counters key).failures
  notices : q.backend.notices = p.backend.notices

variable {p q : Pipeline α}

theorem Persisted.none (tasks : p.OnlyOutages) (plain : p.backend.Plain)
    (recorded : Records p.backend id key) : Persisted id key retry p [] p where
  tasks
  plain
  pool := rfl
  recorded
  within := fun within => within
  clock := rfl
  clocks _ h := by cases h
  failures _ member := by cases member
  calls := Nat.le_refl _
  retries := (UInt64.add_zero _).symm
  failuresSame := rfl
  notices := rfl

theorem Persisted.cons {r : Pipeline α} {trial : Trial} {rest : List Trial}
    (first : Persisted id key retry p [trial] q) (later : Persisted id key (retry + 1) q rest r) :
    Persisted id key retry p (trial :: rest) r where
  tasks := later.tasks
  plain := later.plain
  pool := later.pool.trans first.pool
  recorded := later.recorded
  within within := by
    have more := first.within within
    have rest := later.within
    rw [first.pool] at rest
    simp only [List.length_cons, List.length_nil] at more ⊢
    omega
  clock := by
    have moved := first.clock
    rw [later.clock, first.pool, moved, List.length_singleton, List.length_cons,
      RetryPolicy.waits_succ, RetryPolicy.waits_succ, RetryPolicy.waits_zero]
    omega
  clocks k h := by
    have moved := first.clock
    cases k with
    | zero => exact first.clocks 0 (by simp)
    | succ k =>
        rw [List.getElem_cons_succ, later.clocks, first.pool, moved, List.length_singleton,
          RetryPolicy.waits_succ, RetryPolicy.waits_succ, RetryPolicy.waits_zero]
        omega
  failures other member := by
    rcases List.mem_cons.mp member with rfl | late
    · exact first.failures _ List.mem_cons_self
    · exact later.failures other late
  calls := by
    have early := first.calls
    have late := later.calls
    simp only [List.length_cons, List.length_nil] at early ⊢
    omega
  retries := by
    rw [later.retries, first.retries, UInt64.add_assoc, ← UInt64.ofNat_add,
      List.length_singleton, List.length_cons, Nat.add_comm]
  failuresSame := later.failuresSame.trans first.failuresSame
  notices := later.notices.trans first.notices

/-! ## What is to be shown -/

structure FailureRecorded (id : BatchId) (key : Key) (message : String) (p after : Pipeline α) :
    Prop where
  record : ∃ kept, after.backend.batches.get? id = some kept ∧ kept.key = key ∧
    kept.status = .failed ∧ kept.retryCount = p.pool.policy.maxRetries ∧
    kept.lastProcess = some after.now ∧ kept.error = some message
  failures : (after.backend.telemetry.counters key).failures =
    (p.backend.telemetry.counters key).failures + 1
  notices : after.backend.notices = p.backend.notices ++ [(id, message)]

structure GaveUp (id : BatchId) (key : Key) (error : Failure) (p : Pipeline α) (r : Processing α)
    (last : Trial) : Prop where
  outcome : r.outcome = .failed (failureMessage p.pool.policy error)
  recording : ∃ answer, last.requests.getLast? = some (.write id (.failed p.pool.policy.maxRetries
      (failureMessage p.pool.policy error) r.after.now) answer) ∧
    (answer = .ok () →
      FailureRecorded id key (failureMessage p.pool.policy error) p r.after) ∧
    (∀ e, answer = .error e →
      (r.after.backend.telemetry.counters key).failures =
          (p.backend.telemetry.counters key).failures ∧
        r.after.backend.notices = p.backend.notices)

/-- How a delivery keeps to the policy: it makes attempts that fail, and a last one. -/
structure KeepsToPolicy (id : BatchId) (key : Key) (p : Pipeline α) (r : Processing α)
    (failed : List Trial) (last : Trial) : Prop where
  trials : r.trials = failed ++ [last]
  failures : ∀ trial ∈ failed, trial.IsFailure
  bounded : r.trials.length ≤ p.pool.policy.maxRetries.toNat + 1
  calls : r.after.backend.storage.calls ≤ p.backend.storage.calls + r.trials.length
  clocks : ∀ k (h : k < r.trials.length), r.trials[k].clock =
    p.clock + ((List.range k).map fun i => (p.pool.policy.backoff (i + 1)).waitMillis).sum
  instants : ∀ millis, p.pool.policy.interval = .ofMillis millis →
    ∀ k (h : k < r.trials.length), (∀ i < k, (p.pool.policy.backoff (i + 1)).Waitable) →
      Nanos.ofMillis r.trials[k].clock =
        p.instant + ((List.range k).map fun i => p.pool.policy.backoff (i + 1)).sum
  clock : r.after.clock = last.clock
  returned : ∀ outcome, last.result = .ok outcome → r.outcome = outcome
  failed_iff : (∃ message, r.outcome = .failed message) ↔
    r.trials.length = p.pool.policy.maxRetries.toNat + 1 ∧ ∀ trial ∈ r.trials, trial.IsFailure
  retries : (r.after.backend.telemetry.counters key).retries =
    (p.backend.telemetry.counters key).retries + .ofNat failed.length
  gaveUp : ∀ error, last.result = .error error → GaveUp id key error p r last

theorem Persisted.clock_of_trials {failed : List Trial} {result : Observed.Tried}
    (persisted : Persisted id key retry p failed q) (k : Nat)
    (h : k < (failed ++ [q.trial result]).length) :
    (failed ++ [q.trial result])[k].clock = p.clock + p.pool.policy.waits retry k := by
  by_cases early : k < failed.length
  · rw [List.getElem_append_left early]
    exact persisted.clocks k early
  · have last : k = failed.length := by
      rw [List.length_append, List.length_singleton] at h
      omega
    subst last
    rw [List.getElem_append_right (Nat.le_refl _)]
    simp only [Nat.sub_self, List.getElem_cons_zero]
    exact persisted.clock

theorem gaveUp_of_persisted {failed : List Trial} {result : Observed.Tried} {r : Processing α}
    {error : Failure} {reached : Nat} (persisted : Persisted id key retry p failed q)
    (concluded : Concluded q.pool.policy q.now id reached q.backend result)
    (done : result.next = .done r.outcome) (after : r.after = q.tried result)
    (lost : result.result = .error error) : GaveUp id key error p r (q.trial result) := by
  have policy : q.pool.policy = p.pool.policy := congrArg Pool.policy persisted.pool
  have now : r.after.now = q.now := by rw [after]; rfl
  rw [policy] at concluded
  cases concluded with
  | ended => cases lost
  | retried => cases done
  | @unrecorded requests error e final attempted =>
      cases lost
      have failures := (attempted.counters_eq key).2
      refine ⟨(Next.done.inj done).symm, .error e, ?_, nofun, fun _ _ => ⟨?_, ?_⟩⟩
      · rw [now]
        exact List.getLast?_concat
      · rw [after, ← persisted.failuresSame]
        exact failures
      · rw [after, ← persisted.notices]
        exact attempted.notices_eq
  | @failed requests error final batch attempted last writable found =>
      cases lost
      obtain ⟨early, kept, known, left, same, -⟩ := attempted.found_after_error
      obtain ⟨named, recorded, belongs⟩ := persisted.recorded
      rw [recorded] at known
      cases known
      rw [left] at found
      cases found
      have failures := (attempted.counters_eq key).2
      refine ⟨(Next.done.inj done).symm, .ok (), ?_, fun _ => ?_, nofun⟩
      · rw [now]
        exact List.getLast?_concat
      · rw [after]
        exact
          { record := ⟨_, BatchStore.get?_put_apply left _,
              (BatchUpdate.key_apply _ _).trans (same.trans belongs), rfl, rfl, rfl, rfl⟩
            failures := by
              rw [← persisted.failuresSame, ← failures, ← belongs, ← same]
              exact congrArg Counters.failures
                ((Telemetry.counters_batchFailed _ _ _).trans (if_pos rfl))
            notices := by
              rw [← persisted.notices, ← attempted.notices_eq]
              rfl }

theorem keepsToPolicy_of_persisted {failed : List Trial} {result : Observed.Tried}
    {r : Processing α} (persisted : Persisted id key 0 p failed q)
    (concluded : Concluded q.pool.policy q.now id failed.length q.backend result)
    (done : result.next = .done r.outcome) (trials : r.trials = failed ++ [q.trial result])
    (after : r.after = q.tried result) : KeepsToPolicy id key p r failed (q.trial result) := by
  have policy : q.pool.policy = p.pool.policy := congrArg Pool.policy persisted.pool
  have within := persisted.within (Nat.zero_le _)
  have waits : ∀ k, p.pool.policy.waits 0 k =
      ((List.range k).map fun i => (p.pool.policy.backoff (i + 1)).waitMillis).sum := by
    intro k
    simp only [RetryPolicy.waits, Nat.zero_add]
  have clocks : ∀ k (h : k < r.trials.length),
      r.trials[k].clock = p.clock + p.pool.policy.waits 0 k := by
    rw [trials]
    exact persisted.clock_of_trials
  have length : r.trials.length = failed.length + 1 := by
    rw [trials, List.length_append, List.length_singleton]
  have finished := concluded.finished done
  rw [policy] at finished
  exact
    { trials
      failures := persisted.failures
      bounded := by omega
      calls := by
        have early := persisted.calls
        have late := concluded.calls_le
        rw [after, length]
        change result.after.storage.calls ≤ _
        omega
      clocks := fun k h => by rw [clocks, waits]
      instants := fun millis whole k h waitable => by
        rw [clocks, ← RetryPolicy.ofMillis_waits whole k waitable]
        exact Nat.add_mul _ _ _
      clock := by rw [after]; rfl
      returned := fun outcome succeeded => by
        rcases finished with ⟨same, -⟩ | ⟨error, lost, -⟩
        · cases succeeded.symm.trans same
          rfl
        · cases succeeded.symm.trans lost
      failed_iff := by
        rcases finished with ⟨succeeded, other⟩ | ⟨error, lost, given, spent⟩
        · refine ⟨fun gaveUp => ?_, fun spent => ?_⟩
          · obtain ⟨message, same⟩ := gaveUp
            exact absurd same (other message)
          · obtain ⟨error, lost⟩ := spent.2 (q.trial result) (by simp [trials])
            cases succeeded.symm.trans lost
        · refine ⟨fun _ => ⟨by omega, ?_⟩, fun _ => ⟨_, given⟩⟩
          rw [trials]
          exact forall_mem_append_singleton persisted.failures ⟨error, lost⟩
      retries := by
        rw [after, ← persisted.retries]
        exact concluded.retries_eq done key
      gaveUp := fun error lost => gaveUp_of_persisted persisted concluded done after lost }

/-! ## Deliveries -/

variable [Quantity α]

theorem persisted_of_wait {result : Observed.Tried} (tasks : p.OnlyOutages)
    (plain : p.backend.Plain) (recorded : Records p.backend id key)
    (concluded : Concluded p.pool.policy p.now id retry p.backend result)
    (more : result.next = .wait (retry + 1) (p.pool.policy.backoff (retry + 1))) :
    Persisted id key retry p [p.trial result]
      ((p.tried result).waited (p.pool.policy.backoff (retry + 1))) := by
  have weathers := weathers_waited (p := p.tried result) ⟨tasks.ready, tasks.timers⟩
    (p.pool.policy.backoff (retry + 1))
  have clock := clock_waited (p.pool.policy.backoff (retry + 1)) (p.tried result)
  have calm := concluded.plain_after plain
  generalize (p.tried result).waited (p.pool.policy.backoff (retry + 1)) = q at weathers clock ⊢
  cases concluded with
  | ended => cases more
  | unrecorded => cases more
  | failed => cases more
  | @retried requests error after batch attempted below found =>
      obtain ⟨early, kept, known, left, same, -⟩ := attempted.found_after_error
      obtain ⟨named, recorded, belongs⟩ := recorded
      rw [recorded] at known
      cases known
      rw [left] at found
      cases found
      have retries := (attempted.counters_eq key).1
      have failures := (attempted.counters_eq key).2
      have counted : q.backend.telemetry.counters key =
          { after.telemetry.counters key with
            retries := (after.telemetry.counters key).retries + 1 } := by
        rw [weathers.backend.telemetry, ← belongs, ← same]
        exact (Telemetry.counters_retried _ _ _).trans (if_pos rfl)
      exact
        { tasks := weathers.tasks
          plain := by
            obtain ⟨_, _, _, weathered⟩ := weathers.backend
            rw [weathered]
            exact ⟨calm.faults, calm.script⟩
          pool := weathers.pool
          recorded :=
            ⟨batch, (weathers.backend.get?_batches id).trans left, same.trans belongs⟩
          within := fun _ => below
          clock := clock
          clocks := fun k h => by
            have first : k = 0 := by simpa using h
            subst first
            rfl
          failures := fun trial member => by
            rw [List.mem_singleton.mp member]
            exact ⟨error, rfl⟩
          calls := by
            rw [weathers.backend.calls]
            exact attempted.calls_le
          retries := by rw [counted, ← retries]; rfl
          failuresSame := by rw [counted, ← failures]
          notices := by
            rw [weathers.backend.notices]
            exact attempted.notices_eq }

theorem Delivers.persisted {r : Processing α} (delivers : Delivers id retry p r)
    (tasks : p.OnlyOutages) (plain : p.backend.Plain) (recorded : Records p.backend id key)
    (running : p.pool.shutDown = false) :
    ∃ failed q result, Persisted id key retry p failed q ∧
      Concluded q.pool.policy q.now id (retry + failed.length) q.backend result ∧
      result.next = .done r.outcome ∧ r.trials = failed ++ [q.trial result] ∧
      r.after = q.tried result := by
  -- What follows a wait starts from the next retry, so the waits of the rest continue the first.
  induction delivers with
  | @ended retry p result outcome concluded done =>
      exact ⟨[], p, result, .none tasks plain recorded, concluded, done, rfl, rfl⟩
  | cut _ shutDown => cases running.symm.trans shutDown
  | @again retry p result rest concluded more _ later ih =>
      have first := persisted_of_wait tasks plain recorded concluded more
      obtain ⟨failed, q, final, persisted, finished, done, trials, after⟩ :=
        ih first.tasks first.plain first.recorded (by rw [first.pool]; exact running)
      refine ⟨p.trial result :: failed, q, final, first.cons persisted, ?_, done, ?_, after⟩
      · rw [List.length_cons, Nat.add_comm failed.length, ← Nat.add_assoc]
        exact finished
      · dsimp only
        rw [trials]
        rfl

/-- For every policy and every timeline of outages, a delivery of a batch that nobody else touches
keeps to the policy. -/
theorem process_keepsToPolicy {batch : Batch} (plain : p.backend.Plain) (tasks : p.OnlyOutages)
    (running : p.pool.shutDown = false) (found : p.backend.batches.get? id = some batch) :
    process id p = ((observe id p).outcome, (observe id p).after) ∧
      ∃ failed last, KeepsToPolicy id batch.key p (observe id p) failed last := by
  obtain ⟨failed, q, result, persisted, concluded, done, trials, after⟩ :=
    (delivers_observe plain tasks.plainTasks id).persisted tasks plain ⟨batch, found, rfl⟩ running
  rw [Nat.zero_add] at concluded
  exact ⟨process_shows id p, failed, q.trial result,
    keepsToPolicy_of_persisted persisted concluded done trials after⟩

def recovering : Pipeline Rat :=
  { (idle ((Change.unavailable true).apply ⟨0, 0⟩ (.knowing soleBatch)) 0 : Pipeline Rat) with
    pool := .new ⟨2, .ofMillis 1000⟩ 1
    timers := [⟨1500, .change (Outage.unavailable false).change⟩] }

theorem process_keepsToPolicy_recovering :
    (observe soleBatch.id recovering).trials.map (·.clock) = [0, 1000, 3000] ∧
      process soleBatch.id recovering =
        ((observe soleBatch.id recovering).outcome, (observe soleBatch.id recovering).after) ∧
      ∃ failed last, KeepsToPolicy soleBatch.id soleBatch.key recovering
        (observe soleBatch.id recovering) failed last :=
  ⟨by decide, process_keepsToPolicy ⟨rfl, rfl⟩
    ⟨nofun, fun _ member => ⟨.unavailable false, by rw [List.mem_singleton.mp member]⟩⟩ rfl rfl⟩

end Pipeline

end LogPipeline
