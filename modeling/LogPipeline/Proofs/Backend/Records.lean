import Mathlib.Data.List.Nodup
import LogPipeline.Proofs.Backend.Deeds
import LogPipeline.Proofs.Backend.History

namespace LogPipeline

inductive BatchField where
  | status
  | error
  | retryCount
  | processed
  | lastProcess
  | trace
  | confirmed
  deriving DecidableEq, Repr

def BatchField.Same (field : BatchField) (a b : Batch) : Prop :=
  match field with
  | .status => b.status = a.status
  | .error => b.error = a.error
  | .retryCount => b.retryCount = a.retryCount
  | .processed => b.processed = a.processed
  | .lastProcess => b.lastProcess = a.lastProcess
  | .trace => b.trace = a.trace
  | .confirmed => b.confirmed = a.confirmed

def BatchUpdate.named : BatchUpdate → List BatchField
  | .status .. => [.status, .error]
  | .attempt .. => [.status, .retryCount, .lastProcess]
  | .failed .. => [.status, .retryCount, .error, .lastProcess]
  | .processTime .. => [.status, .processed, .lastProcess]
  | .processed .. => [.status, .processed, .lastProcess, .trace, .confirmed]

/-! ## One step of a record -/

structure SameSubmission (a b : Batch) : Prop where
  id : b.id = a.id
  app : b.app = a.app
  endpoint : b.endpoint = a.endpoint
  logs : b.logs = a.logs
  received : b.received = a.received

theorem SameSubmission.refl (a : Batch) : SameSubmission a a :=
  ⟨rfl, rfl, rfl, rfl, rfl⟩

theorem SameSubmission.trans {a b c : Batch} (one : SameSubmission a b)
    (other : SameSubmission b c) : SameSubmission a c :=
  ⟨other.id.trans one.id, other.app.trans one.app, other.endpoint.trans one.endpoint,
    other.logs.trans one.logs, other.received.trans one.received⟩

theorem sameSubmission_apply (u : BatchUpdate) (batch : Batch) :
    SameSubmission batch (u.apply batch) := by
  cases u <;> exact ⟨rfl, rfl, rfl, rfl, rfl⟩

/-- What an update makes of a record. The success of a batch takes its error away, although the
update does not name it. -/
structure Updated (u : BatchUpdate) (a b : Batch) : Prop extends SameSubmission a b where
  legal : a.status.canMoveTo u.target = true
  target : b.status = u.target
  narrow : ∀ field ∉ u.named,
    field.Same a b ∨ field = .error ∧ Backend.portOf u = .updateProcessed ∧ b.error = none
  final : a.status = .processed → b.status = .processed
  started : b.status ≠ .pending

theorem updated_apply {u : BatchUpdate} {batch : Batch}
    (legal : batch.status.canMoveTo u.target = true) : Updated u batch (u.apply batch) where
  toSameSubmission := sameSubmission_apply u batch
  legal := legal
  target := BatchUpdate.status_apply u batch
  narrow field unnamed := by
    cases u with
    | processed =>
        cases field with
        | error => exact .inr ⟨rfl, rfl, rfl⟩
        | retryCount => exact .inl rfl
        | _ => simp [BatchUpdate.named] at unnamed
    | _ => cases field <;> first | exact .inl rfl | simp [BatchUpdate.named] at unnamed
  final ended := by
    rw [ended] at legal
    rw [BatchUpdate.status_apply, BatchStatus.eq_processed_of_canMoveTo legal]
  started := by
    rw [BatchUpdate.status_apply]
    exact BatchStatus.ne_pending_of_canMoveTo legal

/-- The later record tells of the same submission, as far as before or further on. -/
structure FurtherOn (a b : Batch) : Prop extends SameSubmission a b where
  moved : b.status = a.status ∨ a.status.canMoveTo b.status = true

theorem FurtherOn.refl (a : Batch) : FurtherOn a a :=
  ⟨.refl a, .inl rfl⟩

theorem FurtherOn.trans {a b c : Batch} (one : FurtherOn a b) (other : FurtherOn b c) :
    FurtherOn a c := by
  refine ⟨one.toSameSubmission.trans other.toSameSubmission, ?_⟩
  rcases other.moved with stays | goes
  · rw [stays]
    exact one.moved
  · rcases one.moved with stayed | went
    · rw [← stayed]
      exact .inr goes
    · exact .inr (BatchStatus.canMoveTo_trans went goes)

theorem FurtherOn.final {a b : Batch} (further : FurtherOn a b) (ended : a.status = .processed) :
    b.status = .processed := by
  rcases further.moved with stayed | went
  · exact stayed.trans ended
  · rw [ended] at went
    exact BatchStatus.eq_processed_of_canMoveTo went

theorem FurtherOn.started {a b : Batch} (further : FurtherOn a b) (left : a.status ≠ .pending) :
    b.status ≠ .pending := by
  rcases further.moved with stayed | went
  · rw [stayed]
    exact left
  · exact BatchStatus.ne_pending_of_canMoveTo went

theorem Updated.furtherOn {u : BatchUpdate} {a b : Batch} (updated : Updated u a b) :
    FurtherOn a b :=
  ⟨updated.toSameSubmission, .inr (updated.target ▸ updated.legal)⟩

/-! ## Updates of a backend -/

namespace Backend

variable {b : Backend} {id : BatchId} {batch : Batch} {u : BatchUpdate}

structure OnlyRecord (id : BatchId) (b after : Backend) : Prop where
  batches : OnlyBatches b after
  failWrites : after.batches.failWrites = b.batches.failWrites
  others : ∀ other ≠ id, after.batches.get? other = b.batches.get? other

theorem onlyRecord_keep (named : batch.id = id) : OnlyRecord id b (b.keep batch) where
  batches := ⟨_, rfl⟩
  failWrites := rfl
  others _ differs := get?_keep_other b (by rw [named]; exact differs.symm)

theorem on_updateBatch_ok_iff (plain : b.Plain) {after : Backend} :
    (updateBatch id u).on b = (.ok (), after) ↔
      b.batches.failWrites = false ∧ ∃ batch, b.batches.get? id = some batch ∧
        batch.status.canMoveTo u.target = true ∧ after = b.keep (u.apply batch) := by
  rw [on_updateBatch plain]
  cases writes : b.batches.failWrites with
  | true => simp [BatchStore.update_of_failing u writes]
  | false =>
      cases found : b.batches.get? id with
      | none => simp [BatchStore.update, writes, found]
      | some batch =>
          by_cases legal : batch.status.canMoveTo u.target = true
          · simp only [BatchStore.update, writes, found, legal, keep, Bool.false_eq_true, if_false,
              if_true, Prod.mk.injEq, true_and, Option.some.injEq, exists_eq_left']
            exact eq_comm
          · simp [BatchStore.update, writes, found, legal]

theorem onlyRecord_updateBatch (plain : b.Plain) {after : Backend}
    (done : (updateBatch id u).on b = (.ok (), after)) :
    ∃ batch record, b.batches.get? id = some batch ∧ after.batches.get? id = some record ∧
      Updated u batch record ∧ OnlyRecord id b after := by
  obtain ⟨_, batch, found, legal, rfl⟩ := (on_updateBatch_ok_iff plain).mp done
  exact ⟨batch, u.apply batch, found, BatchStore.get?_put_apply found u, updated_apply legal,
    onlyRecord_keep ((BatchUpdate.id_apply u batch).trans (BatchStore.id_of_get? found))⟩

def Atomic {α : Type} (call : Call α) (b : Backend) : Prop :=
  ∀ e after, call.on b = (.error e, after) → after = b

theorem atomic_of_ok {α : Type} {call : Call α} {a : α} {after : Backend}
    (ok : call.on b = (.ok a, after)) : Atomic call b := by
  intro e other failed
  rw [ok] at failed
  cases failed

theorem Call.on_answer {α β : Type} (call : Call α) (f : α → β) (b : Backend) :
    (do let a ← call; return f a : Call β).on b = ((call.on b).1.map f, (call.on b).2) := by
  rw [Call.on_bind]
  rcases call.on b with ⟨_ | _, after⟩ <;> rfl

theorem Atomic.answer {α β : Type} {call : Call α} (atomic : Atomic call b) (f : α → β) :
    Atomic (do let a ← call; return f a) b := by
  intro e after failed
  rw [Call.on_answer] at failed
  rcases answer : call.on b with ⟨_ | _, later⟩ <;> rw [answer] at failed <;> cases failed
  exact atomic _ _ answer

theorem atomic_saveBatch (plain : b.Plain) (batch : Batch) : Atomic (saveBatch batch) b := by
  intro e after failed
  rw [on_saveBatch plain] at failed
  split at failed <;> cases failed
  rfl

theorem atomic_updateBatch (plain : b.Plain) (id : BatchId) (u : BatchUpdate) :
    Atomic (updateBatch id u) b := by
  intro e after failed
  rw [on_updateBatch plain] at failed
  split at failed <;> cases failed
  rfl

theorem atomic_deleteBatch (plain : b.Plain) (id : BatchId) : Atomic (deleteBatch id) b := by
  intro e after failed
  rw [on_deleteBatch plain] at failed
  split at failed <;> cases failed
  rfl

/-- A second record of success is a second write: it keeps the batch processed, but it leaves the
record as it was only if it writes what is there. -/
theorem update_of_processed (plain : b.Plain) (found : b.batches.get? id = some batch)
    (processed : batch.status = .processed) (u : BatchUpdate) :
    ∃ record, ((updateBatch id u).on b).2.batches.get? id = some record ∧
      record.status = .processed ∧ SameSubmission batch record ∧
      (record = batch ↔
        b.batches.failWrites = true ∨ u.target ≠ .processed ∨ u.write batch = batch) := by
  by_cases goes : b.batches.failWrites = false ∧ u.target = .processed
  · obtain ⟨writable, ends⟩ := goes
    have legal : batch.status.canMoveTo u.target = true := by rw [processed, ends]; rfl
    have wrote : (updateBatch id u).on b = (.ok (), b.keep (u.apply batch)) :=
      (on_updateBatch_ok_iff plain).mpr ⟨writable, batch, found, legal, rfl⟩
    -- The status is written as it was, so what is left of the update is what it writes besides.
    have same : u.apply batch = u.write batch := by
      rw [BatchUpdate.apply, ends, ← processed]
    rw [wrote]
    refine ⟨u.apply batch, BatchStore.get?_put_apply found u,
      (BatchUpdate.status_apply u batch).trans ends, sameSubmission_apply u batch, ?_⟩
    simp [writable, ends, same]
  · have stays : ((updateBatch id u).on b).2 = b := by
      rcases answer : (updateBatch id u).on b with ⟨result, after⟩
      cases result with
      | error e => exact atomic_updateBatch plain id u e after answer
      | ok =>
          obtain ⟨writable, other, known, legal, _⟩ := (on_updateBatch_ok_iff plain).mp answer
          cases found.symm.trans known
          rw [processed] at legal
          exact (goes ⟨writable, BatchStatus.eq_processed_of_canMoveTo legal⟩).elim
    rw [stays]
    refine ⟨batch, found, processed, .refl batch, iff_of_true rfl ?_⟩
    cases writes : b.batches.failWrites with
    | true => exact .inl rfl
    | false => exact .inr (.inl fun ends => goes ⟨writes, ends⟩)

def tracedBatch : Batch :=
  { soleBatch with
    status := .processed
    processed := some ⟨1, 0⟩
    lastProcess := some ⟨1, 0⟩
    trace := some "trace"
    confirmed := true }

def lateSuccess : BatchUpdate := .processed .processed ⟨9, 0⟩ ⟨9, 0⟩ none false

theorem update_of_processed_refused :
    ∃ record, ((updateBatch tracedBatch.id (.status .failed (some "late"))).on
        (.knowing tracedBatch)).2.batches.get? tracedBatch.id = some record ∧
      record = tracedBatch := by
  have found : (knowing tracedBatch).batches.get? tracedBatch.id = some tracedBatch := by
    decide +kernel
  obtain ⟨record, kept, _, _, same⟩ := update_of_processed ⟨rfl, rfl⟩ found rfl
    (.status .failed (some "late"))
  exact ⟨record, kept, same.mpr (.inr (.inl (by decide)))⟩

theorem update_of_processed_erases_trace :
    ¬ ∀ (b : Backend) (id : BatchId) (batch : Batch) (u : BatchUpdate), b.Plain →
      b.batches.get? id = some batch → batch.status = .processed →
        ((updateBatch id u).on b).2.batches.get? id = some batch := by
  intro kept
  have traced := kept (.knowing tracedBatch) tracedBatch.id tracedBatch lateSuccess ⟨rfl, rfl⟩
    (by decide +kernel) rfl
  have erased : (((updateBatch tracedBatch.id lateSuccess).on
      (.knowing tracedBatch)).2.batches.get? tracedBatch.id).map (·.trace) = some none := by
    decide +kernel
  rw [traced] at erased
  cases erased

/-! ## All calls about batches -/

inductive BatchCall where
  | save (batch : Batch)
  | find (id : BatchId)
  | update (id : BatchId) (u : BatchUpdate)
  | delete (id : BatchId)
  | processedBefore (status : BatchStatus) (bound : Timestamp)
  | lastProcessBefore (status : BatchStatus) (bound : Timestamp)
  | count (status : BatchStatus)

inductive BatchAnswer where
  | done
  | record (found : Option Batch)
  | deleted (found : Bool)
  | records (found : List Batch)
  | number (count : Nat)

def BatchCall.run : BatchCall → Call BatchAnswer
  | .save batch => do saveBatch batch; return .done
  | .find id => return .record (← findBatch id)
  | .update id u => do updateBatch id u; return .done
  | .delete id => return .deleted (← deleteBatch id)
  | .processedBefore status bound => return .records (← batchesProcessedBefore status bound)
  | .lastProcessBefore status bound => return .records (← batchesLastProcessBefore status bound)
  | .count status => return .number (← countByStatus status)

theorem on_countByStatus (plain : b.Plain) (status : BatchStatus) :
    (countByStatus status).on b = (.ok (b.batches.withStatus status).length, b) := by
  simp only [countByStatus, Call.on_bind, on_checkpoint plain, Call.on_get, Call.on_pure]

theorem BatchCall.atomic (plain : b.Plain) (call : BatchCall) : Atomic call.run b := by
  cases call with
  | save batch => exact (atomic_saveBatch plain batch).answer _
  | find id => exact (atomic_of_ok (on_findBatch plain id)).answer _
  | update id u => exact (atomic_updateBatch plain id u).answer _
  | delete id => exact (atomic_deleteBatch plain id).answer _
  | processedBefore status bound =>
      exact (atomic_of_ok (on_batchesProcessedBefore plain status bound)).answer _
  | lastProcessBefore status bound =>
      exact (atomic_of_ok (on_batchesLastProcessBefore plain status bound)).answer _
  | count status => exact (atomic_of_ok (on_countByStatus plain status)).answer _

theorem OnlyBatches.refl (b : Backend) : OnlyBatches b b :=
  ⟨b.batches, rfl⟩

theorem BatchCall.after_eq (plain : b.Plain) (call : BatchCall) :
    (call.run.on b).2 =
      match call with
      | .save batch => ((saveBatch batch).on b).2
      | .update id u => ((updateBatch id u).on b).2
      | .delete id => ((deleteBatch id).on b).2
      | _ => b := by
  cases call with
  | save | update | delete => exact congrArg Prod.snd (Call.on_answer _ _ b)
  | find id =>
      rw [run, Call.on_answer, on_findBatch plain]
  | processedBefore status bound =>
      rw [run, Call.on_answer, on_batchesProcessedBefore plain]
  | lastProcessBefore status bound =>
      rw [run, Call.on_answer, on_batchesLastProcessBefore plain]
  | count status =>
      rw [run, Call.on_answer, on_countByStatus plain]

theorem BatchCall.onlyBatches (plain : b.Plain) (call : BatchCall) :
    OnlyBatches b (call.run.on b).2 := by
  rw [call.after_eq plain]
  cases call with
  | save batch => exact onlyBatches_saveBatch plain batch
  | update id u => exact onlyBatches_updateBatch plain id u
  | delete id => exact onlyBatches_deleteBatch plain id
  | _ => exact .refl b

/-! ## Runs -/

def Continues (id : BatchId) (b after : Backend) : Prop :=
  ∀ batch, b.batches.get? id = some batch →
    ∃ record, after.batches.get? id = some record ∧ FurtherOn batch record

theorem continues_of_same {after : Backend}
    (same : after.batches.get? id = b.batches.get? id) : Continues id b after :=
  fun batch found => ⟨batch, same.trans found, .refl batch⟩

theorem Continues.trans {a b c : Backend} (one : Continues id a b) (other : Continues id b c) :
    Continues id a c := by
  intro batch found
  obtain ⟨later, kept, further⟩ := one batch found
  obtain ⟨last, still, more⟩ := other later kept
  exact ⟨last, still, further.trans more⟩

theorem continues_updateBatch (plain : b.Plain) (updated : BatchId) (u : BatchUpdate) :
    Continues id b ((updateBatch updated u).on b).2 := by
  rcases answer : (updateBatch updated u).on b with ⟨_ | _, after⟩
  · rw [atomic_updateBatch plain updated u _ _ answer]
    exact continues_of_same rfl
  · obtain ⟨batch, record, found, kept, legal, only⟩ := onlyRecord_updateBatch plain answer
    by_cases same : id = updated
    · subst same
      intro other known
      cases found.symm.trans known
      exact ⟨record, kept, legal.furtherOn⟩
    · exact continues_of_same (only.others id same)

theorem get?_saveBatch_of_ne (plain : b.Plain) (differs : batch.id ≠ id) :
    ((saveBatch batch).on b).2.batches.get? id = b.batches.get? id := by
  rw [on_saveBatch plain, BatchStore.save]
  cases b.batches.failWrites with
  | true => rfl
  | false => exact (BatchStore.get?_put _ _ _).trans (if_neg differs)

theorem get?_deleteBatch_of_ne (plain : b.Plain) {gone : BatchId} (differs : gone ≠ id) :
    ((deleteBatch gone).on b).2.batches.get? id = b.batches.get? id := by
  rw [on_deleteBatch plain, BatchStore.delete]
  cases b.batches.failWrites with
  | true => rfl
  | false => exact (BatchStore.get?_erase _ _ _).trans (if_neg differs)

inductive RecordEvent where
  | call (c : BatchCall)
  | change (c : Change) (now : Timestamp)

namespace RecordEvent

def IsPlain : RecordEvent → Prop
  | .call _ => True
  | .change c _ => c.IsPlain

def Replaces (id : BatchId) : RecordEvent → Prop
  | .call (.save batch) => batch.id = id
  | .call (.delete gone) => gone = id
  | .change (.putBatch made) now => (made now).id = id
  | .change (.dropBatch gone) _ => gone = id
  | _ => False

def apply (b : Backend) : RecordEvent → Backend
  | .call c => (c.run.on b).2
  | .change c now => c.apply now b

variable {event : RecordEvent}

theorem plain_apply (spares : event.IsPlain) (plain : b.Plain) : (event.apply b).Plain := by
  cases event with
  | call c => exact (c.onlyBatches plain).plain plain
  | change c now => exact plain_change spares plain now

theorem continues_apply (plain : b.Plain) (keeps : ¬ event.Replaces id) :
    Continues id b (event.apply b) := by
  cases event with
  | call c =>
      rw [apply, c.after_eq plain]
      cases c with
      | update updated u => exact continues_updateBatch plain updated u
      | save batch => exact continues_of_same (get?_saveBatch_of_ne plain keeps)
      | delete gone => exact continues_of_same (get?_deleteBatch_of_ne plain keeps)
      | _ => exact continues_of_same rfl
  | change c now =>
      apply continues_of_same
      cases c with
      | putBatch made => exact (BatchStore.get?_put _ _ _).trans (if_neg keeps)
      | dropBatch gone => exact (BatchStore.get?_erase _ _ _).trans (if_neg keeps)
      | _ => rfl

end RecordEvent

def afterEvents (b : Backend) (events : List RecordEvent) : Backend :=
  events.foldl RecordEvent.apply b

theorem plain_afterEvents {events : List RecordEvent} (plain : b.Plain)
    (spares : ∀ event ∈ events, event.IsPlain) : (b.afterEvents events).Plain := by
  induction events generalizing b with
  | nil => exact plain
  | cons event rest ih =>
      obtain ⟨first, later⟩ := List.forall_mem_cons.mp spares
      exact ih (RecordEvent.plain_apply first plain) later

theorem continues_afterEvents {events : List RecordEvent} (plain : b.Plain)
    (spares : ∀ event ∈ events, event.IsPlain)
    (keeps : ∀ event ∈ events, ¬ event.Replaces id) : Continues id b (b.afterEvents events) := by
  -- Each event may go on only from what the events before it have left.
  induction events generalizing b with
  | nil => exact continues_of_same rfl
  | cons event rest ih =>
      obtain ⟨first, later⟩ := List.forall_mem_cons.mp spares
      obtain ⟨keep, keeps⟩ := List.forall_mem_cons.mp keeps
      exact (RecordEvent.continues_apply plain keep).trans
        (ih (RecordEvent.plain_apply first plain) later keeps)

/-! ## Queries by time -/

theorem isBefore_iff {time : Option Timestamp} {bound : Timestamp} :
    BatchStore.isBefore time bound = true ↔ ∃ t, time = some t ∧ t < bound := by
  cases time <;> simp [BatchStore.isBefore]

structure Early (time : Batch → Option Timestamp) (status : BatchStatus) (bound : Timestamp)
    (b : Backend) (found : List Batch) : Prop where
  once : found.Nodup
  exactly : ∀ batch, batch ∈ found ↔ b.batches.get? batch.id = some batch ∧
    batch.status = status ∧ ∃ t, time batch = some t ∧ t < bound

theorem early_withStatus (time : Batch → Option Timestamp) (status : BatchStatus)
    (bound : Timestamp) (b : Backend) :
    Early time status bound b
      ((b.batches.withStatus status).filter fun batch => BatchStore.isBefore (time batch) bound)
    where
  once := by
    have distinct : b.batches.kept.values.Nodup := b.batches.kept.distinct.of_map Batch.id
    exact (distinct.filter _).filter _
  exactly batch := by
    rw [List.mem_filter, isBefore_iff, BatchStore.mem_withStatus_iff, and_assoc]

/-- What every call about batches keeps to, in any state. -/
structure Lawful (b : Backend) : Prop where
  atomic : ∀ (call : BatchCall) e after, call.run.on b = (.error e, after) → after = b
  succeeds : ∀ id u, (∃ after, (updateBatch id u).on b = (.ok (), after)) ↔
    b.batches.failWrites = false ∧
      ∃ batch, b.batches.get? id = some batch ∧ batch.status.canMoveTo u.target = true
  narrow : ∀ id u after, (updateBatch id u).on b = (.ok (), after) →
    ∃ batch record, b.batches.get? id = some batch ∧ after.batches.get? id = some record ∧
      Updated u batch record ∧ OnlyRecord id b after
  processedBefore : ∀ status bound, ∃ found,
    (batchesProcessedBefore status bound).on b = (.ok found, b) ∧
      Early Batch.processed status bound b found
  lastProcessBefore : ∀ status bound, ∃ found,
    (batchesLastProcessBefore status bound).on b = (.ok found, b) ∧
      Early Batch.lastProcess status bound b found

theorem Plain.lawful (plain : b.Plain) : Lawful b where
  atomic call := call.atomic plain
  succeeds id u := by
    constructor
    · rintro ⟨after, done⟩
      obtain ⟨writable, batch, found, legal, _⟩ := (on_updateBatch_ok_iff plain).mp done
      exact ⟨writable, batch, found, legal⟩
    · rintro ⟨writable, batch, found, legal⟩
      exact ⟨_, (on_updateBatch_ok_iff plain).mpr ⟨writable, batch, found, legal, rfl⟩⟩
  narrow id u after := onlyRecord_updateBatch plain
  processedBefore status bound :=
    ⟨_, on_batchesProcessedBefore plain status bound, early_withStatus _ _ _ _⟩
  lastProcessBefore status bound :=
    ⟨_, on_batchesLastProcessBefore plain status bound, early_withStatus _ _ _ _⟩

/-- Whatever happened before, a call that fails leaves no trace, an update is one legal and narrow
step of one record, and the queries by time are exact. So a record that is never written anew goes
on only: what is processed stays so, and nothing becomes pending again. -/
theorem records_only_go_on (plain : b.Plain) (events : List RecordEvent)
    (spares : ∀ event ∈ events, event.IsPlain) :
    Lawful (b.afterEvents events) ∧
      ∀ id batch, (∀ event ∈ events, ¬ event.Replaces id) → b.batches.get? id = some batch →
        ∃ record, (b.afterEvents events).batches.get? id = some record ∧
          FurtherOn batch record ∧ (batch.status = .processed → record.status = .processed) ∧
          (batch.status ≠ .pending → record.status ≠ .pending) := by
  refine ⟨(plain_afterEvents plain spares).lawful, fun id batch keeps found => ?_⟩
  obtain ⟨record, kept, further⟩ := continues_afterEvents plain spares keeps batch found
  exact ⟨record, kept, further, further.final, further.started⟩

def refusedBatch : Batch :=
  { soleBatch with
    status := .failed
    error := some "rejected by storage"
    retryCount := 1
    lastProcess := some ⟨1, 0⟩ }

theorem records_only_go_on_from_refusal :
    let events : List RecordEvent :=
      [.call (.update refusedBatch.id (.attempt .processing 1 ⟨2, 0⟩)),
        .change (.failWrites true) ⟨2, 0⟩, .call (.update refusedBatch.id lateSuccess),
        .change (.failWrites false) ⟨3, 0⟩, .call (.update refusedBatch.id lateSuccess)]
    Lawful (afterEvents (.knowing refusedBatch) events) ∧
      ∃ record, (afterEvents (.knowing refusedBatch) events).batches.get? refusedBatch.id =
          some record ∧ FurtherOn refusedBatch record ∧ record.status ≠ .pending := by
  intro events
  obtain ⟨lawful, continues⟩ := records_only_go_on (b := .knowing refusedBatch) ⟨rfl, rfl⟩ events
    (by simp [events, RecordEvent.IsPlain, Change.IsPlain])
  obtain ⟨record, kept, further, _, started⟩ := continues refusedBatch.id refusedBatch
    (by simp [events, RecordEvent.Replaces]) (by decide +kernel)
  exact ⟨lawful, record, kept, further, started (by decide)⟩

/-- A success takes away the error of the failure before it, which its update does not name. -/
theorem success_clears_unnamed_error :
    ¬ ∀ (b after : Backend) (id : BatchId) (u : BatchUpdate) (batch record : Batch), b.Plain →
      (updateBatch id u).on b = (.ok (), after) → b.batches.get? id = some batch →
        after.batches.get? id = some record → ∀ field ∉ u.named, field.Same batch record := by
  intro narrow
  have found : (knowing refusedBatch).batches.get? refusedBatch.id = some refusedBatch := by
    decide +kernel
  have done : (updateBatch refusedBatch.id lateSuccess).on (.knowing refusedBatch) =
      (.ok (), (knowing refusedBatch).keep (lateSuccess.apply refusedBatch)) :=
    (on_updateBatch_ok_iff ⟨rfl, rfl⟩).mpr ⟨rfl, refusedBatch, found, by decide, rfl⟩
  have cleared := narrow _ _ _ _ _ _ ⟨rfl, rfl⟩ done found
    (BatchStore.get?_put_apply found lateSuccess) .error (by decide)
  cases cleared

end Backend

end LogPipeline
