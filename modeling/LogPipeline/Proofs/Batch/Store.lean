import LogPipeline.Batch.Store
import LogPipeline.Proofs.Collections

namespace LogPipeline

namespace BatchUpdate

@[simp] theorem id_apply (u : BatchUpdate) (b : Batch) : (u.apply b).id = b.id := by
  cases u <;> rfl

@[simp] theorem key_apply (u : BatchUpdate) (b : Batch) : (u.apply b).key = b.key := by
  cases u <;> rfl

@[simp] theorem logs_apply (u : BatchUpdate) (b : Batch) : (u.apply b).logs = b.logs := by
  cases u <;> rfl

@[simp] theorem status_apply (u : BatchUpdate) (b : Batch) : (u.apply b).status = u.target := by
  cases u <;> rfl

end BatchUpdate

theorem BatchStatus.canMoveTo_of_open {current target : BatchStatus}
    (unprocessed : current ≠ .processed) (ahead : target ≠ .pending) :
    current.canMoveTo target = true := by
  cases current <;> cases target <;> first | rfl | contradiction

theorem BatchStatus.ne_pending_of_canMoveTo {current next : BatchStatus}
    (legal : current.canMoveTo next = true) : next ≠ .pending := by
  rintro rfl
  cases current <;> cases legal

theorem BatchStatus.eq_processed_of_canMoveTo {next : BatchStatus}
    (legal : BatchStatus.processed.canMoveTo next = true) : next = .processed := by
  cases next <;> first | rfl | cases legal

theorem BatchStatus.canMoveTo_trans {a b c : BatchStatus} (one : a.canMoveTo b = true)
    (other : b.canMoveTo c = true) : a.canMoveTo c = true := by
  by_cases ended : a = .processed
  · subst ended
    rw [eq_processed_of_canMoveTo one] at other
    exact other
  · exact canMoveTo_of_open ended (ne_pending_of_canMoveTo other)

namespace BatchStore

variable {s : BatchStore} {id : BatchId} {batch : Batch}

theorem id_of_get? (found : s.get? id = some batch) : batch.id = id :=
  Catalogue.keyOf_of_get? found

theorem get?_put (s : BatchStore) (batch : Batch) (id : BatchId) :
    (s.put batch).get? id = if batch.id = id then some batch else s.get? id :=
  Catalogue.get?_put s.kept batch id

theorem get?_erase (s : BatchStore) (gone id : BatchId) :
    (s.erase gone).get? id = if gone = id then none else s.get? id :=
  Catalogue.get?_erase s.kept gone id

theorem mem_values_iff : batch ∈ s.kept.values ↔ s.get? batch.id = some batch :=
  (Catalogue.get?_eq_some_iff.trans (and_iff_left rfl)).symm

theorem mem_withStatus_iff {status : BatchStatus} :
    batch ∈ s.withStatus status ↔ s.get? batch.id = some batch ∧ batch.status = status := by
  rw [withStatus, List.mem_filter, decide_eq_true_iff, mem_values_iff]

theorem update_of_failing (u : BatchUpdate) (failing : s.failWrites = true) :
    s.update id u = .error (writeFailure u.operation) := by
  simp only [update, failing, if_true]

theorem update_of_open {u : BatchUpdate} (writable : s.failWrites = false)
    (found : s.get? id = some batch) (unprocessed : batch.status ≠ .processed)
    (ahead : u.target ≠ .pending) : s.update id u = .ok (s.put (u.apply batch)) := by
  have legal := BatchStatus.canMoveTo_of_open unprocessed ahead
  simp only [update, writable, Bool.false_eq_true, if_false, found, legal, if_true]

theorem get?_put_apply (found : s.get? id = some batch) (u : BatchUpdate) :
    (s.put (u.apply batch)).get? id = some (u.apply batch) := by
  simp [get?_put, id_of_get? found]

end BatchStore

end LogPipeline
